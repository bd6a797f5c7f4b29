/-!
# Handles

Whoever asks for work gets a handle to its result.  The results themselves are kept in a table of
`Slots`; a handle is the number of a slot, so copies of a handle share what they show.  A slot
waits, then it is resolved or cancelled, and that is final.  The result of a resolved slot can be
taken once.
-/

set_option autoImplicit false

namespace Proofreader

/-- What a handle shows. -/
inductive HandleState (α : Type) where
  /-- The work did not run yet. -/
  | pending
  /-- The work ran; the result is there until it is taken. -/
  | resolved (value : Option α)
  /-- The work will never run. -/
  | cancelled
deriving Repr, DecidableEq

namespace HandleState

variable {α : Type}

/-- Whether the work did not run yet. -/
def isPending : HandleState α → Bool
  | pending => true
  | _ => false

/-- Whether the work ran. -/
def isResolved : HandleState α → Bool
  | resolved _ => true
  | _ => false

/-- Whether the work will never run. -/
def isCancelled : HandleState α → Bool
  | cancelled => true
  | _ => false

/-- The word for what a handle shows. -/
def text : HandleState α → String
  | pending => "pending"
  | resolved (some _) => "resolved"
  | resolved none => "resolved (taken)"
  | cancelled => "cancelled"

/-- The result, if it is there. -/
def value? : HandleState α → Option α
  | resolved value => value
  | _ => none

end HandleState

/-- A handle: the number of a slot. -/
structure Handle where
  /-- The number. -/
  index : Nat
deriving Repr, DecidableEq

/-- What all handles show. -/
structure Slots (α : Type) where
  /-- What each handle shows, the first handle first. -/
  states : List (HandleState α)
deriving Repr, DecidableEq

namespace Slots

variable {α : Type}

/-- No handles yet. -/
def empty : Slots α := ⟨[]⟩

/-- A new handle, which is waiting. -/
def new (s : Slots α) : Handle × Slots α := (⟨s.states.length⟩, ⟨s.states ++ [.pending]⟩)

/-- What a handle shows.  A number that no handle has shows nothing to wait for. -/
def get (s : Slots α) (h : Handle) : HandleState α := (s.states[h.index]?).getD .cancelled

/-- Change what a handle shows. -/
def set (s : Slots α) (h : Handle) (o : HandleState α) : Slots α := ⟨s.states.set h.index o⟩

/-- The work of a handle ran. -/
def resolve (s : Slots α) (h : Handle) (a : α) : Slots α := s.set h (.resolved (some a))

/-- The work of a handle will never run. -/
def cancel (s : Slots α) (h : Handle) : Slots α := s.set h .cancelled

/-- Take the result of a handle, if it is there. -/
def take (s : Slots α) (h : Handle) : Option α × Slots α :=
  match s.get h with
  | .resolved value => (value, s.set h (.resolved none))
  | _ => (none, s)

/-- The word for what a handle shows, as it is printed. -/
def describe (s : Slots α) (h : Handle) : String :=
  "DebounceHandle \x7b state: \"" ++ (s.get h).text ++ "\" \x7d"

theorem get_set (s : Slots α) (h other : Handle) (o : HandleState α)
    (hh : h.index < s.states.length) :
    (s.set h o).get other = if h = other then o else s.get other := by
  obtain ⟨i⟩ := h
  obtain ⟨j⟩ := other
  simp only [get, set, List.getElem?_set, Handle.mk.injEq] at *
  split <;> simp_all

theorem get_new (s : Slots α) (other : Handle) :
    s.new.2.get other = if other = s.new.1 then .pending else s.get other := by
  obtain ⟨j⟩ := other
  simp only [get, new, List.getElem?_append, Handle.mk.injEq]
  by_cases hj : j < s.states.length
  · rw [if_pos hj, if_neg (by omega)]
  · rw [if_neg hj]
    by_cases he : j = s.states.length
    · simp [he]
    · rw [if_neg he, List.getElem?_eq_none (by simp; omega), List.getElem?_eq_none (by omega)]

end Slots
end Proofreader
