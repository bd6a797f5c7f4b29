/-!
# Comments

A comment begins with `<!--` and ends with the first `-->` behind it, on the same line.  What is
commented out is not checked, so `strip` takes the comments out of a text before the rules see it.

The scan goes from left to right, and text that is already kept never becomes part of a comment: the
pieces around a comment may together look like one and still stay.
-/

set_option autoImplicit false

namespace Proofreader
namespace Text

/-- How many characters there are up to the first `-->` and with it, if it comes before the end of
the line. -/
def closingLength? : List Char → Option Nat
  | '-' :: '-' :: '>' :: _ => some 3
  | c :: rest => if c == '\n' then none else (closingLength? rest).map (· + 1)
  | [] => none

/-- The length of the comment that a text begins with, if it does. -/
def commentLength? : List Char → Option Nat
  | '<' :: '!' :: '-' :: '-' :: rest => (closingLength? rest).map (· + 4)
  | _ => none

/-- A text without its comments; the first `skip` characters belong to a comment already. -/
def stripFrom : (skip : Nat) → List Char → List Char
  | _, [] => []
  | skip + 1, _ :: rest => stripFrom skip rest
  | 0, c :: rest =>
    match commentLength? (c :: rest) with
    | some length => stripFrom (length - 1) rest
    | none => c :: stripFrom 0 rest

/-- Whether there is a comment anywhere in a text. -/
def containsComment : List Char → Bool
  | [] => false
  | c :: rest => (commentLength? (c :: rest)).isSome || containsComment rest

/-- A text without its comments. -/
def withoutComments (text : String) : String := String.ofList (stripFrom 0 text.toList)

/-- Whether there is a comment in a text. -/
def hasComment (text : String) : Bool := containsComment text.toList

/-- A comment has at least the seven characters of its brackets. -/
theorem seven_le_of_commentLength? {text : List Char} {n : Nat}
    (h : commentLength? text = some n) : 7 ≤ n := by
  unfold commentLength? at h
  split at h
  · rename_i rest
    obtain ⟨k, hk, rfl⟩ := Option.map_eq_some_iff.1 h
    suffices 3 ≤ k by omega
    clear h
    induction rest generalizing k with
    | nil => simp [closingLength?] at hk
    | cons c rest ih =>
      unfold closingLength? at hk
      split at hk
      · simp_all
      · split at hk
        · simp at hk
        · rename_i heq _
          obtain ⟨rfl, rfl⟩ := List.cons.inj heq
          obtain ⟨m, hm, rfl⟩ := Option.map_eq_some_iff.1 hk
          have := ih m hm
          omega
      · simp at hk
  · simp at h

/-- Without a comment there is nothing to take out. -/
theorem stripFrom_eq_self {text : List Char} (h : containsComment text = false) :
    stripFrom 0 text = text := by
  induction text with
  | nil => rfl
  | cons c rest ih =>
    simp only [containsComment, Bool.or_eq_false_iff, Option.isSome_eq_false_iff,
      Option.isNone_iff_eq_none] at h
    simp [stripFrom, h.1, ih h.2]

end Text
end Proofreader
