import Proofreader.Proofs.Json.Numbers

/-!
# Reading and skipping values

A value is written in one of many ways, and is read or stepped over in each of them.

* `Written.skips` — whatever is written can be stepped over.
* `Reads` — a reader of values, by what it takes from each value and which ones it refuses.

A reader of a file knows what it expects, and for each kind of thing there is a reader.  `Reads`
makes a function on values out of each: what it takes from a value, if it does not refuse it.  How
the value was written is then gone, and everything that is built on readers is built on these
functions.  That a reader is such a function at all is part of what is proved: two texts of one
value are read alike.

Whatever is under an unknown key is stepped over, and it may be any value.  So stepping over goes by
induction on all that can be written, with `Skips` as what is proved of each phrase.  The fuel
bounds the depth of calls, and here the bound is not the number of characters: a value, and then the
rest that it is a part of, each take a step, though they may share one character.  Twice the length
is enough for both; a value may start with as much fuel as that, and a rest must have one step more.
-/

set_option autoImplicit false

namespace Proofreader
namespace Json

variable {α β : Type}

open ReadM

/-! ## Where a value begins

A reader chooses by the next character.  So it has to be known with which character a value can
begin, and that behind a value comes something by which a number is delimited. -/

theorem isSpace_eq_true_iff {c : Char} : isSpace c = true ↔ c ∈ [' ', '\t', '\n', '\r'] := by
  rw [isSpace]
  simp only [Bool.or_eq_true, beq_iff_eq, List.mem_cons, List.not_mem_nil, or_false]
  tauto

theorem isSpace_of_isDigit {c : Char} (hc : isDigit c = true) : isSpace c = false := by
  refine Bool.eq_false_iff.2 fun hspace => ?_
  rw [isDigit_eq_false rfl (isSpace_eq_true_iff.1 hspace)] at hc
  cases hc

/-- A number begins with neither a blank nor a mark or bracket. -/
theorem Numeral.exists_first (n : Numeral) (r : List Char) :
    ∃ c u, n.text ++ r = c :: u ∧ isSpace c = false ∧ c ∉ ['"', '[', ']', '\x7b'] := by
  obtain ⟨first, more, hdigits, hfirst, -⟩ := toDigits_eq_cons n.whole
  rw [n.text_append, hdigits]
  cases n.minus with
  | true => exact ⟨_, _, rfl, rfl, by decide⟩
  | false =>
    refine ⟨first, _, rfl, isSpace_of_isDigit hfirst, fun hmem => ?_⟩
    rw [isDigit_eq_false rfl hmem] at hfirst
    cases hfirst

/-- A value begins with a character that is neither a blank nor the end of an array. -/
theorem Written.exists_first {v : Value} {t r : List Char} (h : Written (.value v) t r) :
    ∃ c u, t = c :: u ∧ isSpace c = false ∧ c ≠ ']' := by
  cases h with
  | number n r =>
    obtain ⟨c, u, hcons, hc, hmem⟩ := n.exists_first r
    exact ⟨c, u, hcons, hc, fun heq => hmem (by rw [heq]; decide)⟩
  | _ => exact ⟨_, _, rfl, rfl, by decide⟩

/-- Behind an element or a field comes what delimits it. -/
theorem Lead.delimited {t u : List Char} (h : Lead false t u) : Delimited t := by
  obtain ⟨x, hcomma, -⟩ := h
  refine hcomma.delimited ?_
  rintro c ⟨⟩
  decide

theorem Written.delimited_elements {vs : List Value} {t r : List Char}
    (h : Written (.elements false vs) t r) : Delimited t := by
  cases h with
  | endElements h =>
    refine h.delimited ?_
    rintro c ⟨⟩
    decide
  | element hlead => exact hlead.delimited

theorem Written.delimited_fields {fs : List (String × Value)} {t r : List Char}
    (h : Written (.fields false fs) t r) : Delimited t := by
  cases h with
  | endFields h =>
    refine h.delimited ?_
    rintro c ⟨⟩
    decide
  | field hlead => exact hlead.delimited

namespace Yields

/-- Blanks are stepped over up to a character that is none. -/
theorem peekPastSpace_cons {t u : List Char} {c : Char} (h : Blanks t (c :: u))
    (hc : isSpace c = false) : Yields ReadM.peekPastSpace t (some (some c, c :: u)) :=
  peekPastSpace h fun _ hd => Option.some_inj.1 hd ▸ hc

theorem valueStart {t u : List Char} {c : Char} (h : Blanks t (c :: u))
    (hc : isSpace c = false) : Yields ReadM.valueStart t (some (c, c :: u)) :=
  bind (peekPastSpace_cons h hc) (pure _ _)

end Yields

/-! ## Skipping

Behind a bracket an element or the end may come, behind an element a comma or the end.  `Phrase` has
a flag for this, and so have the two functions here; with the flag set one way they are what a
reader does behind a bracket or a brace, and set the other way what it does behind an element or a
field. -/

namespace ReadM

/-- Step over the rest of an array, behind its bracket or behind an element. -/
def skipElementsRest (first : Bool) (fuel : Nat) : ReadM Unit :=
  if first then do
    match ← peekPastSpace with
    | none => failAtNext .arrayUnfinished
    | some ']' => bump
    | some _ => skipElements fuel
  else do
    match ← peekPastSpace with
    | none => failAtNext .arrayUnfinished
    | some ',' => do bump; skipElements fuel
    | some ']' => bump
    | some _ => failAtNext .arrayCommaExpected

/-- Step over the rest of an object, behind its brace or behind a field. -/
def skipFieldsRest (first : Bool) (fuel : Nat) : ReadM Unit :=
  if first then do
    match ← peekPastSpace with
    | none => failAtNext .objectUnfinished
    | some '\x7d' => bump
    | some _ => skipFields fuel
  else do
    match ← peekPastSpace with
    | none => failAtNext .objectUnfinished
    | some ',' => do bump; skipFields fuel
    | some '\x7d' => bump
    | some _ => failAtNext .objectCommaExpected

end ReadM

/-- A phrase is stepped over, with enough fuel: a value and then what follows it take one step each
but at least one character only, so two steps for each character are enough. -/
def Skips : Phrase → (t r : List Char) → Prop
  | .value _, t, r => ∀ fuel before, 2 * t.length ≤ fuel → Blanks before t → Delimited r →
      Yields (skipValue fuel) before (some ((), r))
  | .elements first _, t, r => ∀ fuel, 2 * t.length < fuel →
      Yields (skipElementsRest first fuel) t (some ((), r))
  | .fields first _, t, r => ∀ fuel, 2 * t.length < fuel →
      Yields (skipFieldsRest first fuel) t (some ((), r))

namespace Yields

theorem skipElements {v : Value} {vs : List Value} {before u w r : List Char}
    (hv : Skips (.value v) u w) (hvs : Skips (.elements false vs) w r) (hw : Delimited w)
    (hlt : w.length < u.length) (hbefore : Blanks before u) (fuel : Nat)
    (hfuel : 2 * u.length < fuel) : Yields (skipElements fuel) before (some ((), r)) := by
  obtain ⟨fuel, rfl⟩ := Nat.exists_eq_add_of_lt hfuel
  exact bind (hv _ before (by omega) hbefore hw) (hvs _ (by omega))

theorem skipFields {v : Value} {fs : List (String × Value)}
    {key before k a b u w r : List Char} (hbefore : Blanks before ('"' :: k))
    (hkey : InString key k a) (hcolon : Blanks a (':' :: b)) (hblanks : Blanks b u)
    (hv : Skips (.value v) u w) (hfs : Skips (.fields false fs) w r) (hw : Delimited w)
    (hlt : w.length < u.length) (fuel : Nat) (hfuel : 2 * u.length < fuel) :
    Yields (skipFields fuel) before (some ((), r)) := by
  obtain ⟨fuel, rfl⟩ := Nat.exists_eq_add_of_lt hfuel
  refine bind (peekPastSpace_cons hbefore (by decide)) (bind (bump _ _) ?_)
  refine bind (skipString hkey) (bind (peekPastSpace_cons hcolon (by decide)) (bind (bump _ _) ?_))
  exact bind (hv _ b (by omega) hblanks hw) (hfs _ (by omega))

end Yields

theorem Skips.value {v : Value} {t r : List Char} (h : Written (.value v) t r)
    (hskips : ∀ fuel before, 2 * t.length ≤ fuel + 1 → Blanks before t → Delimited r →
      Yields (skipValue (fuel + 1)) before (some ((), r))) : Skips (.value v) t r := by
  intro fuel before hfuel
  have hlt := h.length_lt
  cases fuel with
  | zero => omega
  | succ fuel => exact hskips fuel before hfuel

/-- **What is written is stepped over**, whatever it is. -/
theorem Written.skips {p : Phrase} {t r : List Char} (h : Written p t r) : Skips p t r := by
  induction h with
  | nullWord r =>
    exact .value (.nullWord r) fun _ before _ hbefore _ =>
      .bind (.peekPastSpace_cons hbefore (by decide)) (.bind (.bump _ _) (.expectWord _ _))
  | trueWord r =>
    exact .value (.trueWord r) fun _ before _ hbefore _ =>
      .bind (.peekPastSpace_cons hbefore (by decide)) (.bind (.bump _ _) (.expectWord _ _))
  | falseWord r =>
    exact .value (.falseWord r) fun _ before _ hbefore _ =>
      .bind (.peekPastSpace_cons hbefore (by decide)) (.bind (.bump _ _) (.expectWord _ _))
  | number n r =>
    refine .value (.number n r) fun fuel before _ hbefore hr => ?_
    rw [n.text_append] at hbefore
    cases hminus : n.minus with
    | true =>
      rw [hminus] at hbefore
      exact .bind (.peekPastSpace_cons hbefore (by decide)) (.bind (.bump _ _) (.skipNumber n hr))
    | false =>
      rw [hminus] at hbefore
      have hnumber := Yields.skipNumber n hr
      obtain ⟨c, more, hdigits, hc, -⟩ := toDigits_eq_cons n.whole
      rw [hdigits] at hnumber hbefore
      refine .bind (.peekPastSpace_cons hbefore (isSpace_of_isDigit hc)) ?_
      -- No word, string or bracket begins with a digit.
      split <;> rename_i heq
      case h_9 =>
        obtain rfl := Option.some_inj.1 heq
        rw [if_pos hc]
        exact hnumber
      all_goals cases heq <;> cases hc
  | string h =>
    exact .value (.string h) fun _ before _ hbefore _ =>
      .bind (.peekPastSpace_cons hbefore (by decide)) (.bind (.bump _ _) (.skipString h))
  | array h ih =>
    refine .value (.array h) fun _ before hfuel hbefore _ => ?_
    rw [List.length_cons] at hfuel
    exact .bind (.peekPastSpace_cons hbefore (by decide)) (.bind (.bump _ _) (ih _ (by omega)))
  | object h ih =>
    refine .value (.object h) fun _ before hfuel hbefore _ => ?_
    rw [List.length_cons] at hfuel
    exact .bind (.peekPastSpace_cons hbefore (by decide)) (.bind (.bump _ _) (ih _ (by omega)))
  | @endElements first t r h =>
    intro fuel _
    cases first <;> exact .bind (.peekPastSpace_cons h (by decide)) (.bump _ _)
  | @element first v vs t u w r hlead hv hvs ihv ihvs =>
    intro fuel hfuel
    have hle := hlead.length_le
    cases first with
    | true =>
      obtain ⟨c, x, rfl, hc, hne⟩ := hv.exists_first
      refine .bind (.peekPastSpace_cons hlead hc) ?_
      split
      · next heq => cases heq
      · next heq => exact absurd (Option.some_inj.1 heq) hne
      · exact .skipElements ihv ihvs hvs.delimited_elements hv.length_lt (.refl _) fuel (by omega)
    | false =>
      obtain ⟨x, hcomma, hblanks⟩ := hlead
      refine .bind (.peekPastSpace_cons hcomma (by decide)) (.bind (.bump _ _) ?_)
      exact .skipElements ihv ihvs hvs.delimited_elements hv.length_lt hblanks fuel (by omega)
  | @endFields first t r h =>
    intro fuel _
    cases first <;> exact .bind (.peekPastSpace_cons h (by decide)) (.bump _ _)
  | @field first key v fs t k a b u w r hlead hkey hcolon hblanks hv hfs ihv ihfs =>
    intro fuel hfuel
    have hlt := hlead.length_lt_of_key hkey hcolon hblanks
    have hfields : ∀ before, Blanks before ('"' :: k) →
        Yields (skipFields fuel) before (some ((), r)) := fun before hbefore =>
      .skipFields hbefore hkey hcolon hblanks ihv ihfs hfs.delimited_fields hv.length_lt fuel
        (by omega)
    cases first with
    | true =>
      exact .bind (.peekPastSpace_cons hlead (by decide)) (hfields _ (.refl _))
    | false =>
      obtain ⟨x, hcomma, hblanks⟩ := hlead
      exact .bind (.peekPastSpace_cons hcomma (by decide)) (.bind (.bump _ _) (hfields x hblanks))

/-! ## Reading

A value of another kind is refused.  To name it in the fault, its beginning is read on, which may
meet another fault; but a fault it is either way, so nothing needs to be known of that value. -/

namespace Value

/-- The natural number that a value is. -/
def natural? : Value → Option Nat
  | number n => n.natural?
  | _ => none

/-- The string that a value is. -/
def string? : Value → Option String
  | string s => some s
  | _ => none

end Value

/-- A reader of values: it takes what `take` says from the value that comes next, behind blanks, or
refuses it. -/
def Reads (read : ReadM α) (take : Value → Option α) : Prop :=
  ∀ ⦃v : Value⦄ ⦃before t r : List Char⦄, Blanks before t → Written (.value v) t r → Delimited r →
    Yields read before ((take v).map (·, r))

namespace Reads

/-- A number is refused where only a mark, a bracket or a brace is not. -/
theorem yields_number {n : Numeral} {before r : List Char} (h : Blanks before (n.text ++ r))
    {f : Char → ReadM α} (expected : String)
    (hf : ∀ c, c ∉ ['"', '[', ']', '\x7b'] → f c = refuse expected) :
    Yields (valueStart >>= f) before none := by
  obtain ⟨c, u, hcons, hc, hmem⟩ := n.exists_first r
  rw [hcons] at h
  refine .bind (.valueStart h hc) ?_
  rw [hf c hmem]
  exact .refuse _ _

/-- Every value is stepped over. -/
theorem skipAny : Reads skipAny fun _ => some () := by
  intro v before t r hbefore h hr
  have hle := hbefore.length_le
  exact .bind (.enough before) (h.skips _ _ (by omega) hbefore hr)

theorem expectString (expected : String) : Reads (expectString expected) Value.string? := by
  intro v before t r hbefore h hr
  cases h with
  | number n r =>
    exact yields_number hbefore expected fun c hmem =>
      if_neg fun heq => hmem (by rw [eq_of_beq heq]; decide)
  | string h =>
    exact .bind (.valueStart hbefore rfl) (.bind (.bump _ _) (.bind (.readString h) (.pure _ _)))
  | _ => exact .bind (.valueStart hbefore rfl) (.refuse _ _)

theorem expectNatural {limit : Nat} (hlimit : limit ≤ wordSize) (expected : String) :
    Reads (expectNatural limit expected) fun v => v.natural?.filter (· < limit) := by
  intro v before t r hbefore h hr
  cases h with
  | number n r =>
    rw [n.text_append] at hbefore
    cases hminus : n.minus with
    | true =>
      rw [hminus] at hbefore
      have hnone : (Value.number n).natural? = none := by
        simp [Value.natural?, Numeral.natural?, hminus]
      simp only [hnone]
      refine .bind (.valueStart hbefore rfl) (.bind (.bump _ _) ?_)
      exact (Ensures.readNumber_true _).bind_none
        fun num u hnum => .checkNatural_isOther limit expected hnum u
    | false =>
      rw [hminus] at hbefore
      have hnumber := Yields.readNatural hlimit expected hminus hr
      obtain ⟨c, more, hdigits, hc, -⟩ := toDigits_eq_cons n.whole
      rw [hdigits] at hnumber hbefore
      refine .bind (.valueStart hbefore (isSpace_of_isDigit hc)) ?_
      rw [if_neg, if_pos hc]
      · exact hnumber
      · intro heq
        rw [eq_of_beq heq] at hc
        cases hc
  | _ => exact .bind (.valueStart hbefore rfl) (.refuse _ _)

end Reads

end Json
end Proofreader
