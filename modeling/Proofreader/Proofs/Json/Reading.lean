import Proofreader.Json.Decode
import Proofreader.Proofs.Json.Written
import Proofreader.Proofs.Text.Offsets

/-!
# What reading comes to

Reading carries places along, for the faults that it may find.  Whether it succeeds, with which
result, and how far it gets, does not depend on them: `Yields read t o` says that reading at a text
`t` comes to `o`, which is the result and what is left of the text, or nothing after a fault.

A reader is put together from smaller ones by `>>=`, and so is what it comes to.  `Yields.bind` and
`Yields.bind_none` are the two cases, a result that is handed on and a fault that ends it all;
`Yields.bind_option` is both in one, for a reader that comes to what a function takes from a value.
With these a proof about a reader is a term that has the shape of the reader, and no cursor occurs
in it.  The lemmas on single moves are the only ones where the state of a cursor is looked at.

The fuel of a reader that recurses comes from the number of characters that are left, which is what
`enough` asks the cursor for.  It is never used up, because nothing is written with no character
(`InString.length_lt`, `Escape.length_lt`).
-/

set_option autoImplicit false

namespace Proofreader
namespace Json

variable {α β : Type}

/-- What came of reading: the result and what is left of the text, or nothing after a fault. -/
def outcome : EStateM.Result Fault Cursor α → Option (α × List Char)
  | .ok a s => some (a, s.rest)
  | .error _ _ => none

/-- Reading at a text comes to an outcome, wherever the text stands. -/
def Yields (read : ReadM α) (t : List Char) (o : Option (α × List Char)) : Prop :=
  ∀ s : Cursor, s.rest = t → outcome (read s) = o

/-! ## Readings one after the other

The state of a reading is passed through both of its parts, the state of a fault through the first
only. -/

section Bind

variable {x : ReadM α} {f : α → ReadM β} {s s' : Cursor} {a : α} {fault : Fault}

/-- What follows a reading starts where it stopped, -/
theorem bind_of_ok (h : x s = .ok a s') : (x >>= f) s = f a s' := by
  show EStateM.bind x f s = _
  rw [EStateM.bind, h]

/-- and is not reached behind a fault. -/
theorem bind_of_error (h : x s = .error fault s') : (x >>= f) s = .error fault s' := by
  show EStateM.bind x f s = _
  rw [EStateM.bind, h]

/-- What comes after two readings came from both of them. -/
theorem exists_of_bind_eq_ok {b : β} (h : (x >>= f) s = .ok b s') :
    ∃ a s'', x s = .ok a s'' ∧ f a s'' = .ok b s' := by
  cases hx : x s with
  | ok a s'' => exact ⟨a, s'', rfl, by rw [← h, bind_of_ok hx]⟩
  | error fault s'' =>
    rw [bind_of_error hx] at h
    cases h

end Bind

/-- Stepping over characters that satisfy a condition stops at the first that does not. -/
theorem dropWhile_append {keep : Char → Bool} {front t : List Char}
    (hfront : ∀ c ∈ front, keep c = true) (ht : ∀ c ∈ t.head?, keep c = false) :
    (front ++ t).dropWhile keep = t := by
  rw [List.dropWhile_append_of_pos hfront]
  cases t with
  | nil => rfl
  | cons c t => rw [List.dropWhile_cons, if_neg (by rw [ht c rfl]; decide)]

namespace Yields

open ReadM

theorem pure (a : α) (t : List Char) : Yields (pure a) t (some (a, t)) := by
  rintro s rfl
  rfl

/-- A reading that comes to a result. -/
theorem exists_ok {x : ReadM α} {t u : List Char} {a : α} (h : Yields x t (some (a, u)))
    {s : Cursor} (hs : s.rest = t) : ∃ s', x s = .ok a s' ∧ s'.rest = u := by
  have hxs := h s hs
  cases hr : x s with
  | ok b s' =>
    rw [hr, outcome, Option.some_inj, Prod.mk.injEq] at hxs
    obtain ⟨rfl, hs'⟩ := hxs
    exact ⟨s', rfl, hs'⟩
  | error fault s' =>
    rw [hr] at hxs
    cases hxs

/-- A reading that comes to none. -/
theorem exists_error {x : ReadM α} {t : List Char} (h : Yields x t none) {s : Cursor}
    (hs : s.rest = t) : ∃ fault s', x s = .error fault s' := by
  have hxs := h s hs
  cases hr : x s with
  | ok b s' =>
    rw [hr] at hxs
    cases hxs
  | error fault s' => exact ⟨fault, s', rfl⟩

theorem bind {x : ReadM α} {f : α → ReadM β} {t u : List Char} {a : α}
    {o : Option (β × List Char)} (hx : Yields x t (some (a, u))) (hf : Yields (f a) u o) :
    Yields (x >>= f) t o := by
  intro s hs
  obtain ⟨s', hxs, hs'⟩ := hx.exists_ok hs
  rw [bind_of_ok hxs]
  exact hf s' hs'

theorem bind_none {x : ReadM α} {t : List Char} (hx : Yields x t none) (f : α → ReadM β) :
    Yields (x >>= f) t none := by
  intro s hs
  obtain ⟨fault, s', hxs⟩ := hx.exists_error hs
  rw [bind_of_error hxs]
  rfl

/-- What follows a reading follows it on each of its results. -/
theorem bind_option {x : ReadM α} {f : α → ReadM β} {t u : List Char} {o : Option α}
    {next : α → Option (β × List Char)} (hx : Yields x t (o.map (·, u)))
    (hf : ∀ a ∈ o, Yields (f a) u (next a)) : Yields (x >>= f) t (o.bind next) := by
  cases o with
  | none => exact bind_none hx f
  | some a => exact bind hx (hf a rfl)

theorem map {x : ReadM α} {t u : List Char} {o : Option α} (f : α → β)
    (hx : Yields x t (o.map (·, u))) : Yields (do return f (← x)) t ((o.map f).map (·, u)) := by
  cases o with
  | none => exact bind_none hx _
  | some a => exact bind hx (pure _ _)

/-! ## Faults

There are several ways to say where a fault is, and they come to the same: there is no result. -/

theorem failLater (kind : FaultKind) (t : List Char) :
    Yields (failLater kind : ReadM α) t none := fun _ _ => rfl

theorem failHere (kind : FaultKind) (t : List Char) :
    Yields (failHere kind : ReadM α) t none := fun _ _ => rfl

theorem failAtNext (kind : FaultKind) (t : List Char) :
    Yields (failAtNext kind : ReadM α) t none := fun _ _ => rfl

theorem failAfter (n : Nat) (kind : FaultKind) (t : List Char) :
    Yields (failAfter n kind : ReadM α) t none := fun _ _ => rfl

/-! ## Moves

Here the state of a cursor is looked at.  Where characters are stepped over, the induction is on the
text that is left. -/

theorem peek (t : List Char) : Yields peek t (some (t.head?, t)) := by
  rintro s rfl
  rfl

theorem bump (c : Char) (t : List Char) : Yields bump (c :: t) (some ((), t)) := by
  rintro ⟨_, place, left, h⟩ rfl
  rfl

theorem enough (t : List Char) : Yields enough t (some (t.length + 1, t)) := by
  rintro s rfl
  rw [← s.left_eq]
  rfl

/-- A reading that ends in a fault whatever comes before. -/
theorem bind_fault {x : ReadM α} {f : α → ReadM β} {t : List Char}
    (hf : ∀ a u, Yields (f a) u none) : Yields (x >>= f) t none := by
  intro s _
  cases hx : x s with
  | ok a s' =>
    rw [bind_of_ok hx]
    exact hf a s'.rest s' rfl
  | error fault s' =>
    rw [bind_of_error hx]
    rfl

theorem skipWhile (keep : Char → Bool) (t : List Char) :
    Yields (skipWhile keep) t
      (some (t.length - (t.dropWhile keep).length, t.dropWhile keep)) := by
  have hrest : ∀ (t : List Char) place left h,
      (Cursor.skipWhileIn keep t place left h).rest = t.dropWhile keep := by
    intro t
    induction t with
    | nil => exact fun _ _ _ => rfl
    | cons c t ih =>
      intro place left h
      rw [Cursor.skipWhileIn, List.dropWhile_cons]
      split
      · exact ih _ _ _
      · rfl
  rintro s rfl
  show some (s.left - (s.skipWhile keep).left, (s.skipWhile keep).rest) = _
  rw [(s.skipWhile keep).left_eq, s.left_eq, Cursor.skipWhile, hrest]

/-- Blanks are stepped over, up to what follows them. -/
theorem peekPastSpace {t u : List Char} (h : Blanks t u) (hu : ∀ c ∈ u.head?, isSpace c = false) :
    Yields peekPastSpace t (some (u.head?, u)) := by
  obtain ⟨blanks, hblanks, rfl⟩ := h
  have hspace : ∀ c ∈ blanks, isSpace c = true := by
    intro c hc
    have hmem := hblanks hc
    simp only [List.mem_cons, List.not_mem_nil, or_false] at hmem
    obtain rfl | rfl | rfl | rfl := hmem <;> rfl
  have hskip := skipWhile isSpace (blanks ++ u)
  rw [dropWhile_append hspace hu] at hskip
  exact bind hskip (peek u)

theorem expectWord (word r : List Char) : Yields (expectWord word) (word ++ r) (some ((), r)) := by
  induction word with
  | nil => exact pure () r
  | cons c word ih =>
    refine bind (peek _) ?_
    rw [List.cons_append, List.head?_cons]
    simp only [beq_self_eq_true, if_true]
    exact bind (bump c _) ih

theorem located {body : ReadM α} {t : List Char} {o : Option (α × List Char)}
    (h : Yields body t o) : Yields (located body) t o := by
  intro s hs
  rw [← h s hs, ReadM.located]
  cases body s <;> rfl

theorem closing {body : ReadM α} {close : ReadM Unit} {t u : List Char} {a : α}
    {o : Option (Unit × List Char)} (hbody : Yields body t (some (a, u)))
    (hclose : Yields close u o) :
    Yields (closing body close) t (o.map fun left => (a, left.2)) := by
  intro s hs
  obtain ⟨s', hbs, hs'⟩ := hbody.exists_ok hs
  rw [ReadM.closing, hbs, ← hclose s' hs']
  dsimp only
  cases close s' <;> rfl

theorem closing_none {body : ReadM α} {t : List Char} (hbody : Yields body t none)
    (close : ReadM Unit) : Yields (ReadM.closing body close) t none := by
  intro s hs
  obtain ⟨fault, s', hbs⟩ := hbody.exists_error hs
  rw [ReadM.closing, hbs]
  dsimp only
  cases close s' <;> rfl

theorem refuse (expected : String) (t : List Char) : Yields (refuse expected : ReadM α) t none :=
  bind_fault fun _ _ => failHere _ _

theorem rest {f : Cursor → ReadM α} {t : List Char} {o : Option (α × List Char)}
    (h : ∀ s : Cursor, s.rest = t → Yields (f s) t o) : Yields (get >>= f) t o :=
  fun s hs => h s hs s hs

/-! ## Strings

What is read is compared with what is written by induction on `InString`, which has a constructor
for each branch of the reader.  Stepping over a string does less than reading it: a pair of halves
is not looked at as a pair, and takes two steps.  That is why `skipStringRest` has a case of its own
for it. -/

theorem hexNumber?_of_digits {digits : List Nat} {four : List Char}
    (h : List.Forall₂ IsHexDigit digits four) (n : Nat) :
    hexNumber? n four = some (digits.foldl (fun n digit => 16 * n + digit) n) := by
  have hdigit : ∀ d < 16, hexDigit? (Nat.digitChar d) = some d ∧
      hexDigit? (Nat.digitChar d).toUpper = some d := by decide
  induction h generalizing n with
  | nil => rfl
  | cons hc _ ih =>
    obtain ⟨hlt, rfl | rfl⟩ := hc
    · rw [hexNumber?, (hdigit _ hlt).1]
      exact ih _
    · rw [hexNumber?, (hdigit _ hlt).2]
      exact ih _

theorem readCode {n : Nat} {t r : List Char} (h : Code n t r) :
    Yields readCode t (some (n, r)) := by
  obtain ⟨digits, four, rfl, hfour, hdigits, rfl⟩ := h
  refine rest fun s hs => ?_
  have htake : s.rest.take 4 = four := by rw [hs, ← hfour, List.take_left]
  have hbytes := Pattern.length_le_byteLength four
  simp only [htake, if_neg (show ¬ Pattern.byteLength four < 4 by omega), hfour,
    hexNumber?_of_digits hdigits]
  match four, hfour with
  | [_, _, _, _], _ =>
    exact bind (bump _ _) (bind (bump _ _) (bind (bump _ _) (bind (bump _ _) (pure _ _))))

/-- The code of a character is no half of a pair. -/
theorem isHalf_toNat (c : Char) : isHighHalf c.toNat = false ∧ isLowHalf c.toNat = false := by
  have hc : c.toNat < 0xD800 ∨ 0xDFFF < c.toNat ∧ c.toNat < 0x110000 := c.valid
  rw [isHighHalf, isLowHalf]
  simp only [Bool.and_eq_false_iff, decide_eq_false_iff_not]
  omega

/-- The letters of the escapes, as reading knows them. -/
theorem simpleEscape?_of_mem {letter c : Char} (h : (letter, c) ∈ escapes) :
    simpleEscape? letter = some c ∧ letter ≠ 'u' := by
  have hall : ∀ p ∈ escapes, simpleEscape? p.1 = some p.2 ∧ p.1 ≠ 'u' := by decide
  exact hall _ h

theorem expectHalf (c : Char) (t : List Char) :
    Yields (expectHalf c) (c :: t) (some ((), t)) := by
  refine bind (peek _) ?_
  simp only [List.head?_cons, beq_self_eq_true, if_true]
  exact bump c t

theorem readEscape {c : Char} {t r : List Char} (h : Escape c t r) :
    Yields readEscape t (some (c, r)) := by
  cases h with
  | letter hmem r =>
    obtain ⟨hsome, hne⟩ := simpleEscape?_of_mem hmem
    refine bind (peek _) ?_
    rw [List.head?_cons]
    split
    · next heq => cases heq
    · next heq => exact absurd (Option.some_inj.1 heq) hne
    · next heq =>
      obtain rfl := Option.some_inj.1 heq
      rw [hsome]
      exact bind (bump _ _) (pure _ _)
  | code hcode =>
    refine bind (peek _) (bind (bump _ _) (bind (readCode hcode) ?_))
    rw [(isHalf_toNat c).1, (isHalf_toNat c).2, Char.ofNat_toNat]
    exact pure c r
  | @pair high low _ _ _ hhigh hlow hhighHalf hlowHalf hc =>
    have hnotLow : isLowHalf high = false := by
      rw [isLowHalf, Bool.and_eq_false_iff, decide_eq_false_iff_not]
      exact .inl (Nat.not_le.2 hhighHalf.2)
    have hisHigh : isHighHalf high = true := by
      rw [isHighHalf, Bool.and_eq_true, decide_eq_true_eq, decide_eq_true_eq]
      exact hhighHalf
    have hisLow : isLowHalf low = true := by
      rw [isLowHalf, Bool.and_eq_true, decide_eq_true_eq, decide_eq_true_eq]
      exact hlowHalf
    refine bind (peek _) (bind (bump _ _) (bind (readCode hhigh) ?_))
    rw [hnotLow, hisHigh]
    refine bind (expectHalf _ _) (bind (expectHalf _ _) (bind (readCode hlow) ?_))
    rw [hisLow, pairChar, ← hc, Char.ofNat_toNat]
    exact pure c r

/-- A string is read: to what was `read` before, in reverse order, its other characters are added.
The fuel is enough because every character of a string takes at least one of the text. -/
theorem readStringRest {s t r : List Char} (h : InString s t r) (fuel : Nat)
    (hfuel : t.length ≤ fuel) (read : List Char) :
    Yields (readStringRest fuel read) t (some (read.reverse ++ s, r)) := by
  induction h generalizing fuel read with
  | close r =>
    obtain ⟨fuel, rfl⟩ := Nat.exists_eq_add_of_lt hfuel
    refine bind (peek _) (bind (bump _ _) ?_)
    rw [List.append_nil]
    exact pure _ _
  | @plain c s t r hmark hback hcontrol h ih =>
    obtain ⟨fuel, rfl⟩ := Nat.exists_eq_add_of_lt hfuel
    have hrest := ih _ (Nat.le_add_right _ fuel) (c :: read)
    rw [List.reverse_cons, List.append_assoc] at hrest
    refine bind (peek _) ?_
    rw [List.head?_cons]
    split
    · next heq => cases heq
    · next heq => exact absurd (Option.some_inj.1 heq) hmark
    · next heq => exact absurd (Option.some_inj.1 heq) hback
    · next heq =>
      obtain rfl := Option.some_inj.1 heq
      rw [if_neg (Nat.not_lt.2 hcontrol)]
      exact bind (bump _ _) hrest
  | @escape c s t u r hescape h ih =>
    obtain ⟨fuel, rfl⟩ := Nat.exists_eq_add_of_lt hfuel
    have hrest := ih (t.length + fuel) (Nat.le_add_right_of_le (Nat.le_of_lt hescape.length_lt))
      (c :: read)
    rw [List.reverse_cons, List.append_assoc] at hrest
    exact bind (peek _) (bind (bump _ _) (bind (readEscape hescape) hrest))

theorem readString {s t r : List Char} (h : InString s t r) :
    Yields readString t (some (s, r)) :=
  bind (enough t) (readStringRest h _ (Nat.le_succ _) [])

theorem skipEscape_code {n : Nat} {t r : List Char} (h : Code n t r) :
    Yields skipEscape ('u' :: t) (some ((), r)) :=
  bind (peek _) (bind (bump _ _) (bind (readCode h) (pure _ _)))

theorem skipEscape_letter {letter c : Char} (h : (letter, c) ∈ escapes) (t : List Char) :
    Yields skipEscape (letter :: t) (some ((), t)) := by
  obtain ⟨hsome, hne⟩ := simpleEscape?_of_mem h
  refine bind (peek _) ?_
  rw [List.head?_cons]
  split
  · next heq => cases heq
  · next heq => exact absurd (Option.some_inj.1 heq) hne
  · next heq =>
    obtain rfl := Option.some_inj.1 heq
    rw [hsome]
    exact bump _ _

theorem skipStringRest_escape {t u : List Char} {o : Option (Unit × List Char)} {fuel : Nat}
    (h : Yields skipEscape t (some ((), u))) (hu : Yields (skipStringRest fuel) u o) :
    Yields (skipStringRest (fuel + 1)) ('\\' :: t) o :=
  bind (peek _) (bind (bump _ _) (bind h hu))

/-- A string is stepped over just as it is read. -/
theorem skipStringRest {s t r : List Char} (h : InString s t r) (fuel : Nat)
    (hfuel : t.length ≤ fuel) : Yields (skipStringRest fuel) t (some ((), r)) := by
  induction h generalizing fuel with
  | close r =>
    obtain ⟨fuel, rfl⟩ := Nat.exists_eq_add_of_lt hfuel
    exact bind (peek _) (bump _ _)
  | @plain c s t r hmark hback hcontrol h ih =>
    obtain ⟨fuel, rfl⟩ := Nat.exists_eq_add_of_lt hfuel
    refine bind (peek _) ?_
    rw [List.head?_cons]
    split
    · next heq => cases heq
    · next heq => exact absurd (Option.some_inj.1 heq) hmark
    · next heq => exact absurd (Option.some_inj.1 heq) hback
    · next heq =>
      obtain rfl := Option.some_inj.1 heq
      rw [if_neg (Nat.not_lt.2 hcontrol)]
      exact bind (bump _ _) (ih _ (Nat.le_add_right _ _))
  | escape hescape h ih =>
    obtain ⟨fuel, rfl⟩ := Nat.exists_eq_add_of_lt hfuel
    cases hescape with
    | letter hmem => exact skipStringRest_escape (skipEscape_letter hmem _) (ih _ (by simp; omega))
    | code hcode =>
      exact skipStringRest_escape (skipEscape_code hcode)
        (ih _ (by simp [hcode.length_eq]; omega))
    | @pair high low t u _ hhigh hlow =>
      -- A pair of halves is stepped over as two escapes.
      have hlength := hhigh.length_eq
      rw [List.length_cons, List.length_cons, hlow.length_eq] at hlength
      have hfuel' : ('u' :: t).length + fuel = t.length + fuel + 1 := by
        rw [List.length_cons, Nat.add_right_comm]
      refine skipStringRest_escape (skipEscape_code hhigh) ?_
      rw [hfuel']
      exact skipStringRest_escape (skipEscape_code hlow) (ih _ (by omega))

theorem skipString {s t r : List Char} (h : InString s t r) :
    Yields skipString t (some ((), r)) :=
  bind (enough t) (skipStringRest h _ (Nat.le_succ _))

end Yields
end Json
end Proofreader
