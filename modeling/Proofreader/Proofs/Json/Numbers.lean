import Proofreader.Proofs.Json.Reading

/-!
# Reading and skipping numbers

A number is read up to what delimits it.  Of what comes out only integers without a sign matter
here: they are read as they are written as long as they fit, and nothing else is read as one of
them.

* `Yields.readNatural` — which numbers are a natural number below a limit.
* `Yields.skipNumber` — every number is stepped over, however large it is.

Reading has many branches that end in a negative number, in a double or in a fault, and which of
these it is may depend on the rounding of doubles.  None is ever taken for a natural number, and so
it need not be known which of them comes out.  `Ensures` says less than `Yields`, namely a property
of the result if there is one, and it goes through all those branches without computing anything.

An integer is read digit by digit as long as the number fits into a word.  It is natural if the
digits come to their end before the room does.  So there are two lemmas about `appendDigits`: if the
value of all the digits is small enough it is computed, and if all digits are used it is what was
computed.  The second one is for numbers that are too large, which are read on as a double.
-/

set_option autoImplicit false

namespace Proofreader
namespace Json

variable {α β : Type}

/-! ## Digits

The digits of a number are those of the standard library, `Nat.toDigits`, and the value of a list of
digits is `Nat.ofDigitChars`; that the one undoes the other is known there.  What is added is how a
number begins, since a reader looks at its first digit. -/

/-- No digit comes next. -/
def NoDigit (t : List Char) : Prop := ∀ c ∈ t.head?, isDigit c = false

/-- A character of a list without digits is none. -/
theorem isDigit_eq_false {chars : List Char} (h : chars.all (!isDigit ·) = true) {c : Char}
    (hc : c ∈ chars) : isDigit c = false :=
  Bool.not_eq_true' _ ▸ List.all_eq_true.1 h c hc

theorem takeWhile_append {digits t : List Char} (hdigits : ∀ c ∈ digits, isDigit c = true)
    (ht : NoDigit t) : (digits ++ t).takeWhile isDigit = digits := by
  rw [List.takeWhile_append_of_pos hdigits]
  cases t with
  | nil => rw [List.takeWhile_nil, List.append_nil]
  | cons c t =>
    rw [List.takeWhile_cons, if_neg (by rw [ht c rfl]; decide), List.append_nil]

/-- A number that is not zero is written without leading zeros. -/
theorem head?_toDigits_ne {n : Nat} (hn : n ≠ 0) : (Nat.toDigits 10 n).head? ≠ some '0' := by
  induction n using Nat.strongRecOn with
  | _ n ih =>
    rw [Nat.toDigits_eq_if (by decide)]
    split
    · rw [List.head?_cons]
      exact fun h => hn (Nat.digitChar_eq_zero.1 (Option.some_inj.1 h))
    · rw [List.head?_append_of_ne_nil _ Nat.toDigits_ne_nil]
      exact ih (n / 10) (by omega) (by omega)

theorem isDigit_of_mem_toDigits (n : Nat) : ∀ c ∈ Nat.toDigits 10 n, isDigit c = true :=
  fun _ hc => Nat.isDigit_of_mem_toDigits (by decide) (by decide) hc

/-- A number begins with a digit, and if that is a zero, no other follows. -/
theorem toDigits_eq_cons (n : Nat) : ∃ first more, Nat.toDigits 10 n = first :: more ∧
    isDigit first = true ∧ ¬ (first == '0' && !more.isEmpty) = true := by
  obtain ⟨first, more, hcons⟩ :=
    List.exists_cons_of_ne_nil (Nat.toDigits_ne_nil : Nat.toDigits 10 n ≠ [])
  refine ⟨first, more, hcons, isDigit_of_mem_toDigits n first (hcons ▸ List.mem_cons_self), ?_⟩
  intro h
  obtain ⟨hfirst, hmore⟩ := Bool.and_eq_true_iff.1 h
  rw [eq_of_beq hfirst] at hcons
  by_cases hn : n = 0
  · rw [hn, Nat.toDigits_zero, List.cons.injEq] at hcons
    rw [← hcons.2] at hmore
    cases hmore
  · exact head?_toDigits_ne hn (by rw [hcons]; rfl)

theorem decide_one_lt_length (c : Char) (more : List Char) :
    decide (1 < (c :: more).length) = !more.isEmpty := by
  cases more with
  | nil => rfl
  | cons d more => exact decide_eq_true (Nat.le_add_left _ _)

theorem ofDigitChars_cons (c : Char) (digits : List Char) (n : Nat) :
    Nat.ofDigitChars 10 (c :: digits) n = Nat.ofDigitChars 10 digits (10 * n + digitValue c) :=
  Nat.ofDigitChars_cons

theorem le_ofDigitChars (digits : List Char) (n : Nat) : n ≤ Nat.ofDigitChars 10 digits n := by
  rw [Nat.ofDigitChars_eq_ofDigitChars_zero]
  exact Nat.le_add_right_of_le (Nat.le_mul_of_pos_left n (Nat.pow_pos (by decide)))

/-- Digits are appended as long as the number is small enough. -/
theorem appendDigits_of_lt {limit : Nat} (digits : List Char) {n : Nat}
    (h : Nat.ofDigitChars 10 digits n < limit) :
    appendDigits limit n digits = (Nat.ofDigitChars 10 digits n, digits.length) := by
  induction digits generalizing n with
  | nil => rfl
  | cons c digits ih =>
    rw [ofDigitChars_cons] at h ⊢
    have hlt := Nat.lt_of_le_of_lt (le_ofDigitChars digits _) h
    rw [appendDigits, if_pos hlt, ih h]
    rfl

theorem appendDigits_fst_eq {limit : Nat} (digits : List Char) {n : Nat}
    (h : digits.length ≤ (appendDigits limit n digits).2) :
    (appendDigits limit n digits).1 = Nat.ofDigitChars 10 digits n := by
  induction digits generalizing n with
  | nil => rfl
  | cons c digits ih =>
    rw [appendDigits] at h ⊢
    split at h
    · next hlt =>
      rw [if_pos hlt]
      exact ih (Nat.le_of_succ_le_succ h)
    · exact absurd h (Nat.not_succ_le_zero _)

/-! ## What follows the digits of a number

Digits are read up to a character that is none.  Behind the whole part this may be the point, the
letter of the exponent, or what delimits the number, and of each it is to be seen that it is no
digit. -/

theorem Delimited.noDigit {r : List Char} (hr : Delimited r) : NoDigit r :=
  fun c hc => isDigit_eq_false rfl (hr c hc)

theorem Delimited.head?_ne {r : List Char} (hr : Delimited r) :
    r.head? ≠ some '.' ∧ r.head? ≠ some 'e' ∧ r.head? ≠ some 'E' := by
  refine ⟨fun h => ?_, fun h => ?_, fun h => ?_⟩ <;> exact absurd (hr _ h) (by decide)

namespace Numeral

variable (n : Numeral) {r : List Char}

theorem exponentText_append (hr : Delimited r) :
    NoDigit (n.exponentText ++ r) ∧ (n.exponentText ++ r).head? ≠ some '.' := by
  rw [exponentText]
  cases n.exponent with
  | none => exact ⟨hr.noDigit, hr.head?_ne.1⟩
  | some e =>
    obtain ⟨letter, sign, digits, rfl | rfl, hsign⟩ := e
    · exact ⟨fun c hc => Option.some_inj.1 hc ▸ rfl, by simp [Exponent.text]⟩
    · exact ⟨fun c hc => Option.some_inj.1 hc ▸ rfl, by simp [Exponent.text]⟩

theorem fractionText_append (hr : Delimited r) :
    NoDigit (n.fractionText ++ (n.exponentText ++ r)) := by
  rw [fractionText]
  cases n.fraction with
  | none => exact (n.exponentText_append hr).1
  | some d =>
    rintro c ⟨⟩
    rfl

end Numeral

namespace Yields

open ReadM

theorem peekDigits {digits t : List Char} (hdigits : ∀ c ∈ digits, isDigit c = true)
    (ht : NoDigit t) : Yields peekDigits (digits ++ t) (some (digits, digits ++ t)) := by
  refine rest fun s hs => ?_
  rw [hs, takeWhile_append hdigits ht]
  exact pure _ _

theorem skipDigits {digits t : List Char} (hdigits : ∀ c ∈ digits, isDigit c = true)
    (ht : NoDigit t) : Yields skipDigits (digits ++ t) (some (digits.length, t)) := by
  have h := skipWhile isDigit (digits ++ t)
  rw [dropWhile_append hdigits ht, List.length_append, Nat.add_sub_cancel] at h
  exact h

/-! ## Skipping

The parts of a number are stepped over one after the other, and each may be missing. -/

theorem skipExponent (n : Numeral) {r : List Char} (hr : Delimited r) :
    Yields (do
      let letter ← ReadM.peek
      if letter == some 'e' || letter == some 'E' then
        ReadM.bump
        let sign ← ReadM.peek
        if sign == some '+' || sign == some '-' then ReadM.bump
        if (← ReadM.skipDigits) == 0 then ReadM.failAtNext .numberInvalid)
      (n.exponentText ++ r) (some ((), r)) := by
  refine bind (peek _) ?_
  rw [Numeral.exponentText]
  cases n.exponent with
  | none =>
    rw [if_neg (by simpa using hr.head?_ne.2)]
    exact pure _ _
  | some e =>
    obtain ⟨letter, sign, digits, hletter, hsign⟩ := e
    have hdigits : Yields (do
        if (← ReadM.skipDigits) == 0 then ReadM.failAtNext .numberInvalid)
        (digits.chars ++ r) (some ((), r)) := by
      refine bind (skipDigits digits.isDigit hr.noDigit) ?_
      rw [if_neg (by simpa using digits.ne_nil)]
      exact pure _ _
    rw [Option.elim_some, Exponent.text, List.cons_append, List.cons_append, List.append_assoc,
      List.head?_cons, if_pos (by rcases hletter with rfl | rfl <;> rfl)]
    refine bind (bump _ _) (bind (peek _) ?_)
    rcases hsign with rfl | rfl | rfl
    · obtain ⟨c, more, hchars⟩ := List.exists_cons_of_ne_nil digits.ne_nil
      have hc : isDigit c = true := digits.isDigit c (hchars ▸ List.mem_cons_self)
      rw [if_neg]
      · exact hdigits
      · rw [hchars]
        intro h
        rcases Bool.or_eq_true_iff.1 h with h | h <;> cases eq_of_beq h <;> cases hc
    · exact bind (bump _ _) hdigits
    · exact bind (bump _ _) hdigits

theorem skipNumber (n : Numeral) {r : List Char} (hr : Delimited r) :
    Yields skipNumber (Nat.toDigits 10 n.whole ++ (n.fractionText ++ (n.exponentText ++ r)))
      (some ((), r)) := by
  obtain ⟨first, more, hdigits, -, hzero⟩ := toDigits_eq_cons n.whole
  have hpeek := peekDigits (isDigit_of_mem_toDigits n.whole) (n.fractionText_append hr)
  have hskip := skipDigits (isDigit_of_mem_toDigits n.whole) (n.fractionText_append hr)
  rw [hdigits] at hpeek hskip ⊢
  refine bind hpeek ?_
  simp only
  rw [if_neg hzero]
  refine bind hskip (bind (peek _) ?_)
  rw [Numeral.fractionText]
  cases n.fraction with
  | none =>
    rw [Option.elim_none, List.nil_append,
      if_neg fun h => (n.exponentText_append hr).2 (eq_of_beq h)]
    exact skipExponent n hr
  | some d =>
    refine bind (bump _ _) (bind (skipDigits d.isDigit (n.exponentText_append hr).1) ?_)
    rw [if_neg (by simpa using d.ne_nil)]
    exact skipExponent n hr

end Yields

/-! ## Reading

First the numbers that are not natural, by what their reading ensures, and then those that are. -/

/-- Whatever reading at a text comes to has a property. -/
def Ensures (read : ReadM α) (t : List Char) (P : α → Prop) : Prop :=
  ∀ s : Cursor, s.rest = t → ∀ a s', read s = .ok a s' → P a

/-- A number that is not read as a natural one. -/
def Number.IsOther (num : Number) : Prop := ∀ n, num ≠ .natural n

namespace Ensures

open ReadM

variable {P : α → Prop} {t : List Char}

theorem pure {a : α} (h : P a) (t : List Char) : Ensures (pure a) t P := by
  rintro s - b s' ⟨⟩
  exact h

theorem of_none {x : ReadM α} (h : Yields x t none) : Ensures x t P := by
  intro s hs a s' heq
  obtain ⟨fault, s'', hfault⟩ := h.exists_error hs
  cases hfault.symm.trans heq

theorem bind_any {x : ReadM β} {f : β → ReadM α} (hf : ∀ b u, Ensures (f b) u P) :
    Ensures (x >>= f) t P := by
  intro s hs a s' heq
  obtain ⟨b, s'', -, hfs⟩ := exists_of_bind_eq_ok heq
  exact hf b _ s'' rfl a s' hfs

theorem bind {x : ReadM β} {f : β → ReadM α} {u : List Char} {b : β}
    (hx : Yields x t (some (b, u))) (hf : Ensures (f b) u P) : Ensures (x >>= f) t P := by
  intro s hs a s' heq
  obtain ⟨s'', hxs, hs''⟩ := hx.exists_ok hs
  rw [bind_of_ok hxs] at heq
  exact hf s'' hs'' a s' heq

/-- What follows a reading is a fault if it is one for everything with the property. -/
theorem bind_none {x : ReadM α} {f : α → ReadM β} (hx : Ensures x t P)
    (hf : ∀ a u, P a → Yields (f a) u none) : Yields (x >>= f) t none := by
  intro s hs
  cases hxs : x s with
  | ok a s' =>
    rw [bind_of_ok hxs]
    exact hf a _ (hx s hs a s' hxs) s' rfl
  | error fault s' =>
    rw [bind_of_error hxs]
    rfl

/-- A step that is taken or not makes no difference. -/
theorem optional {x : ReadM Unit} {f : Unit → ReadM α} {b : Bool}
    (hf : ∀ u, Ensures (f ()) u P) : Ensures (if b then x >>= f else f ()) t P := by
  cases b with
  | true => exact bind_any fun _ u => hf u
  | false => exact hf t

/-! ### Numbers that are not natural -/

theorem makeDouble (minus : Bool) (significand : Nat) (exponent : Int) (t : List Char) :
    Ensures (makeDouble minus significand exponent) t Number.IsOther := by
  rw [ReadM.makeDouble]
  split
  · exact pure nofun t
  · exact of_none (.failHere _ t)

theorem readExponent (minus : Bool) (significand : Nat) (exponent : Int) (t : List Char) :
    Ensures (readExponent minus significand exponent) t Number.IsOther := by
  refine bind_any fun _ _ => bind_any fun sign _ => optional fun _ => ?_
  refine bind_any fun digits _ => bind_any fun c u => ?_
  cases c with
  | none => exact of_none (.failHere _ u)
  | some c =>
    simp only
    split
    · exact of_none (.failAtNext _ u)
    split
    · split
      · exact of_none (.failAfter _ _ u)
      · exact bind_any fun _ _ => pure nofun _
    · exact bind_any fun _ _ => makeDouble _ _ _ _

theorem readFraction (minus : Bool) (significand : Nat) (exponent : Int) (t : List Char) :
    Ensures (readFraction minus significand exponent) t Number.IsOther := by
  refine bind_any fun _ _ => bind_any fun digits u => ?_
  split
  · refine bind_any fun c u => ?_
    cases c with
    | none => exact of_none (.failHere _ u)
    | some c => exact of_none (.failAtNext _ u)
  · refine bind_any fun _ _ => bind_any fun c u => ?_
    split
    · exact readExponent _ _ _ u
    · exact readExponent _ _ _ u
    · exact makeDouble _ _ _ u

/-- Behind a minus sign there is no natural number. -/
theorem readNumber_true (t : List Char) : Ensures (readNumber true) t Number.IsOther := by
  refine bind_any fun c u => ?_
  cases c with
  | none => exact of_none (.failHere _ u)
  | some c =>
    simp only
    split
    · exact of_none (.failAtNext _ u)
    refine bind_any fun digits u => ?_
    split
    · exact bind_any fun _ u => of_none (.failAtNext _ u)
    refine bind_any fun _ _ => bind_any fun c u => ?_
    split
    · exact readFraction _ _ _ u
    · exact readExponent _ _ _ u
    · exact readExponent _ _ _ u
    split
    · exact makeDouble _ _ _ u
    rw [if_neg (by decide)]
    split
    · exact makeDouble _ _ _ u
    · exact pure nofun u

end Ensures

/-- A number that is no integer, or too large a one, is not read as a natural number. -/
theorem Ensures.readNumber_false (n : Numeral) {r : List Char} (hr : Delimited r)
    (hn : n.fraction.isSome = true ∨ n.exponent.isSome = true ∨ wordSize ≤ n.whole) :
    Ensures (ReadM.readNumber false)
      (Nat.toDigits 10 n.whole ++ (n.fractionText ++ (n.exponentText ++ r))) Number.IsOther := by
  obtain ⟨first, more, hdigits, hfirst, hzero⟩ := toDigits_eq_cons n.whole
  have hpeek := Yields.peekDigits (isDigit_of_mem_toDigits n.whole) (n.fractionText_append hr)
  have hskip := Yields.skipDigits (isDigit_of_mem_toDigits n.whole) (n.fractionText_append hr)
  refine bind (.peek _) ?_
  rw [hdigits] at hpeek hskip ⊢
  rw [List.cons_append, List.head?_cons]
  simp only [hfirst]
  refine bind hpeek ?_
  rw [decide_one_lt_length, if_neg hzero]
  refine bind hskip (bind (.peek _) ?_)
  rw [Numeral.fractionText, Numeral.exponentText]
  cases hf : n.fraction with
  | some d => exact readFraction _ _ _ _
  | none =>
    cases he : n.exponent with
    | some e =>
      obtain ⟨letter, sign, digits, rfl | rfl, hsign⟩ := e <;> exact readExponent _ _ _ _
    | none =>
      -- An integer that is too large: its digits stop being appended before the last of them.
      have hlarge : wordSize ≤ n.whole := by simpa [hf, he] using hn
      have hcount : (appendDigits wordSize 0 (first :: more)).2 < (first :: more).length := by
        by_contra hge
        have heq := appendDigits_fst_eq _ (Nat.not_lt.1 hge)
        rw [← hdigits, Nat.ofDigitChars_ten_toDigits] at heq
        have hlt : (appendDigits wordSize 0 (Nat.toDigits 10 n.whole)).1 < wordSize :=
          appendDigits_lt _ (by decide)
        omega
      rw [Option.elim_none, List.nil_append, Option.elim_none, List.nil_append]
      split
      · exact readFraction _ _ _ _
      · exact readExponent _ _ _ _
      · exact readExponent _ _ _ _
      · rw [if_pos hcount]
        exact makeDouble _ _ _ _

/-- An integer that is not too large is read as it is written. -/
theorem Yields.readNumber_false {w : Nat} (hw : w < wordSize) {r : List Char} (hr : Delimited r) :
    Yields (ReadM.readNumber false) (Nat.toDigits 10 w ++ r) (some (.natural w, r)) := by
  obtain ⟨first, more, hdigits, hfirst, hzero⟩ := toDigits_eq_cons w
  have hpeek := peekDigits (isDigit_of_mem_toDigits w) hr.noDigit
  have hskip := skipDigits (isDigit_of_mem_toDigits w) hr.noDigit
  have happend : appendDigits wordSize 0 (Nat.toDigits 10 w) = _ :=
    appendDigits_of_lt _ (by rwa [Nat.ofDigitChars_ten_toDigits])
  rw [Nat.ofDigitChars_ten_toDigits] at happend
  refine bind (.peek _) ?_
  rw [hdigits] at hpeek hskip happend ⊢
  rw [List.cons_append, List.head?_cons]
  simp only [hfirst]
  refine bind hpeek ?_
  rw [decide_one_lt_length, if_neg hzero, happend]
  refine bind hskip (bind (.peek _) ?_)
  split
  · exact absurd ‹_› hr.head?_ne.1
  · exact absurd ‹_› hr.head?_ne.2.1
  · exact absurd ‹_› hr.head?_ne.2.2
  · rw [if_neg (Nat.lt_irrefl _)]
    exact pure _ _

theorem Yields.checkNatural (limit : Nat) (expected : String) (w : Nat) (t : List Char) :
    Yields (ReadM.checkNatural limit expected (.natural w)) t
      (((some w).filter (· < limit)).map (·, t)) := by
  rw [ReadM.checkNatural, Option.filter_some]
  by_cases hw : w < limit
  · rw [if_pos hw, if_pos (decide_eq_true hw)]
    exact pure w t
  · rw [if_neg hw, if_neg (by simpa using hw)]
    exact failHere _ t

theorem Yields.checkNatural_isOther (limit : Nat) (expected : String) {num : Number}
    (hnum : num.IsOther) (t : List Char) :
    Yields (ReadM.checkNatural limit expected num) t none := by
  cases num with
  | natural n => exact absurd rfl (hnum n)
  | negative n => exact failHere _ t
  | double minus x => exact failHere _ t

/-- **Natural numbers below a limit.**  What is expected of a number without a sign comes out if it
is an integer below the limit. -/
theorem Yields.readNatural {limit : Nat} (hlimit : limit ≤ wordSize) (expected : String)
    {n : Numeral} (hminus : n.minus = false) {r : List Char} (hr : Delimited r) :
    Yields (do ReadM.checkNatural limit expected (← ReadM.readNumber false))
      (Nat.toDigits 10 n.whole ++ (n.fractionText ++ (n.exponentText ++ r)))
      ((n.natural?.filter (· < limit)).map (·, r)) := by
  by_cases hn : n.fraction.isSome = true ∨ n.exponent.isSome = true ∨ wordSize ≤ n.whole
  · have hnone : n.natural?.filter (· < limit) = none := by
      rw [Numeral.natural?]
      split
      · rfl
      · have hlarge : wordSize ≤ n.whole := by simp_all
        rw [Option.filter_some, if_neg]
        rw [decide_eq_true_iff]
        omega
    rw [hnone]
    exact (Ensures.readNumber_false n hr hn).bind_none
      fun num u hnum => checkNatural_isOther limit expected hnum u
  · simp only [not_or, Bool.not_eq_true, Option.isSome_eq_false_iff, Option.isNone_iff_eq_none,
      Nat.not_le] at hn
    obtain ⟨hfraction, hexponent, hlt⟩ := hn
    rw [Numeral.natural?, Numeral.fractionText, Numeral.exponentText, hminus, hfraction, hexponent]
    exact bind (readNumber_false hlt hr) (checkNatural limit expected n.whole r)

end Json
end Proofreader
