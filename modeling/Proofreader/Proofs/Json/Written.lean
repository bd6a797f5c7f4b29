import Mathlib.Data.List.Forall2

/-!
# JSON texts and their values

What it means that a text is JSON, and with which value.  Nothing here knows how JSON is read:
`Written` says of every kind of value how it is written, and leaves all choices of writing open,
such as blanks between the parts and escapes in strings.

The relations take two texts, as reading does: `Written p t r` says that `t` begins with a written
form of `p`, and that `r` is what follows.

* `IsTextOf` — a whole text is a written form of a value.

A half of a surrogate pair is no character, so a string with an escape for such a half alone is not
a written form of any value here.

With two texts there is nothing to append.  What a text begins with, and what follows, would
otherwise have to be cut out of an appended whole before each step of a proof, and put together
again behind it; here the constructors take a text apart in the order in which a reader does.

Values keep what is written, and nothing is decided about it: a number is its sign, digits and
exponent, and an object is a list of fields, in which a key may come twice.  It is for those who
read a value to say which numbers they take and what they make of a key that is repeated.
-/

set_option autoImplicit false

namespace Proofreader
namespace Json

/-! ## Blanks

Blanks are four characters and no more.  A number has no mark at its end, so one cannot tell from
its characters alone that it is over; `Delimited` is what may come behind it. -/

/-- `r` follows some blanks at the beginning of `t`. -/
def Blanks (t r : List Char) : Prop :=
  ∃ blanks : List Char, blanks ⊆ [' ', '\t', '\n', '\r'] ∧ t = blanks ++ r

theorem Blanks.refl (t : List Char) : Blanks t t := ⟨[], List.nil_subset _, rfl⟩

theorem Blanks.length_le {t r : List Char} (h : Blanks t r) : r.length ≤ t.length := by
  obtain ⟨blanks, -, rfl⟩ := h
  rw [List.length_append]
  exact Nat.le_add_left _ _

/-- A text can follow here: it is at its end, or begins with a blank or with what ends an element or
a field. -/
def Delimited (r : List Char) : Prop :=
  ∀ c ∈ r.head?, c ∈ [' ', '\t', '\n', '\r', ',', ']', '\x7d']

theorem Blanks.delimited {t r : List Char} (h : Blanks t r) (hr : Delimited r) : Delimited t := by
  obtain ⟨blanks, hblanks, rfl⟩ := h
  intro c hc
  cases blanks with
  | nil => exact hr c hc
  | cons b more =>
    obtain rfl := Option.some_inj.1 hc
    exact List.mem_append_left [',', ']', '\x7d'] (hblanks List.mem_cons_self)

/-! ## Numbers

The part before the point is kept as a number.  It is written without leading zeros, and there is
one way to do that; in a fraction and in an exponent zeros may lead, and so these are lists of
digits. -/

/-- One or more decimal digits. -/
structure Digits where
  /-- The digits. -/
  chars : List Char
  /-- There is one. -/
  ne_nil : chars ≠ []
  /-- They are digits. -/
  isDigit : ∀ c ∈ chars, c.isDigit = true

/-- The exponent of a number. -/
structure Exponent where
  /-- The letter that it begins with. -/
  letter : Char
  /-- Its sign, if it has one. -/
  sign : Option Char
  /-- Its digits. -/
  digits : Digits
  /-- The letter may be small or capital. -/
  letter_eq : letter = 'e' ∨ letter = 'E'
  /-- The sign is plus or minus. -/
  sign_eq : sign = none ∨ sign = some '+' ∨ sign = some '-'

/-- The characters of an exponent. -/
def Exponent.text (e : Exponent) : List Char := e.letter :: e.sign.toList ++ e.digits.chars

/-- A number as it is written. -/
structure Numeral where
  /-- Whether there is a minus sign. -/
  minus : Bool
  /-- What is before the point; it is written in decimal and without leading zeros. -/
  whole : Nat
  /-- The digits of the fraction, if there is one. -/
  fraction : Option Digits
  /-- The exponent, if there is one. -/
  exponent : Option Exponent

namespace Numeral

/-- The characters of the fraction, with the point. -/
def fractionText (n : Numeral) : List Char := n.fraction.elim [] fun d => '.' :: d.chars

/-- The characters of the exponent. -/
def exponentText (n : Numeral) : List Char := n.exponent.elim [] Exponent.text

/-- The characters of a number. -/
def text (n : Numeral) : List Char :=
  (if n.minus then ['-'] else []) ++
    (Nat.toDigits 10 n.whole ++ (n.fractionText ++ n.exponentText))

theorem text_append (n : Numeral) (r : List Char) :
    n.text ++ r = (if n.minus then ['-'] else []) ++
      (Nat.toDigits 10 n.whole ++ (n.fractionText ++ (n.exponentText ++ r))) := by
  simp only [text, List.append_assoc]

/-- The natural number that is written as an integer without a sign. -/
def natural? (n : Numeral) : Option Nat :=
  if n.minus || n.fraction.isSome || n.exponent.isSome then none else some n.whole

end Numeral

/-! ## Strings

A character that is not in the range of four hexadecimal digits takes two escapes.  The relation is
on characters and not on codes, so the two make up one step, `Escape.pair`, and a half of a pair
alone has none. -/

/-- The letters that may stand behind a backslash, `u` apart, and the characters they stand for. -/
def escapes : List (Char × Char) :=
  [('"', '"'), ('\\', '\\'), ('/', '/'), ('b', '\x08'), ('f', '\x0C'), ('n', '\n'), ('r', '\r'),
    ('t', '\t')]

/-- `c` is a digit to base 16, small or capital. -/
def IsHexDigit (digit : Nat) (c : Char) : Prop :=
  digit < 16 ∧ (c = Nat.digitChar digit ∨ c = (Nat.digitChar digit).toUpper)

/-- `t` begins with four digits to base 16 of a code. -/
def Code (code : Nat) (t r : List Char) : Prop :=
  ∃ (digits : List Nat) (four : List Char), t = four ++ r ∧ four.length = 4 ∧
    List.Forall₂ IsHexDigit digits four ∧ code = digits.foldl (fun n digit => 16 * n + digit) 0

/-- `t` begins with what stands behind a backslash for the character `c`. -/
inductive Escape (c : Char) : (t r : List Char) → Prop where
  /-- A letter. -/
  | letter {letter : Char} (hmem : (letter, c) ∈ escapes) (r : List Char) :
      Escape c (letter :: r) r
  /-- The code of the character. -/
  | code {t r : List Char} (hcode : Code c.toNat t r) : Escape c ('u' :: t) r
  /-- The codes of the two halves of the character. -/
  | pair {high low : Nat} {t u r : List Char} (hhigh : Code high t ('\\' :: 'u' :: u))
      (hlow : Code low u r) (hhighHalf : 0xD800 ≤ high ∧ high < 0xDC00)
      (hlowHalf : 0xDC00 ≤ low ∧ low < 0xE000)
      (hc : c.toNat = 0x10000 + (high - 0xD800) * 0x400 + (low - 0xDC00)) :
      Escape c ('u' :: t) r

/-- `t` begins with the rest of a string, whose characters are `s`, and with its closing mark. -/
inductive InString : (s t r : List Char) → Prop where
  /-- The closing mark. -/
  | close (r : List Char) : InString [] ('"' :: r) r
  /-- A character that stands for itself. -/
  | plain {c : Char} {s t r : List Char} (hmark : c ≠ '"') (hback : c ≠ '\\')
      (hcontrol : 0x20 ≤ c.toNat) (h : InString s t r) : InString (c :: s) (c :: t) r
  /-- A character that is written with a backslash. -/
  | escape {c : Char} {s t u r : List Char} (hescape : Escape c t u) (h : InString s u r) :
      InString (c :: s) ('\\' :: t) r

theorem Code.length_eq {code : Nat} {t r : List Char} (h : Code code t r) :
    t.length = r.length + 4 := by
  obtain ⟨_, four, rfl, hfour, -⟩ := h
  rw [List.length_append, hfour, Nat.add_comm]

theorem Escape.length_lt {c : Char} {t r : List Char} (h : Escape c t r) :
    r.length < t.length := by
  cases h with
  | letter => exact Nat.lt_succ_self _
  | code hcode =>
    rw [List.length_cons, hcode.length_eq]
    omega
  | pair hhigh hlow =>
    rw [List.length_cons, hhigh.length_eq, List.length_cons, List.length_cons, hlow.length_eq]
    omega

theorem InString.length_lt {s t r : List Char} (h : InString s t r) : r.length < t.length := by
  induction h with
  | close => exact Nat.lt_succ_self _
  | plain _ _ _ _ ih => exact Nat.lt_succ_of_lt ih
  | escape hescape _ ih => exact Nat.lt_succ_of_lt (Nat.lt_trans ih hescape.length_lt)

/-! ## Values

An array contains values, and the rest of an array contains values and the rest of an array.  To
have one induction for all of these, `Phrase` puts them into one type. -/

/-- A JSON value.  Numbers are kept as they are written, and fields in the order and as often as
they are written. -/
inductive Value where
  /-- `null` -/
  | null
  /-- A truth value. -/
  | bool (b : Bool)
  /-- A number. -/
  | number (n : Numeral)
  /-- A string. -/
  | string (s : String)
  /-- An array and its elements. -/
  | array (elements : List Value)
  /-- An object and its fields. -/
  | object (fields : List (String × Value))

/-- What can be written. -/
inductive Phrase where
  /-- A value. -/
  | value (v : Value)
  /-- The rest of an array: the elements that are still to come and the closing bracket.  `first`
  says that none came yet. -/
  | elements (first : Bool) (vs : List Value)
  /-- The rest of an object. -/
  | fields (first : Bool) (fs : List (String × Value))

/-- `r` follows what is before an element or a field: blanks, and a comma unless it is the first. -/
def Lead (first : Bool) (t r : List Char) : Prop :=
  if first then Blanks t r else ∃ u, Blanks t (',' :: u) ∧ Blanks u r

/-- `t` begins with a written form of a phrase, and `r` follows. -/
inductive Written : Phrase → (t r : List Char) → Prop where
  /-- `null` -/
  | nullWord (r : List Char) : Written (.value .null) ('n' :: 'u' :: 'l' :: 'l' :: r) r
  /-- `true` -/
  | trueWord (r : List Char) : Written (.value (.bool true)) ('t' :: 'r' :: 'u' :: 'e' :: r) r
  /-- `false` -/
  | falseWord (r : List Char) :
      Written (.value (.bool false)) ('f' :: 'a' :: 'l' :: 's' :: 'e' :: r) r
  /-- A number. -/
  | number (n : Numeral) (r : List Char) : Written (.value (.number n)) (n.text ++ r) r
  /-- A string. -/
  | string {s t r : List Char} (h : InString s t r) :
      Written (.value (.string (String.ofList s))) ('"' :: t) r
  /-- An array. -/
  | array {vs : List Value} {t r : List Char} (h : Written (.elements true vs) t r) :
      Written (.value (.array vs)) ('[' :: t) r
  /-- An object. -/
  | object {fs : List (String × Value)} {t r : List Char}
      (h : Written (.fields true fs) t r) : Written (.value (.object fs)) ('\x7b' :: t) r
  /-- The end of an array. -/
  | endElements {first : Bool} {t r : List Char} (h : Blanks t (']' :: r)) :
      Written (.elements first []) t r
  /-- An element of an array. -/
  | element {first : Bool} {v : Value} {vs : List Value} {t u w r : List Char}
      (hlead : Lead first t u) (hv : Written (.value v) u w)
      (hvs : Written (.elements false vs) w r) : Written (.elements first (v :: vs)) t r
  /-- The end of an object. -/
  | endFields {first : Bool} {t r : List Char} (h : Blanks t ('\x7d' :: r)) :
      Written (.fields first []) t r
  /-- A field of an object. -/
  | field {first : Bool} {key : List Char} {v : Value} {fs : List (String × Value)}
      {t k a b u w r : List Char} (hlead : Lead first t ('"' :: k)) (hkey : InString key k a)
      (hcolon : Blanks a (':' :: b)) (hblanks : Blanks b u) (hv : Written (.value v) u w)
      (hfs : Written (.fields false fs) w r) :
      Written (.fields first ((String.ofList key, v) :: fs)) t r

theorem Lead.length_le {first : Bool} {t r : List Char} (h : Lead first t r) :
    r.length ≤ t.length := by
  cases first with
  | true => exact Blanks.length_le h
  | false =>
    obtain ⟨u, hcomma, hr⟩ := h
    have hu := hcomma.length_le
    have hle := hr.length_le
    rw [List.length_cons] at hu
    omega

theorem Numeral.text_ne_nil (n : Numeral) : n.text ≠ [] := by
  intro h
  rw [text, List.append_eq_nil_iff, List.append_eq_nil_iff] at h
  exact Nat.toDigits_ne_nil h.2.1

/-- Before the value of a field there is its key at least. -/
theorem Lead.length_lt_of_key {first : Bool} {key t k a b u : List Char}
    (hlead : Lead first t ('"' :: k)) (hkey : InString key k a) (hcolon : Blanks a (':' :: b))
    (hblanks : Blanks b u) : u.length < t.length := by
  have hk := hlead.length_le
  have ha := hkey.length_lt
  have hb := hcolon.length_le
  have hu := hblanks.length_le
  simp only [List.length_cons] at hk hb
  omega

/-- Nothing is written with no character. -/
theorem Written.length_lt {p : Phrase} {t r : List Char} (h : Written p t r) :
    r.length < t.length := by
  induction h with
  | nullWord r => simp only [List.length_cons]; omega
  | trueWord r => simp only [List.length_cons]; omega
  | falseWord r => simp only [List.length_cons]; omega
  | number n r =>
    rw [List.length_append]
    exact Nat.lt_add_of_pos_left (List.length_pos_iff.2 n.text_ne_nil)
  | string h => exact Nat.lt_succ_of_lt h.length_lt
  | array _ ih => exact Nat.lt_succ_of_lt ih
  | object _ ih => exact Nat.lt_succ_of_lt ih
  | endElements h => exact h.length_le
  | element hlead _ _ ihv ihvs => exact Nat.lt_of_lt_of_le (Nat.lt_trans ihvs ihv) hlead.length_le
  | endFields h => exact h.length_le
  | field hlead hkey hcolon hblanks _ _ ihv ihfs =>
    exact Nat.lt_trans (Nat.lt_trans ihfs ihv) (hlead.length_lt_of_key hkey hcolon hblanks)

/-! ## Simple forms

Texts that are written out in full need not use what the relations leave open.  These lemmas are for
such texts. -/

/-- Whether a character in a string stands for itself. -/
def isPlain (c : Char) : Bool := c != '"' && c != '\\' && 0x20 ≤ c.toNat

/-- Characters without marks, backslashes and control characters stand for themselves. -/
theorem InString.of_plain {s : List Char} (hs : s.all isPlain = true) (r : List Char) :
    InString s (s ++ '"' :: r) r := by
  induction s with
  | nil => exact .close r
  | cons c s ih =>
    rw [List.all_cons, Bool.and_eq_true] at hs
    simp only [isPlain, Bool.and_eq_true, bne_iff_ne, decide_eq_true_eq] at hs
    exact .plain hs.1.1.1 hs.1.1.2 hs.1.2 (ih hs.2)

theorem Written.plain (s : String) (hs : s.toList.all isPlain = true) (r : List Char) :
    Written (.value (.string s)) ('"' :: (s.toList ++ '"' :: r)) r := by
  have h := Written.string (.of_plain hs r)
  rwa [String.ofList_toList] at h

theorem Written.natural (n : Nat) (r : List Char) :
    Written (.value (.number ⟨false, n, none, none⟩)) (Nat.toDigits 10 n ++ r) r := by
  have h := Written.number ⟨false, n, none, none⟩ r
  rwa [Numeral.text_append] at h

theorem Lead.first (r : List Char) : Lead true r r := Blanks.refl r

theorem Lead.comma (r : List Char) : Lead false (',' :: r) r := ⟨r, .refl _, .refl r⟩

theorem Lead.commaSpace (r : List Char) : Lead false (',' :: ' ' :: r) r :=
  ⟨' ' :: r, .refl _, [' '], by decide, rfl⟩

theorem Written.plainField {first : Bool} (key : List Char) (hkey : key.all isPlain = true)
    {v : Value} {fs : List (String × Value)} {t u w r : List Char}
    (hlead : Lead first t ('"' :: (key ++ '"' :: ':' :: u))) (hv : Written (.value v) u w)
    (hfs : Written (.fields false fs) w r) :
    Written (.fields first ((String.ofList key, v) :: fs)) t r :=
  .field hlead (.of_plain hkey _) (.refl _) (.refl _) hv hfs

/-- A text is a written form of a value, with blanks before and behind it. -/
def IsTextOf (text : String) (v : Value) : Prop :=
  ∃ t r, Blanks text.toList t ∧ Written (.value v) t r ∧ Blanks r []

end Json
end Proofreader
