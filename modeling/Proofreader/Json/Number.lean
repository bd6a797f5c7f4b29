import Proofreader.Double.Shortest
import Proofreader.Json.Cursor

/-!
# JSON numbers

An integer is kept exactly as long as it fits 64 bits; everything else is a double-precision number:
what has a fraction or an exponent, what is too large, and minus zero.

A double-precision number is read in two steps.  As many leading digits as fit 64 bits are taken as
an integer and rounded, and the result is multiplied or divided by a power of ten, itself rounded.
This is not the nearest number in every case, but it is what is shown when such a number stands in
the wrong place.
-/

set_option autoImplicit false

namespace Proofreader
namespace Json

/-- A number as it was read. -/
inductive Number where
  /-- An integer from zero on, below `2^64`. -/
  | natural (n : Nat)
  /-- The integer `-n`, with `0 < n ≤ 2^63`. -/
  | negative (n : Nat)
  /-- A double-precision number and its sign. -/
  | double (minus : Bool) (x : Double)
deriving Repr, DecidableEq

/-- A number as a value of the wrong kind or range. -/
def Number.unexpected : Number → Unexpected
  | natural n => .integer n
  | negative n => .integer (-(n : Int))
  | double minus x => .float ((if minus then "-" else "") ++ x.text)

/-- The integers that fit 64 bits are below this one. -/
def wordSize : Nat := Nat.pow 2 64

/-- Append decimal digits to a number as long as it stays below a limit.  The result is the number
and how many digits were appended; after the first that does not fit, none is. -/
def appendDigits (limit : Nat) : Nat → List Char → Nat × Nat
  | n, [] => (n, 0)
  | n, c :: more =>
    let longer := 10 * n + digitValue c
    if longer < limit then
      let (m, count) := appendDigits limit longer more
      (m, count + 1)
    else (n, 0)

/-- What is appended stays below the limit. -/
theorem appendDigits_lt {limit n : Nat} (digits : List Char) (h : n < limit) :
    (appendDigits limit n digits).1 < limit := by
  induction digits generalizing n with
  | nil => exact h
  | cons c more ih =>
    simp only [appendDigits]
    split
    · rename_i hlt; exact ih hlt
    · exact h

/-- Divide by powers of ten until the exponent is small, then by what is left of it; or multiply,
where a result that is too large is `none`. -/
def scaleByTen : (fuel : Nat) → Double → (exponent : Int) → Option Double
  | 0, x, _ => some x
  | fuel + 1, x, exponent =>
    if exponent.natAbs ≤ 308 then do
      let ten ← Double.ofNat (Nat.pow 10 exponent.natAbs)
      if 0 ≤ exponent then x.mul ten else x.div ten
    else if x.isZero then some x
    else if 0 ≤ exponent then none
    else do
      let ten ← Double.ofNat (Nat.pow 10 308)
      let x ← x.div ten
      scaleByTen fuel x (exponent + 308)

/-- The double-precision number `significand · 10^exponent`, or `none` if it is too large. -/
def doubleOfParts (significand : Nat) (exponent : Int) : Option Double := do
  let x ← Double.ofNat significand
  scaleByTen (exponent.natAbs + 1) x exponent

namespace ReadM

/-- The decimal digits that come next, which are left. -/
def peekDigits : ReadM (List Char) := return (← get).rest.takeWhile isDigit

/-- Step over decimal digits. -/
def skipDigits : ReadM Nat := skipWhile isDigit

/-- A double-precision number with the given parts. -/
def makeDouble (minus : Bool) (significand : Nat) (exponent : Int) : ReadM Number :=
  match doubleOfParts significand exponent with
  | some x => pure (.double minus x)
  | none => failHere .numberTooLarge

/-- The greatest exponent that is read digit by digit. -/
def exponentLimit : Nat := Nat.pow 2 31

/-- Read an exponent, standing at its letter.  An exponent that is absurdly large makes zero of a
small number, and is too much for a large one. -/
def readExponent (minus : Bool) (significand : Nat) (exponent : Int) : ReadM Number := do
  bump
  let sign ← peek
  if sign == some '+' || sign == some '-' then bump
  let digits ← peekDigits
  match ← peek with
  | none => failHere .valueUnfinished
  | some c =>
    if !isDigit c then failAtNext .numberInvalid
    else
      let (power, count) := appendDigits exponentLimit 0 digits
      if count < digits.length then
        if significand != 0 && sign != some '-' then failAfter (count + 1) .numberTooLarge
        else
          let _ ← skipDigits
          return .double minus .zero
      else
        let _ ← skipDigits
        let power : Int := if sign == some '-' then -(power : Int) else power
        makeDouble minus significand (exponent + power)

/-- Read what may come behind the digits of a fraction. -/
def readAfterFraction (minus : Bool) (significand : Nat) (exponent : Int) : ReadM Number := do
  match ← peek with
  | some 'e' => readExponent minus significand exponent
  | some 'E' => readExponent minus significand exponent
  | _ => makeDouble minus significand exponent

/-- Read a fraction, standing at its point. -/
def readFraction (minus : Bool) (significand : Nat) (exponent : Int) : ReadM Number := do
  bump
  let digits ← peekDigits
  if digits.isEmpty then
    match ← peek with
    | none => failHere .valueUnfinished
    | some _ => failAtNext .numberInvalid
  else
    let _ ← skipDigits
    let (significand, count) := appendDigits wordSize significand digits
    readAfterFraction minus significand (exponent - count)

/-- Read a number, standing behind its sign. -/
def readNumber (minus : Bool) : ReadM Number := do
  match ← peek with
  | none => failHere .valueUnfinished
  | some c =>
    if !isDigit c then failAtNext .numberInvalid
    else
      let digits ← peekDigits
      if c == '0' && 1 < digits.length then
        bump
        failAtNext .numberInvalid
      else
        let _ ← skipDigits
        let (significand, count) := appendDigits wordSize 0 digits
        let exponent : Int := (digits.length : Int) - count
        match ← peek with
        | some '.' => readFraction minus significand exponent
        | some 'e' => readExponent minus significand exponent
        | some 'E' => readExponent minus significand exponent
        | _ =>
          if count < digits.length then makeDouble minus significand exponent
          else if !minus then return .natural significand
          else if significand == 0 || Nat.pow 2 63 < significand then makeDouble minus significand 0
          else return .negative significand

/-- Step over a number, standing behind its sign.  Its size does not matter. -/
def skipNumber : ReadM Unit := do
  let digits ← peekDigits
  match digits with
  | [] => failAtNext .numberInvalid
  | first :: more =>
    if first == '0' && !more.isEmpty then
      bump
      failAtNext .numberInvalid
    let _ ← skipDigits
    if (← peek) == some '.' then
      bump
      if (← skipDigits) == 0 then failAtNext .numberInvalid
    let letter ← peek
    if letter == some 'e' || letter == some 'E' then
      bump
      let sign ← peek
      if sign == some '+' || sign == some '-' then bump
      if (← skipDigits) == 0 then failAtNext .numberInvalid

end ReadM
end Json
end Proofreader
