import Proofreader.Double.Basic

/-!
# The shortest text of a double-precision number

A number is written with the fewest decimal digits from which it can be read back: those of a
decimal number that lies in the interval of reals rounding to it.  Of several with equally few
digits the nearest is taken, and of two as near the even one.

`digits` finds them by trying one digit, two digits and so on.  If any decimal number with so many
digits is in the interval, one of the two neighbours of the number itself is.
-/

set_option autoImplicit false

namespace Proofreader
namespace Double

/-- The interval of reals that round to a number, all in units of a quarter of its last digit. -/
structure Interval where
  /-- The lower end. -/
  low : Nat
  /-- The number. -/
  middle : Nat
  /-- The upper end. -/
  high : Nat
  /-- Whether the ends round to the number too. -/
  closed : Bool
deriving Repr, DecidableEq

/-- The interval of a number.  It is shorter on the lower side of a power of two. -/
def interval (x : Double) : Interval where
  low := if x.mantissa == Nat.pow 2 52 && minExponent < x.exponent then 4 * x.mantissa - 1
    else 4 * x.mantissa - 2
  middle := 4 * x.mantissa
  high := 4 * x.mantissa + 2
  closed := x.mantissa % 2 == 0

/-- Whether `n / d` is in the interval. -/
def Interval.contains (i : Interval) (n d : Nat) : Bool :=
  if i.closed then i.low * d ≤ n && n ≤ i.high * d else i.low * d < n && n < i.high * d

/-- The distance of two natural numbers. -/
def distance (a b : Nat) : Nat := (a - b) + (b - a)

/-- A decimal number: `significand · 10^exponent`. -/
structure Decimal where
  /-- The digits. -/
  significand : Nat
  /-- The power of ten. -/
  exponent : Int
deriving Repr, DecidableEq

/-- The decimal number on the grid `10^k` that reads back as the number, if there is one. -/
def onGrid (x : Double) (k : Int) : Option Decimal :=
  let i := x.interval
  let (two, twoDen) := scale 1 1 (x.exponent - 2)
  let ten := Nat.pow 10 k.toNat
  let tenDen := Nat.pow 10 (-k).toNat
  -- A candidate `c` is `c · (ten · twoDen) / (tenDen · two)` in the units of the interval.
  let num := ten * twoDen
  let den := tenDen * two
  let below := i.middle * den / num
  let above := below + 1
  let lower := i.contains (below * num) den && below != 0
  let upper := i.contains (above * num) den
  let down := distance (i.middle * den) (below * num)
  let up := distance (above * num) (i.middle * den)
  if lower && (!upper || down < up || (down == up && below % 2 == 0)) then some ⟨below, k⟩
  else if upper then some ⟨above, k⟩
  else none

/-- The number of decimal digits before the point of `n / d`, or less one for each zero behind it.
-/
def pointPlace (fuel : Nat) (n d : Nat) : Int :=
  match fuel with
  | 0 => 0
  | fuel + 1 =>
    if n < d then (if 10 * n < d then pointPlace fuel (10 * n) d - 1 else 0)
    else pointPlace fuel n (10 * d) + 1

/-- The first grid, from that of one digit on, with a number that reads back. -/
def search (x : Double) (place : Int) : (fuel : Nat) → (digits : Nat) → Decimal
  | 0, _ => ⟨x.mantissa, 0⟩
  | fuel + 1, digits =>
    match x.onGrid (place - digits) with
    | some found => found
    | none => search x place fuel (digits + 1)

/-- The decimal number with the fewest digits that reads back as a number that is not zero. -/
def shortest (x : Double) : Decimal :=
  let (n, d) := scale x.mantissa 1 x.exponent
  search x (pointPlace 400 n d) 17 1

/-! ## Text -/

/-- The digits of a number without the zeros at the end. -/
def trimZeros (digits : List Char) : List Char :=
  (digits.reverse.dropWhile (· == '0')).reverse

/-- A text of zeros. -/
def zeros (n : Nat) : List Char := List.replicate n '0'

/-- The power of ten behind the letter `e`: with its sign and at least two digits. -/
def powerText (power : Int) : List Char :=
  let digits := (toString power.natAbs).toList
  'e' :: (if power < 0 then '-' else '+') :: (zeros (2 - digits.length) ++ digits)

/-- The text of decimal digits with the point behind the first `place` of them.  Numbers from
`0.00001` up to below `10^16` are written with the point in its place, all others with a power of
ten. -/
def textOf (digits : List Char) (place : Int) : List Char :=
  let power := place - 1
  if 15 < power || power < -5 then
    match digits with
    | [] => []
    | [d] => d :: powerText power
    | d :: more => d :: '.' :: more ++ powerText power
  else if place ≤ 0 then '0' :: '.' :: (zeros (-place).toNat ++ digits)
  else
    let whole := place.toNat
    if digits.length ≤ whole then digits ++ zeros (whole - digits.length) ++ ['.', '0']
    else digits.take whole ++ '.' :: digits.drop whole

/-- The text of a number. -/
def text (x : Double) : String :=
  if x.isZero then "0.0"
  else
    let found := x.shortest
    let all := (toString found.significand).toList
    String.ofList (textOf (trimZeros all) (found.exponent + all.length))

end Double
end Proofreader
