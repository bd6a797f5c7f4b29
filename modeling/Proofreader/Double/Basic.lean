/-!
# Double-precision numbers

Non-negative finite numbers of the binary format with 53 digits, held exactly as `mantissa ·
2^exponent`. Every operation computes the exact ratio and rounds it once: to the nearest number of
the format, and from the middle to the even one.  `ofRatio` is that rounding, and all else is
defined by it.
-/

set_option autoImplicit false

namespace Proofreader

/-- The number `mantissa · 2^exponent`. -/
structure Double where
  /-- The digits, below `2^53`. -/
  mantissa : Nat
  /-- The power of two. -/
  exponent : Int
deriving Repr, DecidableEq

namespace Double

/-- The smallest exponent of the format. -/
def minExponent : Int := -1074

/-- The largest exponent of the format. -/
def maxExponent : Int := 971

/-- Zero. -/
def zero : Double := ⟨0, 0⟩

/-- Whether the number is zero. -/
def isZero (x : Double) : Bool := x.mantissa == 0

/-- `n / d` rounded to an integer, from the middle to the even one. -/
def roundDiv (n d : Nat) : Nat :=
  let q := n / d
  let r := n % d
  if d < 2 * r || (2 * r == d && q % 2 == 1) then q + 1 else q

/-- `n · 2^e` as numerator and denominator. -/
def scale (n d : Nat) (e : Int) : Nat × Nat :=
  (n * Nat.pow 2 e.toNat, d * Nat.pow 2 (-e).toNat)

/-- The exponent at which `n / d` has 53 digits before the point, or the smallest one. -/
def exponentOf (n d : Nat) : Int :=
  let guess : Int := (Nat.log2 n : Int) - (Nat.log2 d : Int) - 52
  let (num, den) := scale n d (-guess)
  let e := if num < den * Nat.pow 2 52 then guess - 1 else guess
  max e minExponent

/-- The number of the format that is nearest to `n / d`, or `none` if that is infinite. -/
def ofRatio (n d : Nat) : Option Double :=
  if n = 0 then some zero
  else
    let e := exponentOf n d
    let (num, den) := scale n d (-e)
    let m := roundDiv num den
    let (m, e) := if m == Nat.pow 2 53 then (Nat.pow 2 52, e + 1) else (m, e)
    if m = 0 then some zero
    else if maxExponent < e then none
    else some ⟨m, e⟩

/-- The number nearest to a natural number. -/
def ofNat (n : Nat) : Option Double := ofRatio n 1

/-- The product, rounded. -/
def mul (x y : Double) : Option Double :=
  let (n, d) := scale (x.mantissa * y.mantissa) 1 (x.exponent + y.exponent)
  ofRatio n d

/-- The quotient, rounded; the second number is not zero. -/
def div (x y : Double) : Option Double :=
  let (n, d) := scale x.mantissa y.mantissa (x.exponent - y.exponent)
  ofRatio n d

end Double
end Proofreader
