/-!
# Ranges of a text

A `TextRange` is a half-open range of character offsets.  Nothing ties its ends to a text or to each
other: a range may come from outside, and whoever applies it to a text has to check it.
-/

set_option autoImplicit false

namespace Proofreader

/-- A half-open range of character offsets. -/
structure TextRange where
  /-- The offset of the first character. -/
  start : Nat
  /-- The offset behind the last character. -/
  stop : Nat
deriving Repr, DecidableEq

namespace TextRange

/-- How many characters are in the range, none if it runs backwards. -/
def length (r : TextRange) : Nat := r.stop - r.start

/-- Whether there are no characters in the range. -/
def isEmpty (r : TextRange) : Bool := r.stop ≤ r.start

end TextRange
end Proofreader
