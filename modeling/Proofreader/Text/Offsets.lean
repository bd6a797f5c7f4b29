import Proofreader.Pattern.Place

/-!
# From bytes to characters

The `Offsets` of a text are the byte offsets at which its characters begin, closed by the length of
the text in bytes.  Looking up a byte offset is a search by halving; an offset within a character
belongs to the character behind it.
-/

set_option autoImplicit false

namespace Proofreader
namespace Text

/-- The byte offsets at which the characters of a text begin, `pos` being that of the first. -/
def charStarts : (pos : Nat) → List Char → List Nat
  | _, [] => []
  | pos, c :: rest => pos :: charStarts (pos + c.utf8Size) rest

/-- The table of a text. -/
structure Offsets where
  /-- Where the characters begin, and the length of the text. -/
  table : Array Nat
  /-- The length of the text in bytes. -/
  byteLength : Nat
deriving Repr, DecidableEq

namespace Offsets

/-- The table of a text. -/
def ofText (text : List Char) : Offsets :=
  let length := Pattern.byteLength text
  ⟨(charStarts 0 text ++ [length]).toArray, length⟩

/-- The first index from `lo` on, and not behind `hi`, at which the table is at least `x`.  Every
step halves the distance of the two, so `fuel` is enough when it is not below their distance. -/
def lowerBound (table : Array Nat) (x : Nat) : (fuel lo hi : Nat) → Nat
  | 0, lo, _ => lo
  | fuel + 1, lo, hi =>
    if lo < hi then
      let mid := lo + (hi - lo) / 2
      if table.getD mid 0 < x then lowerBound table x fuel (mid + 1) hi
      else lowerBound table x fuel lo mid
    else lo

/-- The character offset of a byte offset.  What is behind the text counts as its end. -/
def charOffset (offsets : Offsets) (byte : Nat) : Nat :=
  lowerBound offsets.table (min byte offsets.byteLength) offsets.table.size 0 offsets.table.size

end Offsets

end Text
end Proofreader
