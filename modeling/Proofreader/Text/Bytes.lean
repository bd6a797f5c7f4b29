/-!
# Text as bytes

Files and paths are sequences of bytes.  Text is written to them in UTF-8, one to four bytes a
character.  Not every sequence of bytes is text, so there are two ways back:

* `decode` reads any bytes.  Where they cannot go on as a character, the part of a character that
  was read so far is shown as one U+FFFD, and reading goes on at the byte that does not fit.
* `ofBytes?` reads only what is text.

`decode` is a machine that takes one byte at a time.  After the first byte of a character it knows
how many bytes are to follow, and within which bounds the next one has to be: the bounds keep out
characters that are written with more bytes than they need, surrogates, and numbers that are too
large.
-/

set_option autoImplicit false

namespace Proofreader

/-- A sequence of bytes. -/
abbrev Bytes := List UInt8

namespace Text

/-- The bytes that a text is written with. -/
def encode (s : String) : Bytes := s.toList.flatMap String.utf8EncodeChar

/-- The character that stands for bytes that are not text. -/
def replacement : Char := Char.ofNat 0xFFFD

/-- Where a reader of bytes is. -/
inductive Decoder where
  /-- Between two characters. -/
  | between
  /-- Within a character.  What was read of it comes to `value`, the next byte has to be from `low`
  to `high`, and behind that one `more` bytes are to follow. -/
  | within (value more low high : Nat)
deriving Repr, DecidableEq

namespace Decoder

/-- Read the first byte of a character: the characters that are read then, and where the reader is
behind it. -/
def first (b : Nat) : List Char × Decoder :=
  if b < 0x80 then ([Char.ofNat b], between)
  else if b < 0xC2 then ([replacement], between)
  else if b < 0xE0 then ([], within (b - 0xC0) 0 0x80 0xBF)
  else if b < 0xF0 then
    ([], within (b - 0xE0) 1 (if b = 0xE0 then 0xA0 else 0x80) (if b = 0xED then 0x9F else 0xBF))
  else if b < 0xF5 then
    ([], within (b - 0xF0) 2 (if b = 0xF0 then 0x90 else 0x80) (if b = 0xF4 then 0x8F else 0xBF))
  else ([replacement], between)

/-- Read a byte. -/
def next : Decoder → Nat → List Char × Decoder
  | between, b => first b
  | within value more low high, b =>
    if low ≤ b ∧ b ≤ high then
      match more with
      | 0 => ([Char.ofNat (64 * value + b % 64)], between)
      | more + 1 => ([], within (64 * value + b % 64) more 0x80 0xBF)
    else (replacement :: (first b).1, (first b).2)

/-- Read bytes to their end. -/
def run : Decoder → Bytes → List Char
  | between, [] => []
  | within .., [] => [replacement]
  | d, b :: bytes => (d.next b.toNat).1 ++ (d.next b.toNat).2.run bytes

end Decoder

/-- The text that bytes are shown as. -/
def decode (bytes : Bytes) : String := String.ofList (Decoder.between.run bytes)

/-- The text that is written with some bytes, if they are text. -/
def ofBytes? (bytes : Bytes) : Option String :=
  if encode (decode bytes) = bytes then some (decode bytes) else none

end Text
end Proofreader
