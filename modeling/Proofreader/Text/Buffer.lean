import Proofreader.Text.Range

/-!
# Text buffers

A `Buffer` is the text of an open document, addressed by character offsets.  Offsets come from
outside and may be anything: a position is that of the nearest offset within the text, while a range
that does not lie in the text is refused.

Lines end in a line feed, a vertical tab, a form feed, the separators of Unicode, or a carriage
return; carriage return and line feed together are one line end, and the place between them is still
on the line that they end.
-/

set_option autoImplicit false

namespace Proofreader

/-- A line and a column, both counted from zero. -/
structure Position where
  /-- The line. -/
  line : Nat
  /-- How many characters of the line are before the position. -/
  column : Nat
deriving Repr, DecidableEq

namespace Text

/-- Whether a line ends right behind `c`, when `rest` follows. -/
def endsLine (c : Char) (rest : List Char) : Bool :=
  match c with
  | '\n' => true
  | '\x0B' => true
  | '\x0C' => true
  | '\u0085' => true
  | '\u2028' => true
  | '\u2029' => true
  | '\r' => rest.head? != some '\n'
  | _ => false

/-- The position `offset` characters further in a text that begins at the position `p`, or that of
its end. -/
def positionFrom (p : Position) : (offset : Nat) → List Char → Position
  | 0, _ => p
  | _, [] => p
  | offset + 1, c :: rest =>
    positionFrom (if endsLine c rest then ⟨p.line + 1, 0⟩ else ⟨p.line, p.column + 1⟩) offset rest

/-- The part of a text in a range, with the range cut to fit. -/
def clampedSlice (text : List Char) (r : TextRange) : List Char :=
  (text.drop r.start).take r.length

end Text

/-- The text of an open document. -/
structure Buffer where
  /-- Its characters. -/
  chars : List Char
deriving Repr, DecidableEq

namespace Buffer

/-- A buffer with a text. -/
def ofText (text : String) : Buffer := ⟨text.toList⟩

/-- The whole text. -/
def text (b : Buffer) : String := String.ofList b.chars

/-- How many characters there are. -/
def length (b : Buffer) : Nat := b.chars.length

/-- Whether a range lies in the text. -/
def covers (b : Buffer) (r : TextRange) : Bool := r.start ≤ r.stop && r.stop ≤ b.length

/-- The position of an offset, or of the end if the text is shorter. -/
def position (b : Buffer) (offset : Nat) : Position :=
  Text.positionFrom ⟨0, 0⟩ offset b.chars

/-- The text in a range, if the range lies in the text. -/
def slice? (b : Buffer) (r : TextRange) : Option String :=
  if b.covers r then some (String.ofList ((b.chars.drop r.start).take r.length)) else none

/-- The buffer with the text in a range replaced, if the range lies in the text. -/
def replace? (b : Buffer) (r : TextRange) (text : String) : Option Buffer :=
  if b.covers r then some ⟨b.chars.take r.start ++ text.toList ++ b.chars.drop r.stop⟩ else none

theorem slice?_isSome (b : Buffer) (r : TextRange) : (b.slice? r).isSome = b.covers r := by
  unfold slice?; split <;> simp_all

end Buffer
end Proofreader
