/-!
# Places in a pattern

A fault in a pattern is shown by underlining the characters at fault, so every part of a pattern
that can be at fault carries a `Span`.  A `Position` counts characters, and keeps line and column
beside the offset because a pattern may have several lines.
-/

set_option autoImplicit false

namespace Proofreader
namespace Pattern

/-- A place between two characters of a pattern. -/
structure Position where
  /-- How many characters are before it. -/
  offset : Nat
  /-- Its line, counted from 1. -/
  line : Nat
  /-- Its column, counted from 1. -/
  column : Nat
deriving Repr, DecidableEq

/-- The place before the first character. -/
def Position.start : Position := ⟨0, 1, 1⟩

/-- The place after `c`, when this is the place before it. -/
def Position.after (p : Position) (c : Char) : Position :=
  if c == '\n' then ⟨p.offset + 1, p.line + 1, 1⟩ else ⟨p.offset + 1, p.line, p.column + 1⟩

/-- A part of a pattern. -/
structure Span where
  /-- Where it begins. -/
  start : Position
  /-- Where it ends. -/
  stop : Position
deriving Repr, DecidableEq

/-- The empty span at a place. -/
def Span.at (p : Position) : Span := ⟨p, p⟩

/-- Whether a span begins and ends on the same line. -/
def Span.isOneLine (s : Span) : Bool := s.start.line == s.stop.line

/-- Whether one span comes before another: by start, then by end. -/
def Span.before (a b : Span) : Bool :=
  a.start.offset < b.start.offset ||
    (a.start.offset == b.start.offset && a.stop.offset ≤ b.stop.offset)

end Pattern
end Proofreader
