import Proofreader.Charset.Class
import Proofreader.Pattern.Fault

/-!
# Reading a pattern

The state of reading, and its moves.  A reader stands before the first character of what is left;
`bump` steps over one character.  In verbose mode (flag `x`) blanks and comments may stand between
the parts of a pattern, and `bumpSpace` steps over those.

All loops run over what is left of the pattern.  The few that need several moves a step carry a
count of steps, which starts above the length of the rest and so never runs out.
-/

set_option autoImplicit false

namespace Proofreader
namespace Pattern

/-- Where reading is. -/
structure Reader where
  /-- What is left of the pattern. -/
  rest : List Char
  /-- The place before it. -/
  pos : Position
  /-- Whether blanks and comments are skipped. -/
  verbose : Bool
  /-- The names of groups so far. -/
  names : List (List Char × Span)
deriving Repr, DecidableEq

/-- Reading: a state that ends at the first fault. -/
abbrev ReadM := StateT Reader (Except Fault)

namespace Reader

/-- A reader before the whole pattern. -/
def ofPattern (pattern : String) : Reader := ⟨pattern.toList, .start, false, []⟩

/-- The reader one character further. -/
def next (r : Reader) : Reader :=
  match r.rest with
  | [] => r
  | c :: rest => { r with rest, pos := r.pos.after c }

/-- The place after the next character, or this place at the end of the pattern. -/
def nextPos (r : Reader) : Position := r.next.pos

/-- The span of the next character. -/
def nextSpan (r : Reader) : Span := ⟨r.pos, r.nextPos⟩

/-- What is left after blanks and comments, and the place before it. -/
def skipBlanks : List Char → Position → (inComment : Bool) → List Char × Position
  | [], p, _ => ([], p)
  | c :: rest, p, true => skipBlanks rest (p.after c) (c != '\n')
  | c :: rest, p, false =>
    if Charset.isBlank c then skipBlanks rest (p.after c) false
    else if c == '#' then skipBlanks rest (p.after c) true
    else (c :: rest, p)

/-- The reader after the blanks and comments, where those do not count. -/
def afterSpace (r : Reader) : Reader :=
  if r.verbose then
    let (rest, pos) := skipBlanks r.rest r.pos false
    { r with rest, pos }
  else r

/-- The character after the next one. -/
def peekSecond (r : Reader) : Option Char := r.rest[1]?

/-- The character after the next one, blanks and one `#` in between not counted.  If nothing but
those is left, they do count.  It is only asked whether a `-` begins a range, and for that the text
of a comment counts as much as any other. -/
def peekSecondSpace (r : Reader) : Option Char :=
  if r.verbose then
    let tail := r.rest.drop 1
    let past := tail.dropWhile Charset.isBlank
    let found := if past.head? == some '#' then (past.drop 1).dropWhile Charset.isBlank else past
    match found.head? with
    | some c => some c
    | none => tail.head?
  else r.peekSecond

end Reader

namespace ReadM

/-- Stop with a fault at a span. -/
def fail {α : Type} (kind : FaultKind) (span : Span) : ReadM α := throw (.at kind span)

/-- Stop with a fault that has an earlier partner. -/
def failTwice {α : Type} (kind : FaultKind) (span earlier : Span) : ReadM α :=
  throw ⟨kind, span, some earlier⟩

/-- The next character, if there is one. -/
def peek : ReadM (Option Char) := return (← get).rest.head?

/-- Whether the pattern ends here. -/
def atEnd : ReadM Bool := return (← get).rest.isEmpty

/-- The place before the next character. -/
def pos : ReadM Position := return (← get).pos

/-- The span of the next character. -/
def nextSpan : ReadM Span := return (← get).nextSpan

/-- The empty span before the next character. -/
def here : ReadM Span := return Span.at (← get).pos

/-- The span from a place to here. -/
def spanFrom (start : Position) : ReadM Span := return ⟨start, (← get).pos⟩

/-- Step over one character. -/
def bump : ReadM Unit := modify Reader.next

/-- Step over blanks and comments, where those do not count. -/
def bumpSpace : ReadM Unit := modify Reader.afterSpace

/-- Step over one character and what does not count after it. -/
def bumpBoth : ReadM Unit := do bump; bumpSpace

/-- Step over several characters. -/
def skip : Nat → ReadM Unit
  | 0 => pure ()
  | n + 1 => do bump; skip n

/-- Step over a text if the rest begins with it, and say whether it does. -/
def bumpIf (text : List Char) : ReadM Bool := do
  if text.isPrefixOf (← get).rest then
    skip text.length
    return true
  else return false

/-- How many steps are enough to read the rest one character at a time. -/
def enough : ReadM Nat := return (← get).rest.length + 1

end ReadM

end Pattern
end Proofreader
