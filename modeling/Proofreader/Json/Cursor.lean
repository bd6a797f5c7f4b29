import Proofreader.Json.Fault

/-!
# Reading a JSON text

The state of reading and its moves.  Reading goes on after a fault in one respect: whatever encloses
the value at fault still looks for its end, because that decides the place that is named.  So the
state survives a fault, and `closing` puts the two together.

Columns count bytes.  A fault at a character is named with one byte of it already read.
-/

set_option autoImplicit false

namespace Proofreader
namespace Json

/-- Where reading is. -/
structure Cursor where
  /-- What is left of the text. -/
  rest : List Char
  /-- The place before it. -/
  place : Place
  /-- How many characters are left; they are not counted anew each time. -/
  left : Nat
  /-- The count is right. -/
  left_eq : left = rest.length
deriving Repr, DecidableEq

/-- Reading: a state that is kept when a fault is found. -/
abbrev ReadM := EStateM Fault Cursor

/-- The place after a character. -/
def Place.after (p : Place) (c : Char) : Place :=
  if c == '\n' then ⟨p.line + 1, 0⟩ else ⟨p.line, p.column + c.utf8Size⟩

/-- The place `n` bytes further in a text, where only line ends matter. -/
def Place.afterBytes (p : Place) : Nat → List Char → Place
  | 0, _ => p
  | _, [] => p
  | n, c :: rest =>
    if c.utf8Size ≤ n then (p.after c).afterBytes (n - c.utf8Size) rest
    else ⟨p.line, p.column + n⟩

namespace Cursor

/-- The cursor before a whole text. -/
def ofText (text : List Char) : Cursor := ⟨text, ⟨1, 0⟩, text.length, rfl⟩

/-- The place with one byte more read, or the end of the text. -/
def peekPlace (s : Cursor) : Place := s.place.afterBytes 1 s.rest

/-- The cursor behind the next character. -/
def next : Cursor → Cursor
  | ⟨[], place, left, h⟩ => ⟨[], place, left, h⟩
  | ⟨c :: rest, place, left, h⟩ =>
    ⟨rest, place.after c, left - 1, by rw [h, List.length_cons, Nat.add_sub_cancel]⟩

/-- Step over the characters of a list as long as they satisfy a condition. -/
def skipWhileIn (keep : Char → Bool) :
    (rest : List Char) → Place → (left : Nat) → left = rest.length → Cursor
  | [], place, left, h => ⟨[], place, left, h⟩
  | c :: rest, place, left, h =>
    if keep c then
      skipWhileIn keep rest (place.after c) (left - 1)
        (by rw [h, List.length_cons, Nat.add_sub_cancel])
    else ⟨c :: rest, place, left, h⟩

/-- The cursor behind the characters that satisfy a condition. -/
def skipWhile (keep : Char → Bool) (s : Cursor) : Cursor :=
  skipWhileIn keep s.rest s.place s.left s.left_eq

end Cursor

/-- Whether a character may stand between the parts of a JSON text. -/
def isSpace (c : Char) : Bool := c == ' ' || c == '\n' || c == '\t' || c == '\r'

/-- Whether a character is a decimal digit. -/
def isDigit (c : Char) : Bool := '0' ≤ c && c ≤ '9'

/-- The value of a decimal digit. -/
def digitValue (c : Char) : Nat := c.toNat - 0x30

namespace ReadM

/-- Stop with a fault whose place is still to be found. -/
def failLater {α : Type} (kind : FaultKind) : ReadM α := throw ⟨kind, none⟩

/-- Stop with a fault at this place. -/
def failHere {α : Type} (kind : FaultKind) : ReadM α := do
  throw ⟨kind, some (← get).place⟩

/-- Stop with a fault at the next character. -/
def failAtNext {α : Type} (kind : FaultKind) : ReadM α := do
  throw ⟨kind, some (← get).peekPlace⟩

/-- Stop with a fault `n` bytes from here. -/
def failAfter {α : Type} (n : Nat) (kind : FaultKind) : ReadM α := do
  let s ← get
  throw ⟨kind, some (s.place.afterBytes n s.rest)⟩

/-- The next character, if there is one. -/
def peek : ReadM (Option Char) := return (← get).rest.head?

/-- Step over one character. -/
def bump : ReadM Unit := modify Cursor.next

/-- Step over characters as long as they satisfy a condition, and count them. -/
def skipWhile (keep : Char → Bool) : ReadM Nat := do
  let s ← get
  let after := s.skipWhile keep
  set after
  return s.left - after.left

/-- Step over blanks; the result is the character behind them. -/
def peekPastSpace : ReadM (Option Char) := do
  let _ ← skipWhile isSpace
  peek

/-- Step over the rest of a word. -/
def expectWord : List Char → ReadM Unit
  | [] => pure ()
  | expected :: more => do
    match ← peek with
    | none => failHere .valueUnfinished
    | some c =>
      if c == expected then
        bump
        expectWord more
      else failAtNext .wordExpected

/-- How many steps are enough to read the rest one character at a time. -/
def enough : ReadM Nat := return (← get).left + 1

/-- Give a fault the place that was reached, if it has none. -/
def located {α : Type} (body : ReadM α) : ReadM α := fun s =>
  match body s with
  | .ok a s => .ok a s
  | .error fault s => .error (fault.locate s.place) s

/-- Read something that is enclosed, then look for its end, whether the first went well or not.  The
first fault counts. -/
def closing {α : Type} (body : ReadM α) (close : ReadM Unit) : ReadM α := fun s =>
  match body s with
  | .ok a s =>
    match close s with
    | .ok _ s => .ok a s
    | .error fault s => .error fault s
  | .error fault s =>
    match close s with
    | .ok _ s => .error fault s
    | .error _ s => .error fault s

end ReadM

end Json
end Proofreader
