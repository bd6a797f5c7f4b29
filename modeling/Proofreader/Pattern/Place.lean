/-!
# Places in a text

A `Place` is between two characters of a text: it knows the character before, the text after, and
how many *bytes* of UTF-8 are before.  Matches are told in bytes, because that is what the search
counts; `Text.Offsets` turns bytes into characters.
-/

set_option autoImplicit false

namespace Proofreader
namespace Pattern

/-- How many bytes a text takes up in UTF-8. -/
def byteLength : List Char → Nat
  | [] => 0
  | c :: rest => c.utf8Size + byteLength rest

/-- A place between two characters of a text. -/
structure Place where
  /-- The character before, if there is one. -/
  before : Option Char
  /-- How many bytes are before. -/
  pos : Nat
  /-- The text after. -/
  rest : List Char
deriving Repr, DecidableEq

namespace Place

/-- The place before a text. -/
def start (text : List Char) : Place := ⟨none, 0, text⟩

/-- The place after the next character, if there is one. -/
def next? (p : Place) : Option Place :=
  match p.rest with
  | [] => none
  | c :: rest => some ⟨some c, p.pos + c.utf8Size, rest⟩

/-- The first place, going on from `before` and `pos` through `rest`, with at least `target` bytes
before it, or else the end of the text. -/
def seek (target : Nat) : (before : Option Char) → (pos : Nat) → (rest : List Char) → Place
  | before, pos, [] => ⟨before, pos, []⟩
  | before, pos, c :: rest =>
    if target ≤ pos then ⟨before, pos, c :: rest⟩
    else seek target (some c) (pos + c.utf8Size) rest

/-- The first place from here on with at least `target` bytes before it, or else the end. -/
def goTo (p : Place) (target : Nat) : Place := seek target p.before p.pos p.rest

end Place

end Pattern
end Proofreader
