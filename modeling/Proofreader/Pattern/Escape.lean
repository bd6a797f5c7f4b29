import Proofreader.Pattern.Reader
import Proofreader.Pattern.Syntax

/-!
# Escapes

Reading what begins with a backslash: characters by code, characters that need quoting, short
classes, properties and anchors.  Each reader starts at the place that its comment names and leaves
the state right after what it read.
-/

set_option autoImplicit false

namespace Proofreader
namespace Pattern

open ReadM

/-! ## Characters -/

/-- The value of a hexadecimal digit. -/
def hexValue? (c : Char) : Option Nat :=
  if '0' ≤ c && c ≤ '9' then some (c.toNat - 0x30)
  else if 'a' ≤ c && c ≤ 'f' then some (c.toNat - 0x57)
  else if 'A' ≤ c && c ≤ 'F' then some (c.toNat - 0x37)
  else none

/-- The character with a given code, if there is one. -/
def charOfCode? (code : Nat) : Option Char :=
  if code.isValidChar then some (Char.ofNat code) else none

/-- The signs with a meaning of their own, which a backslash takes from them. -/
def isMeta (c : Char) : Bool := "\\.+*?()|[]\x7b\x7d^$#&-~".toList.contains c

/-- Whether a backslash before the character makes it stand for itself.  Letters and digits are
left for escapes to come, and so are `<` and `>`. -/
def isEscapable (c : Char) : Bool :=
  isMeta c || (c.toNat < 0x80 && !c.isAlphanum && c != '<' && c != '>')

/-- The characters with a letter for an escape. -/
def controlEscape? : Char → Option Char
  | 'a' => some '\x07'
  | 'f' => some '\x0C'
  | 't' => some '\t'
  | 'n' => some '\n'
  | 'r' => some '\r'
  | 'v' => some '\x0B'
  | _ => none

/-! ## Characters by code -/

/-- Read `count` more hexadecimal digits into `code`, standing before the first of them. -/
def readDigits (count : Nat) (code : Nat) : ReadM Nat :=
  match count with
  | 0 => pure code
  | count + 1 => do
    match ← peek with
    | none => fail .escapeUnfinished (← here)
    | some c =>
      match hexValue? c with
      | none => fail .codeDigitInvalid (← nextSpan)
      | some digit =>
        bumpBoth
        readDigits count (16 * code + digit)

/-- Read hexadecimal digits up to a closing brace, which is left.  The result is `none` if there
is no digit. -/
def readBracedDigits (fuel : Nat) (code : Option Nat) : ReadM (Option Nat) :=
  match fuel with
  | 0 => pure code
  | fuel + 1 => do
    match ← peek with
    | none => pure code
    | some '}' => pure code
    | some c =>
      match hexValue? c with
      | none => fail .codeDigitInvalid (← nextSpan)
      | some digit =>
        bumpBoth
        readBracedDigits fuel (some (16 * code.getD 0 + digit))

/-- Read a character by code, standing at the letter `x`, `u` or `U` of an escape that began at
`start`. -/
def readCode (start : Position) (letter : Char) : ReadM Literal := do
  bumpBoth
  match ← peek with
  | none => fail .escapeUnfinished (← here)
  | some '{' => do
    let brace ← pos
    let inside := (← get).nextPos
    bumpBoth
    let code ← readBracedDigits (← enough) none
    if ← atEnd then fail .escapeUnfinished (← spanFrom brace)
    let close ← pos
    bumpBoth
    match code with
    | none => fail .codeEmpty (← spanFrom brace)
    | some code =>
      match charOfCode? code with
      | none => fail .codeInvalid ⟨inside, close⟩
      | some c => return ⟨← spanFrom start, c, false⟩
  | some _ => do
    let first ← pos
    let width := if letter == 'x' then 2 else if letter == 'u' then 4 else 8
    let code ← readDigits width 0
    match charOfCode? code with
    | none => fail .codeInvalid (← spanFrom first)
    | some c => return ⟨← spanFrom start, c, letter == 'x'⟩

/-! ## Properties -/

/-- Read a name up to a closing brace, which is left. -/
def readBracedName (fuel : Nat) (name : List Char) : ReadM (List Char) :=
  match fuel with
  | 0 => pure name.reverse
  | fuel + 1 => do
    match ← peek with
    | none => pure name.reverse
    | some '}' => pure name.reverse
    | some c =>
      bumpBoth
      readBracedName fuel (c :: name)

/-- The parts before and after the first place where `sep` occurs. -/
def splitOnce (sep : List Char) : List Char → Option (List Char × List Char)
  | [] => none
  | c :: rest =>
    if sep.isPrefixOf (c :: rest) then some ([], (c :: rest).drop sep.length)
    else (splitOnce sep rest).map fun (before, after) => (c :: before, after)

/-- What the text between the braces of a property asks for. -/
def queryOfName (name : List Char) : Charset.Query :=
  let parts := (splitOnce ['!', '='] name).or ((splitOnce [':'] name).or (splitOnce ['='] name))
  match parts with
  | some (property, value) => .value (String.ofList property) (String.ofList value)
  | none => .word (String.ofList name)

/-- Read a property class, standing at the letter `p` or `P` of an escape that began at `start`. -/
def readProperty (start : Position) (negated : Bool) : ReadM Atom := do
  bumpBoth
  match ← peek with
  | none => fail .escapeUnfinished (← here)
  | some '{' => do
    bumpBoth
    let name ← readBracedName (← enough) []
    if ← atEnd then fail .escapeUnfinished (← here)
    bump
    return .property (← spanFrom start) negated (queryOfName name)
  | some '\\' => fail .propertyInvalid (← nextSpan)
  | some c => do
    bumpBoth
    return .property (← spanFrom start) negated (.word (String.ofList [c]))

/-! ## Word boundaries -/

/-- The word boundary that a name stands for. -/
def boundaryOfName? : List Char → Option Anchor
  | ['s', 't', 'a', 'r', 't'] => some .wordStart
  | ['e', 'n', 'd'] => some .wordEnd
  | ['s', 't', 'a', 'r', 't', '-', 'h', 'a', 'l', 'f'] => some .wordStartHalf
  | ['e', 'n', 'd', '-', 'h', 'a', 'l', 'f'] => some .wordEndHalf
  | _ => none

/-- Whether a character can stand in the name of a word boundary. -/
def isBoundaryChar (c : Char) : Bool := c.isAlpha || c == '-'

/-- Read the name of a word boundary, up to the first character that cannot stand in it. -/
def readBoundaryName (fuel : Nat) (name : List Char) : ReadM (List Char) :=
  match fuel with
  | 0 => pure name.reverse
  | fuel + 1 => do
    match ← peek with
    | none => pure name.reverse
    | some c =>
      if isBoundaryChar c then
        bumpBoth
        readBoundaryName fuel (c :: name)
      else pure name.reverse

/-- Read the rest of an escape `\b` that began at `start`.  With a brace and a name it is a special
word boundary; with a brace and anything else it is a plain one that is repeated, and the brace is
left for the repetition. -/
def readBoundary (start : Position) : ReadM Atom := do
  match ← peek with
  | some '{' => do
    let before ← get
    let brace ← pos
    bumpBoth
    let inside ← pos
    match ← peek with
    | none => fail .boundaryUnfinished (← spanFrom start)
    | some c =>
      if isBoundaryChar c then
        let name ← readBoundaryName (← enough) []
        match ← peek with
        | some '}' => do
          let close ← pos
          bump
          match boundaryOfName? name with
          | some kind => return .anchor (← spanFrom start) kind
          | none => fail .boundaryUnknown ⟨inside, close⟩
        | _ => fail .boundaryUnclosed (← spanFrom brace)
      else
        set before
        return .anchor (← spanFrom start) .wordBoundary
  | _ => return .anchor (← spanFrom start) .wordBoundary

/-! ## Escapes -/

/-- The short class of a letter, and whether it is the complement. -/
def shortClass? : Char → Option (Bool × ShortClass)
  | 'd' => some (false, .digit)
  | 's' => some (false, .space)
  | 'w' => some (false, .word)
  | 'D' => some (true, .digit)
  | 'S' => some (true, .space)
  | 'W' => some (true, .word)
  | _ => none

/-- The anchor of a letter, word boundaries apart. -/
def anchor? : Char → Option Anchor
  | 'A' => some .textStart
  | 'z' => some .textEnd
  | 'B' => some .notWordBoundary
  | '<' => some .wordStart
  | '>' => some .wordEnd
  | _ => none

/-- Read an escape, standing at the backslash. -/
def readEscape : ReadM Atom := do
  let start ← pos
  bump
  match ← peek with
  | none => fail .escapeUnfinished (← spanFrom start)
  | some c =>
    if c.isDigit then fail .backreference ⟨start, (← get).nextPos⟩
    else if c == 'x' || c == 'u' || c == 'U' then return .literal (← readCode start c)
    else if c == 'p' || c == 'P' then readProperty start (c == 'P')
    else
      bump
      let span ← spanFrom start
      match shortClass? c with
      | some (negated, kind) => return .short span negated kind
      | none =>
        if isEscapable c then return .literal ⟨span, c, false⟩
        else match controlEscape? c with
          | some control => return .literal ⟨span, control, false⟩
          | none =>
            match anchor? c with
            | some kind => return .anchor span kind
            | none => if c == 'b' then readBoundary start else fail .escapeUnknown span

end Pattern
end Proofreader
