import Proofreader.Pattern.Bracket

/-!
# Reading patterns

The outer grammar: sequences, alternatives, groups and repetitions.  As with classes, what is still
open is kept on a stack, here of `GroupFrame`s, and reading is one loop over the pattern. 
`Node.read` is the whole reader.

Flags in the middle of a group hold to the end of that group.  Only one of them matters to reading,
the one that makes blanks insignificant, and the frame of a group remembers what it was outside.
-/

set_option autoImplicit false

namespace Proofreader
namespace Pattern

open ReadM

/-! ## Sequences and groups that are still open -/

/-- The parts of a sequence that were read so far. -/
structure Parts where
  /-- Where the sequence begins. -/
  start : Position
  /-- The parts, the last first. -/
  reversed : List Node

/-- A sequence that begins at a place. -/
def Parts.none (start : Position) : Parts := ⟨start, []⟩

/-- The sequence with one more part. -/
def Parts.push (parts : Parts) (node : Node) : Parts :=
  { parts with reversed := node :: parts.reversed }

/-- A sequence that ends at a place, as one node. -/
def Parts.toNode (parts : Parts) (stop : Position) : Node :=
  match parts.reversed with
  | [] => .empty ⟨parts.start, stop⟩
  | [node] => node
  | _ => .concat ⟨parts.start, stop⟩ parts.reversed.reverse

/-- A group or list of alternatives whose end is still to come. -/
inductive GroupFrame where
  /-- A group: the sequence it stands in, its opening bracket, its flags, and whether blanks were
  skipped before it. -/
  | group (before : Parts) (bracket : Span) (items : List FlagItem) (verbose : Bool)
  /-- Alternatives: where they begin, and those before the last, the last of them first. -/
  | alternation (start : Position) (reversed : List Node)

/-- The innermost list of alternatives closed with its last branch, and the frames outside it. -/
def closeAlternation (parts : Parts) (stop : Position) : List GroupFrame → Node × List GroupFrame
  | .alternation start reversed :: frames =>
    (.alternation ⟨start, stop⟩ (parts.toNode stop :: reversed).reverse, frames)
  | frames => (parts.toNode stop, frames)

/-! ## Flags -/

/-- The place of an earlier item that says the same. -/
def earlierItem? (flag : Option Flag) (items : List FlagItem) : Option Span :=
  (items.find? (·.flag == flag)).map (·.span)

/-- Read flags up to the colon or bracket that ends them, which is left.  `items` are the flags so
far, the last first. -/
def readFlags (fuel : Nat) (items : List FlagItem) : ReadM (List FlagItem) :=
  match fuel with
  | 0 => pure items.reverse
  | fuel + 1 => do
    match ← peek with
    | none => fail .flagsUnfinished (← here)
    | some c =>
      if c == ':' || c == ')' then
        match items with
        | ⟨span, none⟩ :: _ => fail .flagsEndInMinus span
        | _ => pure items.reverse
      else
        let span ← nextSpan
        let flag ← if c == '-' then pure none else
          match Flag.ofLetter? c with
          | some flag => pure (some flag)
          | none => fail .flagUnknown span
        match earlierItem? flag items with
        | some earlier =>
          failTwice (if flag.isNone then .minusRepeated else .flagRepeated) span earlier
        | none =>
          bump
          readFlags fuel (⟨span, flag⟩ :: items)

/-! ## Groups -/

/-- Whether a character can stand in the name of a group. -/
def isNameChar (c : Char) (first : Bool) : Bool :=
  c == '_' || Charset.alphabetic.contains c ||
    (!first && (c == '.' || c == '[' || c == ']' || Charset.number.contains c))

/-- Read the name of a group, up to its closing sign, which is left. -/
def readName (fuel : Nat) (name : List Char) : ReadM (List Char) :=
  match fuel with
  | 0 => pure name.reverse
  | fuel + 1 => do
    match ← peek with
    | none => fail .groupNameUnfinished (← here)
    | some '>' => pure name.reverse
    | some c =>
      if isNameChar c name.isEmpty then
        bump
        readName fuel (c :: name)
      else fail .groupNameInvalid (← nextSpan)

/-- Read the name of a group with the sign behind it, and keep it. -/
def readGroupName : ReadM Unit := do
  let start ← pos
  let name ← readName (← enough) []
  let span ← spanFrom start
  bump
  if name.isEmpty then fail .groupNameEmpty (.at start)
  match (← get).names.find? (·.1 == name) with
  | some (_, earlier) => failTwice .groupNameRepeated span earlier
  | none => modify fun r => { r with names := (name, span) :: r.names }

/-- What an opening bracket begins. -/
inductive Opening where
  /-- Flags for the rest of the group around. -/
  | flags (span : Span) (items : List FlagItem)
  /-- A group with flags of its own. -/
  | group (bracket : Span) (items : List FlagItem)

/-- Read what an opening bracket begins, standing at it. -/
def readOpening : ReadM Opening := do
  let bracket ← nextSpan
  bump
  bumpSpace
  if ← (bumpIf ['?', '='] <||> bumpIf ['?', '!'] <||> bumpIf ['?', '<', '=']
      <||> bumpIf ['?', '<', '!']) then
    fail .lookAround (← spanFrom bracket.start)
  let inner ← here
  if ← (bumpIf ['?', 'P', '<'] <||> bumpIf ['?', '<']) then
    readGroupName
    return .group bracket []
  else if ← bumpIf ['?'] then
    if ← atEnd then fail .groupUnclosed bracket
    let items ← readFlags (← enough) []
    let closed := (← peek) == some ')'
    bump
    if closed then
      if items.isEmpty then fail .nothingToRepeat inner
      return .flags (← spanFrom bracket.start) items
    else return .group bracket items
  else return .group bracket []

/-! ## Repetitions -/

/-- The part that a repetition repeats, and the parts before it.  Flags cannot be repeated. -/
def takeOperand (parts : Parts) : ReadM (Node × Parts) := do
  match parts.reversed with
  | [] => fail .nothingToRepeat (← here)
  | .empty _ :: _ => fail .nothingToRepeat (← here)
  | .flags .. :: _ => fail .nothingToRepeat (← here)
  | node :: reversed => return (node, { parts with reversed })

/-- The sequence with its last part repeated up to here. -/
def pushRepetition (parts : Parts) (node : Node) (count : Count) (greedy : Bool) : ReadM Parts := do
  return parts.push (.repetition ⟨node.span.start, ← pos⟩ count greedy node)

/-- Read a repetition without a number, standing at its sign. -/
def readRepetition (parts : Parts) (count : Count) : ReadM Parts := do
  let (node, parts) ← takeOperand parts
  bump
  let lazy ← bumpIf ['?']
  pushRepetition parts node count (!lazy)

/-- Step over blanks, which may stand around the numbers of a repetition in any mode. -/
def bumpBlanks (fuel : Nat) : ReadM Unit :=
  match fuel with
  | 0 => pure ()
  | fuel + 1 => do
    match ← peek with
    | some c => if Charset.isBlank c then do bump; bumpBlanks fuel
    | none => pure ()

/-- Read decimal digits. -/
def readDecimalDigits (fuel : Nat) (value : Option Nat) : ReadM (Option Nat) :=
  match fuel with
  | 0 => pure value
  | fuel + 1 => do
    match ← peek with
    | some c =>
      if c.isDigit then
        bumpBoth
        readDecimalDigits fuel (some (10 * value.getD 0 + (c.toNat - 0x30)))
      else pure value
    | none => pure value

/-- Read a number with the blanks around it.  A fault is returned and not raised, since a repetition
that is not closed has precedence over it. -/
def readDecimal : ReadM (Except Fault Nat) := do
  bumpBlanks (← enough)
  let start ← pos
  let value ← readDecimalDigits (← enough) none
  let span ← spanFrom start
  bumpBlanks (← enough)
  match value with
  | none => return .error (.at .countEmpty span)
  | some n => return if n < 0x100000000 then .ok n else .error (.at .numberInvalid span)

/-- Raise a fault that was kept back. -/
def raise {α : Type} : Except Fault α → ReadM α
  | .ok a => pure a
  | .error fault => throw fault

/-- Read the numbers of a counted repetition that began at `start`, standing behind its brace, up
to the closing brace, which is left. -/
def readCount (start : Position) : ReadM Count := do
  let least ← readDecimal
  match ← peek with
  | none => fail .countUnclosed (← spanFrom start)
  | some ',' => do
    bumpBoth
    match ← peek with
    | none => fail .countUnclosed (← spanFrom start)
    | some '}' => return ⟨← raise least, none⟩
    | some _ => do
      let least ← raise least
      let greatest ← raise (← readDecimal)
      return ⟨least, some greatest⟩
  | some _ => do
    let exact ← raise least
    return ⟨exact, some exact⟩

/-- Read a counted repetition, standing at its brace. -/
def readCounted (parts : Parts) : ReadM Parts := do
  let start ← pos
  let (node, parts) ← takeOperand parts
  bumpBoth
  if ← atEnd then fail .countUnclosed (← spanFrom start)
  let count ← readCount start
  if (← peek) != some '}' then fail .countUnclosed (← spanFrom start)
  bumpBoth
  let lazy ← bumpIf ['?']
  if count.max.any (· < count.min) then fail .countInvalid (← spanFrom start)
  pushRepetition parts node count (!lazy)

/-! ## Patterns -/

/-- The count that a sign stands for. -/
def countOfSign? : Char → Option Count
  | '?' => some ⟨0, some 1⟩
  | '*' => some ⟨0, none⟩
  | '+' => some ⟨1, none⟩
  | _ => none

/-- Read a character, the dot, an anchor or an escape. -/
def readAtom : ReadM Atom := do
  let span ← nextSpan
  match ← peek with
  | some '\\' => readEscape
  | some '.' => do bump; return .dot span
  | some '^' => do bump; return .anchor span .lineStart
  | some '$' => do bump; return .anchor span .lineEnd
  | some c => do bump; return .literal ⟨span, c, false⟩
  | none => fail .escapeUnfinished span

/-- The end of the pattern: nothing but alternatives may be open. -/
def finish (frames : List GroupFrame) (parts : Parts) : ReadM Node := do
  let (node, frames) := closeAlternation parts (← pos) frames
  match frames with
  | .group _ bracket _ _ :: _ => fail .groupUnclosed bracket
  | _ => return node

/-- The sequence around a group that ends here, standing at its closing bracket. -/
def closeGroup (frames : List GroupFrame) (parts : Parts) : ReadM (List GroupFrame × Parts) := do
  let stop ← pos
  match closeAlternation parts stop frames with
  | (node, .group before bracket items verbose :: frames) =>
    modify fun r => { r with verbose }
    bump
    return (frames, before.push (.group (← spanFrom bracket.start) items node))
  | _ => fail .groupUnopened (← nextSpan)

/-- The sequence of the group that begins here, standing at its opening bracket. -/
def openGroup (frames : List GroupFrame) (parts : Parts) : ReadM (List GroupFrame × Parts) := do
  let outside := (← get).verbose
  match ← readOpening with
  | .flags span items =>
    modify fun r => { r with verbose := (flagState .ignoreBlanks items true).getD outside }
    return (frames, parts.push (.flags span items))
  | .group bracket items =>
    modify fun r => { r with verbose := (flagState .ignoreBlanks items true).getD outside }
    return (.group parts bracket items outside :: frames, .none (← pos))

/-- The next branch of the innermost alternatives, standing at the bar. -/
def nextBranch (frames : List GroupFrame) (parts : Parts) : ReadM (List GroupFrame × Parts) := do
  let stop ← pos
  bump
  let next := Parts.none (← pos)
  match frames with
  | .alternation start reversed :: frames =>
    return (.alternation start (parts.toNode stop :: reversed) :: frames, next)
  | _ => return (.alternation parts.start [parts.toNode stop] :: frames, next)

/-- Read on to the end of the pattern. -/
def readRest (fuel : Nat) (frames : List GroupFrame) (parts : Parts) : ReadM Node :=
  match fuel with
  | 0 => finish frames parts
  | fuel + 1 => do
    bumpSpace
    match ← peek with
    | none => finish frames parts
    | some '(' => do
      let (frames, parts) ← openGroup frames parts
      readRest fuel frames parts
    | some ')' => do
      let (frames, parts) ← closeGroup frames parts
      readRest fuel frames parts
    | some '|' => do
      let (frames, parts) ← nextBranch frames parts
      readRest fuel frames parts
    | some '[' => do readRest fuel frames (parts.push (← readClass))
    | some '{' => do readRest fuel frames (← readCounted parts)
    | some c => do
      match countOfSign? c with
      | some count => readRest fuel frames (← readRepetition parts count)
      | none => readRest fuel frames (parts.push (.atom (← readAtom)))

/-- Read a pattern. -/
def Node.read (pattern : String) : Except Fault Node :=
  let reader := Reader.ofPattern pattern
  (readRest (reader.rest.length + 1) [] (.none reader.pos) reader).map (·.1)

end Pattern
end Proofreader
