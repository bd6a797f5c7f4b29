import Proofreader.Pattern.Escape

/-!
# Bracketed classes

Reading `[…]`.  Classes may stand in each other and may be combined by `&&`, `--` and `~~`, which
all bind alike and group to the left.  What is still open is kept on a stack of `ClassFrame`s, the
innermost first, so that reading is one loop over the pattern.
-/

set_option autoImplicit false

namespace Proofreader
namespace Pattern

open ReadM

/-! ## Items side by side -/

/-- The items read so far between two brackets or operations. -/
structure Items where
  /-- Their span, or where they will begin. -/
  span : Span
  /-- The items, the last first. -/
  reversed : List ClassNode

/-- No items yet. -/
def Items.none (p : Position) : Items := ⟨.at p, []⟩

/-- The items with one more. -/
def Items.push (items : Items) (item : ClassNode) : Items :=
  let start := if items.reversed.isEmpty then item.span.start else items.span.start
  ⟨⟨start, item.span.stop⟩, item :: items.reversed⟩

/-- The items as one node. -/
def Items.toNode (items : Items) : ClassNode :=
  match items.reversed with
  | [] => .empty items.span
  | [item] => item
  | _ => .union items.span items.reversed.reverse

/-! ## What is still open -/

/-- A class or an operation whose end is still to come. -/
inductive ClassFrame where
  /-- A class: the items before it, the span of its head and whether it is a complement. -/
  | class (before : Items) (head : Span) (negated : Bool)
  /-- An operation with its left side. -/
  | op (kind : ClassOp) (left : ClassNode)

/-- The head of the innermost open class, which is shown when the pattern ends too early. -/
def innermostHead (fallback : Span) : List ClassFrame → Span
  | [] => fallback
  | .class _ head _ :: _ => head
  | .op .. :: frames => innermostHead fallback frames

/-- The end of an operation: what was read last becomes its right side.  Operations bind alike, so
at most one can be open in a class. -/
def closeOp (right : ClassNode) : List ClassFrame → ClassNode × List ClassFrame
  | .op kind left :: frames => (.op ⟨left.span.start, right.span.stop⟩ kind left right, frames)
  | frames => (right, frames)

/-- The operation that a sign stands for when it is written twice. -/
def classOp? : Char → Option ClassOp
  | '&' => some .intersection
  | '-' => some .difference
  | '~' => some .symmetricDifference
  | _ => none

/-! ## Reading -/

/-- Read the `-` at the head of a class, which stand for themselves there. -/
def readLeadingMinus (start : Position) (fuel : Nat) (items : Items) : ReadM Items :=
  match fuel with
  | 0 => pure items
  | fuel + 1 => do
    if (← peek) == some '-' then
      let item := ClassNode.literal ⟨← nextSpan, '-', false⟩
      bumpBoth
      if ← atEnd then fail .classUnclosed (.at start)
      readLeadingMinus start fuel (items.push item)
    else pure items

/-- Read the head of a class, standing at its opening bracket: the sign of a complement, and the
`-` and `]` that stand for themselves because they come first. -/
def readClassHead : ReadM (Span × Bool × Items) := do
  let start ← pos
  bumpBoth
  if ← atEnd then fail .classUnclosed (← spanFrom start)
  let negated := (← peek) == some '^'
  if negated then
    bumpBoth
    if ← atEnd then fail .classUnclosed (← spanFrom start)
  let items ← readLeadingMinus start (← enough) (.none (← pos))
  if items.reversed.isEmpty && (← peek) == some ']' then
    let item := ClassNode.literal ⟨← nextSpan, ']', false⟩
    bumpBoth
    if ← atEnd then fail .classUnclosed (← spanFrom start)
    return (← spanFrom start, negated, items.push item)
  return (← spanFrom start, negated, items)

/-- The name, whether it is negated, and the rest behind the closing bracket, of the inside of
`[:name:]` from the first colon on. -/
def scanNamed (inside : List Char) : Option (List Char × Bool × List Char) :=
  match inside with
  | ':' :: tail =>
    let negated := tail.head? == some '^'
    let tail := if negated then tail.drop 1 else tail
    let name := tail.takeWhile (· != ':')
    match tail.drop name.length with
    | ':' :: ']' :: rest => some (name, negated, rest)
    | _ => none
  | _ => none

/-- Read a named class such as `[:alpha:]`, standing at its bracket, if there is one; otherwise
read nothing, since then the bracket opens a class. -/
def readNamed? : ReadM (Option ClassNode) := do
  let start ← pos
  match scanNamed ((← get).rest.drop 1) with
  | none => return none
  | some (name, negated, rest) =>
    match Charset.findNamed (String.ofList name) with
    | none => return none
    | some set =>
      skip ((← get).rest.length - rest.length)
      return some (.named (← spanFrom start) negated set)

/-- Read one character or escape of a class. -/
def readClassAtom : ReadM Atom := do
  match ← peek with
  | some '\\' => readEscape
  | some c => do
    let span ← nextSpan
    bump
    return .literal ⟨span, c, false⟩
  | none => fail .classUnclosed (← here)

/-- An atom as an item of a class. -/
def itemOfAtom : Atom → ReadM ClassNode
  | .literal l => pure (.literal l)
  | .short span negated kind => pure (.short span negated kind)
  | .property span negated query => pure (.property span negated query)
  | .dot span => fail .anchorInClass span
  | .anchor span _ => fail .anchorInClass span

/-- An atom as an end of a range. -/
def literalOfAtom : Atom → ReadM Literal
  | .literal l => pure l
  | a => fail .rangeNotLiteral a.span

/-- Read an item of a class, a range if it is one.  `head` is the innermost open class. -/
def readClassItem (head : Span) : ReadM ClassNode := do
  let first ← readClassAtom
  bumpSpace
  if ← atEnd then fail .classUnclosed head
  let second := (← get).peekSecondSpace
  if (← peek) != some '-' || second == some ']' || second == some '-' then
    itemOfAtom first
  else
    bumpBoth
    if ← atEnd then fail .classUnclosed head
    let last ← readClassAtom
    let span : Span := ⟨first.span.start, last.span.stop⟩
    let lo ← literalOfAtom first
    let hi ← literalOfAtom last
    if hi.char < lo.char then fail .rangeInvalid span
    return .range span lo hi

/-- Read on in a class until the outermost bracket is closed.  `frames` are the open classes and
operations, `items` what was read since the last of them was opened. -/
def readClassRest (outer : Span) (fuel : Nat) (frames : List ClassFrame) (items : Items) :
    ReadM Node :=
  match fuel with
  | 0 => fail .classUnclosed outer
  | fuel + 1 => do
    bumpSpace
    let head := innermostHead outer frames
    match ← peek with
    | none => fail .classUnclosed head
    | some '[' => do
      match ← readNamed? with
      | some item => readClassRest outer fuel frames (items.push item)
      | none =>
        let (newHead, negated, first) ← readClassHead
        readClassRest outer fuel (.class items newHead negated :: frames) first
    | some ']' => do
      bump
      let (inner, frames) := closeOp items.toNode frames
      match frames with
      | [.class _ head negated] =>
        return .bracketed (← spanFrom head.start) negated inner
      | .class before head negated :: frames =>
        let item := ClassNode.bracketed (← spanFrom head.start) negated inner
        readClassRest outer fuel frames (before.push item)
      | _ => fail .classUnclosed outer
    | some c => do
      match classOp? c, (← get).peekSecond == some c with
      | some kind, true =>
        bump
        bump
        let (left, frames) := closeOp items.toNode frames
        readClassRest outer fuel (.op kind left :: frames) (.none (← pos))
      | _, _ =>
        let item ← readClassItem head
        readClassRest outer fuel frames (items.push item)

/-- Read a class, standing at its opening bracket. -/
def readClass : ReadM Node := do
  let outer ← nextSpan
  let before := Items.none (← pos)
  let (head, negated, items) ← readClassHead
  readClassRest outer (← enough) [.class before head negated] items

end Pattern
end Proofreader
