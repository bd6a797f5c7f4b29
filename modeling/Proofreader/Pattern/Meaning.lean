import Proofreader.Pattern.Expr
import Proofreader.Pattern.Fault
import Proofreader.Pattern.Syntax

/-!
# From the syntax of a pattern to its meaning

Flags decide what the names in a pattern stand for.  `Mode` holds the flags in force; the meaning of
a node is computed with the mode before it, and gives the mode after it, since a flag in the middle
of a group holds to the end of that group, later alternatives included.

Outside Unicode mode classes speak of bytes.  A text consists of characters, so whatever could match
a byte that is not a character by itself is refused: the dot, a byte written by its code, and the
complement of any class.
-/

set_option autoImplicit false

namespace Proofreader
namespace Pattern

/-! ## Modes -/

/-- The flags in force. -/
structure Mode where
  /-- Letters match in any case. -/
  caseInsensitive : Bool
  /-- `^` and `$` match at every line. -/
  multiLine : Bool
  /-- The dot matches a line end too. -/
  dotMatchesLineEnd : Bool
  /-- Repetitions are lazy unless marked. -/
  swapGreed : Bool
  /-- Classes mean all of Unicode. -/
  unicode : Bool
  /-- A line may also end in a carriage return. -/
  crlf : Bool
deriving Repr, DecidableEq

/-- The flags in force where nothing is said. -/
def Mode.initial : Mode := ⟨false, false, false, false, true, false⟩

/-- The mode after a list of flags. -/
def Mode.apply (mode : Mode) (items : List FlagItem) : Mode where
  caseInsensitive := (flagState .caseInsensitive items true).getD mode.caseInsensitive
  multiLine := (flagState .multiLine items true).getD mode.multiLine
  dotMatchesLineEnd := (flagState .dotMatchesLineEnd items true).getD mode.dotMatchesLineEnd
  swapGreed := (flagState .swapGreed items true).getD mode.swapGreed
  unicode := (flagState .unicode items true).getD mode.unicode
  crlf := (flagState .crlf items true).getD mode.crlf

/-! ## Sets -/

/-- The set with its case variants, where case does not count. -/
def Mode.fold (mode : Mode) (s : Charset) : Charset :=
  if mode.caseInsensitive then
    if mode.unicode then .folded s else .asciiFolded s
  else s

/-- A set folded first and then, if it is negated, turned into its complement. -/
def Mode.foldNegate (mode : Mode) (span : Span) (negated : Bool) (s : Charset) :
    Except Fault Charset :=
  if negated then
    if mode.unicode then .ok (.compl (mode.fold s)) else .error (.at .partOfCharacter span)
  else .ok (mode.fold s)

/-- Whether a character written in a pattern stands for a byte that is no character by itself. -/
def Mode.isLoneByte (mode : Mode) (l : Literal) : Bool :=
  !mode.unicode && l.mayBeByte && 0x80 ≤ l.char.toNat

/-- The meaning of a short class. -/
def Mode.short (mode : Mode) (span : Span) (negated : Bool) (kind : ShortClass) :
    Except Fault Charset :=
  let s := match kind, mode.unicode with
    | .digit, true => Charset.decimalNumber
    | .digit, false => Charset.asciiDigit
    | .space, true => Charset.whiteSpace
    | .space, false => Charset.asciiSpace
    | .word, true => Charset.word
    | .word, false => Charset.asciiWord
  if negated then
    if mode.unicode then .ok (.compl s) else .error (.at .partOfCharacter span)
  else .ok s

/-- The meaning of a property. -/
def Mode.property (mode : Mode) (span : Span) (negated : Bool) (query : Charset.Query) :
    Except Fault Charset :=
  if mode.unicode then
    match Charset.find query with
    | .ok s => mode.foldNegate span negated s
    | .error .unknownProperty => .error (.at .propertyUnknown span)
    | .error .unknownValue => .error (.at .propertyValueUnknown span)
  else .error (.at .unicodeNotAllowed span)

/-- A character in a class. -/
def Mode.classChar (mode : Mode) (l : Literal) : Except Fault Nat :=
  if mode.isLoneByte l then .error (.at .partOfCharacter l.span)
  else if !mode.unicode && 0x80 ≤ l.char.toNat then .error (.at .unicodeNotAllowed l.span)
  else .ok l.char.toNat

mutual

/-- The meaning of what stands between the brackets of a class, not folded yet. -/
def ClassNode.meaning (mode : Mode) : ClassNode → Except Fault Charset
  | .empty _ => .ok .empty
  | .literal l => do
    let c ← mode.classChar l
    return .range c c
  | .range _ first last => do
    let lo ← mode.classChar first
    let hi ← mode.classChar last
    return .range lo hi
  | .named span negated s => mode.foldNegate span negated s
  | .short span negated kind => mode.short span negated kind
  | .property span negated query => mode.property span negated query
  | .bracketed span negated inner => do
    let s ← inner.meaning mode
    mode.foldNegate span negated s
  | .union _ items => do
    return .unionAll (← ClassNode.meanings mode items)
  | .op _ kind left right => do
    let left := mode.fold (← left.meaning mode)
    let right := mode.fold (← right.meaning mode)
    match kind with
    | .intersection => return .inter left right
    | .difference => return .diff left right
    | .symmetricDifference => return .symmDiff left right

/-- The meanings of items side by side. -/
def ClassNode.meanings (mode : Mode) : List ClassNode → Except Fault (List Charset)
  | [] => .ok []
  | node :: nodes => do
    let s ← node.meaning mode
    let more ← ClassNode.meanings mode nodes
    return s :: more

end

/-! ## Atoms -/

/-- The meaning of a word boundary. -/
def Mode.word (mode : Mode) (test : WordTest) : Look :=
  .word test (if mode.unicode then Charset.word else Charset.asciiWord)

/-- The meaning of an anchor. -/
def Mode.anchor (mode : Mode) : Anchor → Look
  | .lineStart =>
    if mode.multiLine then if mode.crlf then .crlfStart else .lineStart else .textStart
  | .lineEnd => if mode.multiLine then if mode.crlf then .crlfEnd else .lineEnd else .textEnd
  | .textStart => .textStart
  | .textEnd => .textEnd
  | .wordBoundary => mode.word .boundary
  | .notWordBoundary => mode.word .notBoundary
  | .wordStart => mode.word .start
  | .wordEnd => mode.word .stop
  | .wordStartHalf => mode.word .startHalf
  | .wordEndHalf => mode.word .stopHalf

/-- The meaning of the dot. -/
def Mode.dot (mode : Mode) : Charset :=
  if mode.dotMatchesLineEnd then .full
  else .compl (if mode.crlf then .lineEnds else .lineFeed)

/-- The meaning of a character, the dot, an escape or an anchor. -/
def Atom.meaning (mode : Mode) : Atom → Except Fault Expr
  | .literal l =>
    if mode.isLoneByte l then .error (.at .partOfCharacter l.span)
    else .ok (.set (mode.fold (.single l.char)))
  | .dot span => if mode.unicode then .ok (.set mode.dot) else .error (.at .partOfCharacter span)
  | .anchor _ kind => .ok (.look (mode.anchor kind))
  | .short span negated kind => (mode.short span negated kind).map .set
  | .property span negated query => (mode.property span negated query).map .set

/-! ## Patterns -/

mutual

/-- The meaning of a pattern that begins in a mode, and the mode behind it. -/
def Node.meaning (mode : Mode) : Node → Except Fault (Expr × Mode)
  | .empty _ => .ok (.empty, mode)
  | .flags _ items => .ok (.empty, mode.apply items)
  | .atom a => do
    return (← a.meaning mode, mode)
  | .bracketed span negated inner => do
    let s ← inner.meaning mode
    return (.set (← mode.foldNegate span negated s), mode)
  | .repetition _ count greedy inner => do
    let (a, after) ← inner.meaning mode
    return (.times count.min count.max (greedy != mode.swapGreed) a, after)
  | .group _ items inner => do
    let (a, _) ← inner.meaning (mode.apply items)
    return (a, mode)
  | .alternation _ branches => do
    let (parts, after) ← Node.meanings mode branches
    return (.altAll parts, after)
  | .concat _ nodes => do
    let (parts, after) ← Node.meanings mode nodes
    return (.seqAll parts, after)

/-- The meanings of several patterns, each beginning in the mode behind the one before. -/
def Node.meanings (mode : Mode) : List Node → Except Fault (List Expr × Mode)
  | [] => .ok ([], mode)
  | node :: nodes => do
    let (a, mode) ← node.meaning mode
    let (more, mode) ← Node.meanings mode nodes
    return (a :: more, mode)

end

end Pattern
end Proofreader
