import Proofreader.Charset.Query
import Proofreader.Pattern.Span

/-!
# The syntax of patterns

A pattern as it is written: what is a group, what is repeated, which flags stand where.  Nothing is
decided yet that depends on flags, so `.` and `\w` are only names here; `Pattern.Meaning` says what
they match.  Every node knows its span, since a fault may be found long after reading.
-/

set_option autoImplicit false

namespace Proofreader
namespace Pattern

/-! ## Flags -/

/-- A switch that changes how a part of a pattern is read or matched. -/
inductive Flag where
  /-- `i`: letters match in any case. -/
  | caseInsensitive
  /-- `m`: `^` and `$` match at every line. -/
  | multiLine
  /-- `s`: the dot matches a line end too. -/
  | dotMatchesLineEnd
  /-- `U`: repetitions are lazy unless marked. -/
  | swapGreed
  /-- `u`: classes mean all of Unicode. -/
  | unicode
  /-- `R`: a line may also end in a carriage return. -/
  | crlf
  /-- `x`: blanks and comments in the pattern are skipped. -/
  | ignoreBlanks
deriving Repr, DecidableEq

/-- The flag that a letter stands for. -/
def Flag.ofLetter? : Char → Option Flag
  | 'i' => some .caseInsensitive
  | 'm' => some .multiLine
  | 's' => some .dotMatchesLineEnd
  | 'U' => some .swapGreed
  | 'u' => some .unicode
  | 'R' => some .crlf
  | 'x' => some .ignoreBlanks
  | _ => none

/-- One character of a list of flags; `none` is the `-` after which flags are switched off. -/
structure FlagItem where
  /-- Where it stands. -/
  span : Span
  /-- The flag, or `none` for the `-`. -/
  flag : Option Flag
deriving Repr, DecidableEq

/-- What a list of flags says about one of them, `on` being the sense of the flags to come. -/
def flagState (flag : Flag) : List FlagItem → (on : Bool) → Option Bool
  | [], _ => none
  | ⟨_, none⟩ :: items, _ => flagState flag items false
  | ⟨_, some f⟩ :: items, on => if f = flag then some on else flagState flag items on

/-! ## Leaves -/

/-- A condition on a place in the text, which takes up no characters. -/
inductive Anchor where
  /-- `^` -/
  | lineStart
  /-- `$` -/
  | lineEnd
  /-- `\A` -/
  | textStart
  /-- `\z` -/
  | textEnd
  /-- `\b` -/
  | wordBoundary
  /-- `\B` -/
  | notWordBoundary
  /-- `\<` and `\b{start}` -/
  | wordStart
  /-- `\>` and `\b{end}` -/
  | wordEnd
  /-- `\b{start-half}` -/
  | wordStartHalf
  /-- `\b{end-half}` -/
  | wordEndHalf
deriving Repr, DecidableEq

/-- The classes with a one-letter escape. -/
inductive ShortClass where
  /-- `\d` -/
  | digit
  /-- `\s` -/
  | space
  /-- `\w` -/
  | word
deriving Repr, DecidableEq

/-- A single character as it is written. -/
structure Literal where
  /-- Where it is written. -/
  span : Span
  /-- The character. -/
  char : Char
  /-- Whether it is written `\xHH`, which outside Unicode mode stands for a byte. -/
  mayBeByte : Bool
deriving Repr, DecidableEq

/-- What a single character or escape can be. -/
inductive Atom where
  /-- A character. -/
  | literal (l : Literal)
  /-- The dot. -/
  | dot (span : Span)
  /-- A condition on the place. -/
  | anchor (span : Span) (kind : Anchor)
  /-- `\d`, `\s`, `\w`, or with a capital the complement. -/
  | short (span : Span) (negated : Bool) (kind : ShortClass)
  /-- `\p`, or with a capital the complement. -/
  | property (span : Span) (negated : Bool) (query : Charset.Query)
deriving Repr, DecidableEq

/-- Where an atom is written. -/
def Atom.span : Atom → Span
  | literal l => l.span
  | dot span => span
  | anchor span _ => span
  | short span .. => span
  | property span .. => span

/-! ## Bracketed classes -/

/-- The operations of bracketed classes. -/
inductive ClassOp where
  /-- `&&` -/
  | intersection
  /-- `--` -/
  | difference
  /-- `~~` -/
  | symmetricDifference
deriving Repr, DecidableEq

/-- What stands between the brackets of a class. -/
inductive ClassNode where
  /-- Nothing, which only happens beside an operation. -/
  | empty (span : Span)
  /-- A character. -/
  | literal (l : Literal)
  /-- A range of characters. -/
  | range (span : Span) (first last : Literal)
  /-- `[:name:]` or `[:^name:]`. -/
  | named (span : Span) (negated : Bool) (set : Charset)
  /-- `\d`, `\s`, `\w` and their complements. -/
  | short (span : Span) (negated : Bool) (kind : ShortClass)
  /-- `\p` and `\P`. -/
  | property (span : Span) (negated : Bool) (query : Charset.Query)
  /-- A class within the class. -/
  | bracketed (span : Span) (negated : Bool) (inner : ClassNode)
  /-- Two or more items side by side. -/
  | union (span : Span) (items : List ClassNode)
  /-- An operation on what is to its left and right. -/
  | op (span : Span) (kind : ClassOp) (left right : ClassNode)
deriving Repr

/-- Where a part of a class is written. -/
def ClassNode.span : ClassNode → Span
  | empty span => span
  | literal l => l.span
  | range span .. => span
  | named span .. => span
  | short span .. => span
  | property span .. => span
  | bracketed span .. => span
  | union span _ => span
  | op span .. => span

/-! ## Patterns -/

/-- How often something may be repeated. -/
structure Count where
  /-- At least so often. -/
  min : Nat
  /-- At most so often, if there is a limit. -/
  max : Option Nat
deriving Repr, DecidableEq

/-- A pattern as it is written. -/
inductive Node where
  /-- Nothing. -/
  | empty (span : Span)
  /-- Flags for the rest of the group, such as `(?i)`. -/
  | flags (span : Span) (items : List FlagItem)
  /-- A character, the dot, an escape or an anchor. -/
  | atom (a : Atom)
  /-- A class in brackets. -/
  | bracketed (span : Span) (negated : Bool) (inner : ClassNode)
  /-- Something repeated; `greedy` says that more is better. -/
  | repetition (span : Span) (count : Count) (greedy : Bool) (inner : Node)
  /-- A group with its own flags. -/
  | group (span : Span) (items : List FlagItem) (inner : Node)
  /-- Alternatives, the earlier preferred. -/
  | alternation (span : Span) (branches : List Node)
  /-- One after the other. -/
  | concat (span : Span) (parts : List Node)
deriving Repr

/-- Where a part of a pattern is written. -/
def Node.span : Node → Span
  | empty span => span
  | flags span _ => span
  | atom a => a.span
  | bracketed span .. => span
  | repetition span .. => span
  | group span .. => span
  | alternation span _ => span
  | concat span _ => span

end Pattern
end Proofreader
