import Proofreader.Charset.Class

/-!
# What a pattern means

An `Expr` is a pattern with everything decided: which characters a set holds, at which places a
condition is met, how often something may be repeated and whether more or less is preferred.  Groups
and flags have done their work and are gone.

`canBeEmpty` and `isAlwaysEmpty` say whether an expression can match without taking up characters
and whether it never does anything else.  Both are about the form alone: a set without members still
counts as taking up a character.
-/

set_option autoImplicit false

namespace Proofreader
namespace Pattern

/-- What is asked about the words around a place. -/
inductive WordTest where
  /-- A word on exactly one side. -/
  | boundary
  /-- A word on both sides or on neither. -/
  | notBoundary
  /-- A word begins. -/
  | start
  /-- A word ends. -/
  | stop
  /-- No word before. -/
  | startHalf
  /-- No word after. -/
  | stopHalf
deriving Repr, DecidableEq

/-- Whether a test is passed, given whether there is a word before and after. -/
def WordTest.passes : WordTest → (before after : Bool) → Bool
  | boundary, before, after => before != after
  | notBoundary, before, after => before == after
  | start, before, after => !before && after
  | stop, before, after => before && !after
  | startHalf, before, _ => !before
  | stopHalf, _, after => !after

/-- A condition on a place in a text. -/
inductive Look where
  /-- The text begins here. -/
  | textStart
  /-- The text ends here. -/
  | textEnd
  /-- A line begins here; lines end in a line feed. -/
  | lineStart
  /-- A line ends here; lines end in a line feed. -/
  | lineEnd
  /-- A line begins here; lines end in a line feed, a carriage return or both. -/
  | crlfStart
  /-- A line ends here; lines end in a line feed, a carriage return or both. -/
  | crlfEnd
  /-- A test on words, which are made of the characters of a set. -/
  | word (test : WordTest) (set : Charset)
deriving Repr, DecidableEq

/-- Whether the condition is met between two characters, `none` standing for an end of the text. -/
def Look.holds : Look → (before after : Option Char) → Bool
  | textStart, before, _ => before.isNone
  | textEnd, _, after => after.isNone
  | lineStart, before, _ => before.isNone || before == some '\n'
  | lineEnd, _, after => after.isNone || after == some '\n'
  | crlfStart, before, after =>
    before.isNone || before == some '\n' || (before == some '\r' && after != some '\n')
  | crlfEnd, before, after =>
    after.isNone || after == some '\r' || (after == some '\n' && before != some '\r')
  | word test set, before, after => test.passes (before.any set.contains) (after.any set.contains)

/-- A pattern with everything decided. -/
inductive Expr where
  /-- Nothing. -/
  | empty
  /-- One character of a set. -/
  | set (s : Charset)
  /-- A condition on the place. -/
  | look (l : Look)
  /-- One after the other. -/
  | seq (a b : Expr)
  /-- One or the other, the first preferred. -/
  | alt (a b : Expr)
  /-- A repetition; `greedy` prefers more. -/
  | repeated (min : Nat) (max : Option Nat) (greedy : Bool) (a : Expr)
deriving Repr, DecidableEq

namespace Expr

/-- Whether the expression can match without taking up characters. -/
def canBeEmpty : Expr → Bool
  | empty => true
  | set _ => false
  | look _ => true
  | seq a b => a.canBeEmpty && b.canBeEmpty
  | alt a b => a.canBeEmpty || b.canBeEmpty
  | repeated min max _ a => min == 0 || max == some 0 || a.canBeEmpty

/-- Whether the expression never takes up characters. -/
def isAlwaysEmpty : Expr → Bool
  | empty => true
  | set _ => false
  | look _ => true
  | seq a b => a.isAlwaysEmpty && b.isAlwaysEmpty
  | alt a b => a.isAlwaysEmpty && b.isAlwaysEmpty
  | repeated _ max _ a => max == some 0 || a.isAlwaysEmpty

/-- A repetition.  What never takes up characters need not be repeated: once is as good as often. -/
def times (min : Nat) (max : Option Nat) (greedy : Bool) (a : Expr) : Expr :=
  if a.isAlwaysEmpty then
    repeated (Nat.min min 1) (some (Nat.min (max.getD 1) 1)) greedy a
  else
    repeated min max greedy a

/-- A list of expressions, one after the other. -/
def seqAll : List Expr → Expr
  | [] => empty
  | [a] => a
  | a :: rest => seq a (seqAll rest)

/-- A list of alternatives, the earlier preferred. -/
def altAll : List Expr → Expr
  | [] => empty
  | [a] => a
  | a :: rest => alt a (altAll rest)

end Expr

end Pattern
end Proofreader
