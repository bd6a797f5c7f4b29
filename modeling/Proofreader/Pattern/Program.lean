import Proofreader.Pattern.Expr

/-!
# Programs

A pattern is run as a program of four instructions: take a character, test the place, choose between
two ways, and accept.  `Program.ofExpr` builds the program from the end: the code of an expression
is given the address to go on at, and answers with the address to begin at.  What comes later in the
pattern is therefore always there when its address is needed, and only the loop of `x*` has to
reserve an address for itself.

The order in which a choice names its ways is the order of preference, and is all that greed means.
-/

set_option autoImplicit false

namespace Proofreader
namespace Pattern

/-- One instruction; the numbers are addresses. -/
inductive Instr where
  /-- Take a character of the set. -/
  | set (s : Charset) (next : Nat)
  /-- Go on only where the condition is met. -/
  | look (l : Look) (next : Nat)
  /-- Go on in two ways, the first preferred. -/
  | split (first second : Nat)
  /-- The pattern has matched. -/
  | accept
deriving Repr, DecidableEq

/-- Code under construction. -/
abbrev Code := Array Instr

/-- A choice between going on with more of a repetition and leaving it. -/
def choice (greedy : Bool) (more done : Nat) : Instr :=
  if greedy then .split more done else .split done more

/-- Add an instruction; the result begins with its address. -/
def emit (i : Instr) (code : Code) : Nat × Code := (code.size, code.push i)

/-- The code of something that goes on at an address. -/
abbrev Builder := (next : Nat) → Code → Nat × Code

namespace Builder

/-- The same thing `n` times, one after the other. -/
def copies (build : Builder) : Nat → Builder
  | 0, next, code => (next, code)
  | n + 1, next, code =>
    let (entry, code) := build next code
    copies build n entry code

/-- Up to `n` more of the same, each inside the one before: to leave any of them is to leave all. -/
def optionals (build : Builder) (greedy : Bool) (done : Nat) : Nat → Builder
  | 0, next, code => (next, code)
  | n + 1, next, code =>
    let (entry, code) := build next code
    let (entry, code) := emit (choice greedy entry done) code
    optionals build greedy done n entry code

/-- One or more: after each, the choice between one more and leaving. -/
def oneOrMore (build : Builder) (greedy : Bool) : Builder := fun next code =>
  let (again, code) := emit .accept code
  let (entry, code) := build again code
  (entry, code.setIfInBounds again (choice greedy entry next))

/-- None or more of something that takes up characters. -/
def loop (build : Builder) (greedy : Bool) : Builder := fun next code =>
  let (again, code) := emit .accept code
  let (entry, code) := build again code
  (again, code.setIfInBounds again (choice greedy entry next))

/-- None or more of something that may take up nothing: none, or else one or more.  The difference
to `loop` shows where the inner expression matches nothing and prefers it. -/
def maybeOneOrMore (build : Builder) (greedy : Bool) : Builder := fun next code =>
  let (entry, code) := oneOrMore build greedy next code
  emit (choice greedy entry next) code

/-- A repetition of something, `canBeEmpty` telling whether it may take up nothing. -/
def repeated (build : Builder) (min : Nat) (max : Option Nat) (greedy canBeEmpty : Bool) :
    Builder :=
  match min, max with
  | 0, none => if canBeEmpty then maybeOneOrMore build greedy else loop build greedy
  | n + 1, none => fun next code =>
    let (entry, code) := oneOrMore build greedy next code
    copies build n entry code
  | n, some m => fun next code =>
    let (entry, code) := optionals build greedy next (m - n) next code
    copies build n entry code

end Builder

/-- The code of an expression. -/
def Expr.build : Expr → Builder
  | .empty, next, code => (next, code)
  | .set s, next, code => emit (.set s next) code
  | .look l, next, code => emit (.look l next) code
  | .seq a b, next, code =>
    let (entry, code) := b.build next code
    a.build entry code
  | .alt a b, next, code =>
    let (second, code) := b.build next code
    let (first, code) := a.build next code
    emit (.split first second) code
  | .repeated min max greedy a, next, code =>
    Builder.repeated a.build min max greedy a.canBeEmpty next code

/-- A pattern that is ready to run. -/
structure Program where
  /-- The instructions. -/
  code : Code
  /-- The address to begin at. -/
  start : Nat
deriving Repr, DecidableEq

/-- The program of an expression. -/
def Program.ofExpr (a : Expr) : Program :=
  let (start, code) := a.build 0 #[.accept]
  ⟨code, start⟩

end Pattern
end Proofreader
