import Proofreader.Pattern.Grammar
import Proofreader.Pattern.Match
import Proofreader.Pattern.Meaning
import Proofreader.Pattern.Nesting

/-!
# From a pattern to a program

A pattern is read, its nesting is checked, its meaning is found and a program is made of it.  The
first fault on this way is the one that is told, so a fault of reading hides one of meaning, however
far behind it stands.

A program may be of any size here.  An engine that sets memory aside for its programs refuses a
pattern such as `\w{1000000}`, whose program has a copy of the class for every repetition that is
asked for; that refusal is no part of this development, and such a pattern compiles.
-/

set_option autoImplicit false

namespace Proofreader
namespace Pattern

/-- The meaning of a pattern. -/
def parse (pattern : String) : Except Fault Expr := do
  let node ← Node.read pattern
  node.checkNesting
  let (a, _) ← node.meaning .initial
  return a

end Pattern

/-- A pattern that cannot be used. -/
structure PatternFault where
  /-- The pattern. -/
  pattern : String
  /-- What is wrong with it. -/
  fault : Pattern.Fault
deriving Repr, DecidableEq

/-- The text that tells the error. -/
def PatternFault.message (e : PatternFault) : String :=
  "invalid pattern '" ++ e.pattern ++ "': " ++ e.fault.render e.pattern

namespace Pattern

/-- The program of a pattern. -/
def compile (pattern : String) : Except PatternFault Program :=
  match parse pattern with
  | .ok a => .ok (.ofExpr a)
  | .error fault => .error ⟨pattern, fault⟩

/-- An error of compiling names the pattern that was compiled. -/
theorem pattern_eq_of_compile_eq_error {pattern : String} {e : PatternFault}
    (h : compile pattern = .error e) : e.pattern = pattern := by
  unfold compile at h
  split at h <;> simp_all
  exact h ▸ rfl

end Pattern
end Proofreader
