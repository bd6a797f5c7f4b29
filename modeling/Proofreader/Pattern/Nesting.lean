import Proofreader.Pattern.Fault
import Proofreader.Pattern.Syntax

/-!
# Nesting

A pattern may not be nested too deeply.  Groups, repetitions, alternatives, sequences and all parts
of classes that have parts of their own count as one level each.  `Node.tooDeep?` finds the first
part, in the order of writing, for which no level is left.
-/

set_option autoImplicit false

namespace Proofreader
namespace Pattern

mutual

/-- The first part of a class for which none of `levels` is left. -/
def ClassNode.tooDeep? (levels : Nat) : ClassNode → Option Span
  | .bracketed span _ inner =>
    match levels with
    | 0 => some span
    | levels + 1 => inner.tooDeep? levels
  | .union span items =>
    match levels with
    | 0 => some span
    | levels + 1 => ClassNode.anyTooDeep? levels items
  | .op span _ left right =>
    match levels with
    | 0 => some span
    | levels + 1 => (left.tooDeep? levels).or (right.tooDeep? levels)
  | _ => none

/-- The first part of several for which none of `levels` is left. -/
def ClassNode.anyTooDeep? (levels : Nat) : List ClassNode → Option Span
  | [] => none
  | node :: nodes => (node.tooDeep? levels).or (ClassNode.anyTooDeep? levels nodes)

end

mutual

/-- The first part of a pattern for which none of `levels` is left. -/
def Node.tooDeep? (levels : Nat) : Node → Option Span
  | .bracketed span _ inner =>
    match levels with
    | 0 => some span
    | levels + 1 => inner.tooDeep? levels
  | .repetition span _ _ inner =>
    match levels with
    | 0 => some span
    | levels + 1 => inner.tooDeep? levels
  | .group span _ inner =>
    match levels with
    | 0 => some span
    | levels + 1 => inner.tooDeep? levels
  | .alternation span branches =>
    match levels with
    | 0 => some span
    | levels + 1 => Node.anyTooDeep? levels branches
  | .concat span parts =>
    match levels with
    | 0 => some span
    | levels + 1 => Node.anyTooDeep? levels parts
  | _ => none

/-- The first part of several for which none of `levels` is left. -/
def Node.anyTooDeep? (levels : Nat) : List Node → Option Span
  | [] => none
  | node :: nodes => (node.tooDeep? levels).or (Node.anyTooDeep? levels nodes)

end

/-- Refuse a pattern that is nested too deeply. -/
def Node.checkNesting (node : Node) : Except Fault Unit :=
  match node.tooDeep? nestLimit with
  | some span => .error (.at .tooDeep span)
  | none => .ok ()

end Pattern
end Proofreader
