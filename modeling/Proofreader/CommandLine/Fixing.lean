import Proofreader.Checker

/-!
# Applying all suggestions

Of the findings of a document that suggest something, as many as possible are applied.  They are
taken from the end of the document backwards, so that the ranges of those still to come stay true,
and one that reaches into the last that was applied is left out.
-/

set_option autoImplicit false

namespace Proofreader
namespace CommandLine

/-- The findings that suggest something, the last in the document first; those that begin at the
same place keep their order. -/
def candidates (diagnostics : List Diagnostic) : List Diagnostic :=
  (diagnostics.filter fun d => d.suggestion.isSome).mergeSort fun a b =>
    decide (b.range.start ≤ a.range.start)

/-- Apply findings in order, leaving out what ends behind `limit`, the start of the last that was
applied.  The first part of the result is how many were applied. -/
def fixEach (id : DocumentId) : List Diagnostic → (limit : Option Nat) → Checker → Nat × Checker
  | [], _, c => (0, c)
  | d :: rest, limit, c =>
    if limit.any (· < d.range.stop) then fixEach id rest limit c
    else match c.fix id d with
      | (.ok (), c) =>
        let (applied, c) := fixEach id rest (some d.range.start) c
        (applied + 1, c)
      | (.error _, c) => fixEach id rest limit c

/-- Apply the suggestions for a document; the first part of the result is how many were applied. -/
def fixAll (c : Checker) (id : DocumentId) : Nat × Checker :=
  fixEach id (candidates (c.diagnostics id)) none c

end CommandLine
end Proofreader
