import Proofreader.Diagnostic
import Proofreader.Text.Comment

/-!
# Checking a text

`check` applies rules to a text.  The findings are ordered by rule and then by place; findings of
different rules may overlap and are all kept.  A rule with a faulty pattern spoils the whole check,
and then nothing is found.

The rules see the text without its comments, so what is found behind a comment is told by its place
in the text without it.
-/

set_option autoImplicit false

namespace Proofreader

/-- The findings of one rule in a text whose comments are gone. -/
def Rule.findings (rule : Rule) (text : String) : Except PatternFault (List Diagnostic) := do
  let ranges ← rule.ranges text
  let message := composeMessage rule.message rule.suggestion
  return ranges.map fun range => ⟨range, rule.severity, message⟩

/-- The findings of several rules in a text whose comments are gone. -/
def findings (text : String) : List Rule → Except PatternFault (List Diagnostic)
  | [] => .ok []
  | rule :: rules => do
    let first ← rule.findings text
    let more ← findings text rules
    return first ++ more

/-- The findings of rules in a text. -/
def check (text : String) (rules : List Rule) : Except PatternFault (List Diagnostic) :=
  findings (Text.withoutComments text) rules

end Proofreader
