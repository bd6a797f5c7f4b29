import Proofreader.Json.Decode
import Proofreader.Rule

/-!
# Grammar files

A grammar is a JSON array of rules.  A rule is an object with the fields `mode`, `severity`,
`pattern`, `arg`, `message` and `suggestion`, or an array of these in this order.  `arg` and
`suggestion` may be missing and are empty then; fields that are not known are ignored.  One bad rule
makes the whole grammar bad.
-/

set_option autoImplicit false

namespace Proofreader
namespace Grammar

open Json ReadM

/-- A number for a mode or a severity that stands for nothing is a fault of the rule, whose place is
known when the rule is read. -/
def ofCode {α : Type} : Except CodeFault α → ReadM α
  | .ok a => pure a
  | .error fault => failLater (.unknownCode fault)

/-- Read a mode. -/
def readMode : ReadM RuleMode := do ofCode (RuleMode.ofCode (← expectNatural 256 "u8"))

/-- Read a severity. -/
def readSeverity : ReadM Severity := do ofCode (Severity.ofCode (← expectNatural 256 "u8"))

/-- Read one of the texts of a rule. -/
def readText : ReadM String := expectString "a string"

/-- The fields of a rule that were read so far. -/
structure Draft where
  /-- The field `mode`. -/
  mode : Option RuleMode
  /-- The field `severity`. -/
  severity : Option Severity
  /-- The field `pattern`. -/
  pattern : Option String
  /-- The field `arg`. -/
  companion : Option String
  /-- The field `message`. -/
  message : Option String
  /-- The field `suggestion`. -/
  suggestion : Option String
deriving Repr, DecidableEq

/-- A rule of which nothing was read. -/
def Draft.blank : Draft := ⟨none, none, none, none, none, none⟩

/-- Read a field of a rule into a draft, standing before its colon. -/
def readField (key : String) (d : Draft) : ReadM Draft :=
  match key with
  | "mode" => return { d with mode := some (← readOnce key d.mode readMode) }
  | "severity" => return { d with severity := some (← readOnce key d.severity readSeverity) }
  | "pattern" => return { d with pattern := some (← readOnce key d.pattern readText) }
  | "arg" => return { d with companion := some (← readOnce key d.companion readText) }
  | "message" => return { d with message := some (← readOnce key d.message readText) }
  | "suggestion" => return { d with suggestion := some (← readOnce key d.suggestion readText) }
  | _ => do
    skipField
    return d

/-- The rule that a draft has become. -/
def Draft.finish (d : Draft) : ReadM Rule := do
  let mode ← required "mode" d.mode
  let severity ← required "severity" d.severity
  let pattern ← required "pattern" d.pattern
  let message ← required "message" d.message
  return ⟨mode, severity, pattern, d.companion.getD "", message, d.suggestion.getD ""⟩

/-- Read a rule that is written as an object, standing behind its brace. -/
def readRuleObject : ReadM Rule := do
  let draft ← readFields readField (← enough) true Draft.blank
  draft.finish

/-- What is said about a rule that is written as too short an array. -/
def ruleLength : String := "struct GrammarRule with 6 elements"

/-- Read a rule that is written as an array, standing behind its bracket. -/
def readRuleArray : ReadM Rule := do
  let mode ← element 0 ruleLength readMode
  let severity ← element 1 ruleLength readSeverity
  let pattern ← element 2 ruleLength readText
  let companion ← elementOr 3 "" readText
  let message ← element 4 ruleLength readText
  let suggestion ← elementOr 5 "" readText
  return ⟨mode, severity, pattern, companion, message, suggestion⟩

/-- Read a rule. -/
def readRule : ReadM Rule := expectRecord "struct GrammarRule" readRuleObject readRuleArray

/-- The rules in the text of a grammar file. -/
def parse (text : String) : Except Fault (List Rule) :=
  decode (expectArray "a sequence" readRule) text

end Grammar
end Proofreader
