import Proofreader.Search

/-!
# Rules

A rule says what to look for, how serious it is, and what to tell the reader.  Rules are written by
users, so their patterns may be faulty; that shows when a text is checked.

Modes and severities are written as small numbers.  `ofCode` reads a number, and refuses one that
stands for nothing.
-/

set_option autoImplicit false

namespace Proofreader

/-! ## Codes -/

/-- A number that stands for nothing. -/
inductive CodeFault where
  /-- No such mode. -/
  | mode (code : Nat)
  /-- No such severity. -/
  | severity (code : Nat)
deriving Repr, DecidableEq

/-- The text that tells the fault. -/
def CodeFault.message : CodeFault → String
  | mode code => "unknown check mode " ++ toString code ++ " (expected 0, 1 or 2)"
  | severity code => "unknown severity " ++ toString code ++ " (expected 0 to 3)"

/-- Which matches of a rule's pattern are reported. -/
inductive RuleMode where
  /-- All of them. -/
  | everyMatch
  /-- Those without the companion before them. -/
  | notPreceded
  /-- Those without the companion behind them. -/
  | notFollowed
deriving Repr, DecidableEq

namespace RuleMode

/-- The mode that a number stands for. -/
def ofCode : Nat → Except CodeFault RuleMode
  | 0 => .ok everyMatch
  | 1 => .ok notPreceded
  | 2 => .ok notFollowed
  | code => .error (.mode code)

/-- The number that stands for a mode. -/
def code : RuleMode → Nat
  | everyMatch => 0
  | notPreceded => 1
  | notFollowed => 2

theorem ofCode_code (m : RuleMode) : ofCode m.code = .ok m := by cases m <;> rfl

/-- Numbers and modes correspond: whatever is read is written as it was. -/
theorem code_of_ofCode {n : Nat} {m : RuleMode} (h : ofCode n = .ok m) : m.code = n := by
  unfold ofCode at h
  split at h <;> first | (cases h; rfl) | simp at h

end RuleMode

/-- How serious a finding is. -/
inductive Severity where
  /-- A hint. -/
  | hint
  /-- Information. -/
  | info
  /-- A warning. -/
  | warning
  /-- An error. -/
  | error
deriving Repr, DecidableEq

namespace Severity

/-- The severity that a number stands for. -/
def ofCode : Nat → Except CodeFault Severity
  | 0 => .ok hint
  | 1 => .ok info
  | 2 => .ok warning
  | 3 => .ok Severity.error
  | code => .error (.severity code)

/-- The number that stands for a severity. -/
def code : Severity → Nat
  | hint => 0
  | info => 1
  | warning => 2
  | error => 3

/-- The word for a severity. -/
def text : Severity → String
  | hint => "hint"
  | info => "info"
  | warning => "warning"
  | error => "error"

theorem ofCode_code (s : Severity) : ofCode s.code = .ok s := by cases s <;> rfl

/-- Numbers and severities correspond: whatever is read is written as it was. -/
theorem code_of_ofCode {n : Nat} {s : Severity} (h : ofCode n = .ok s) : s.code = n := by
  unfold ofCode at h
  split at h <;> first | (cases h; rfl) | simp at h

end Severity

/-! ## Rules -/

/-- What to look for and what to say about it. -/
structure Rule where
  /-- Which matches are reported. -/
  mode : RuleMode
  /-- How serious they are. -/
  severity : Severity
  /-- The pattern of what is looked for. -/
  pattern : String
  /-- The pattern of what should stand beside it.  It plays no part if every match is reported. -/
  companion : String
  /-- What is said about a match. -/
  message : String
  /-- What should stand there instead; it may be empty. -/
  suggestion : String
deriving Repr, DecidableEq

namespace Rule

/-- A rule that reports every match. -/
def everyMatch (pattern : String) (severity : Severity) (message suggestion : String) : Rule :=
  ⟨.everyMatch, severity, pattern, "", message, suggestion⟩

/-- The ranges that a rule reports in a text. -/
def ranges (rule : Rule) (text : String) : Except PatternFault (List TextRange) :=
  match rule.mode with
  | .everyMatch => matchRanges text rule.pattern
  | .notPreceded => loneMatches text rule.pattern rule.companion .left
  | .notFollowed => loneMatches text rule.pattern rule.companion .right

end Rule
end Proofreader
