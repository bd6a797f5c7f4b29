import Proofreader.Rule
import Proofreader.Text.Line

/-!
# Diagnostics

A `Diagnostic` is one finding: where, how serious, and what to say.  The replacement that a rule
suggests has no field of its own, because it is shown as the second line of the message and read
back from there.  Message and suggestion of a rule lose their line ends before they are put
together, so the line end between them is the only one.
-/

set_option autoImplicit false

namespace Proofreader

/-! ## Messages -/

/-- A text without the line ends of two characters.  Taking one out may bring two characters
together that look like another; that one stays. -/
def removeDoubleEnds : List Char → List Char
  | '\r' :: '\n' :: rest => removeDoubleEnds rest
  | c :: rest => c :: removeDoubleEnds rest
  | [] => []

/-- A text without line ends. -/
def removeLineEnds (text : List Char) : List Char :=
  (removeDoubleEnds text).filter (· != '\n')

/-- No line feed is left. -/
theorem not_mem_removeLineEnds (text : List Char) : '\n' ∉ removeLineEnds text := by
  simp [removeLineEnds]

/-- The message of a finding: what the rule says and, unless that is blank, what it suggests. -/
def composeMessage (message suggestion : String) : String :=
  let first := removeLineEnds message.toList
  let second := removeLineEnds suggestion.toList
  if second.all (· == ' ') then String.ofList first
  else String.ofList (first ++ '\n' :: second)

/-! ## Diagnostics -/

/-- One finding in a text. -/
structure Diagnostic where
  /-- Where it is. -/
  range : TextRange
  /-- How serious it is. -/
  severity : Severity
  /-- What is said about it; the suggestion, if there is one, is the second line. -/
  message : String
deriving Repr, DecidableEq

/-- The suggestion in a message: its second line, if it has one. -/
def suggestionOf (message : String) : Option String :=
  (Text.pieces message.toList)[1]?.map fun line => String.ofList (Text.dropReturn line)

namespace Diagnostic

/-- What should stand there instead, if the finding says so. -/
def suggestion (d : Diagnostic) : Option String := suggestionOf d.message

/-- The first line of the message. -/
def headline (d : Diagnostic) : String :=
  String.ofList ((Text.lines d.message.toList).headD [])

end Diagnostic

/-! ## Fixes -/

/-- The replacement that a diagnostic offers. -/
structure Fix where
  /-- What is replaced. -/
  range : TextRange
  /-- The text that is there. -/
  current : String
  /-- The text that should be there. -/
  replacement : String
deriving Repr, DecidableEq

/-- The name of a fix in a menu. -/
def Fix.title (fix : Fix) : String := "Replace with '" ++ fix.replacement ++ "'"

end Proofreader
