import Proofreader.Pattern.Span
import Proofreader.Text.Line

/-!
# Faults in patterns

What can be wrong with a pattern, and how it is shown: the pattern with the characters at fault
underlined, and one sentence that says what is wrong.

A pattern of one line is shown indented.  A pattern that holds a line feed is shown between two
rules, every line after its number, and each underline right after the line it belongs to; a fault
that spans several lines is told by its places instead.
-/

set_option autoImplicit false

namespace Proofreader
namespace Pattern

/-- How deep groups, repetitions, alternatives and classes may stand in each other. -/
def nestLimit : Nat := 250

/-- What is wrong with a pattern. -/
inductive FaultKind where
  /-- An anchor stands in a class. -/
  | anchorInClass
  /-- A range of a class runs backwards. -/
  | rangeInvalid
  /-- A range of a class ends in something that is not a character. -/
  | rangeNotLiteral
  /-- A class is not closed. -/
  | classUnclosed
  /-- A number is too large. -/
  | numberInvalid
  /-- The braces of a character code hold nothing. -/
  | codeEmpty
  /-- A character code is no character. -/
  | codeInvalid
  /-- A character code holds something that is no hexadecimal digit. -/
  | codeDigitInvalid
  /-- The pattern ends within an escape. -/
  | escapeUnfinished
  /-- There is no such escape. -/
  | escapeUnknown
  /-- A list of flags ends in `-`. -/
  | flagsEndInMinus
  /-- A flag is given twice. -/
  | flagRepeated
  /-- A list of flags has two `-`. -/
  | minusRepeated
  /-- The pattern ends within a list of flags. -/
  | flagsUnfinished
  /-- There is no such flag. -/
  | flagUnknown
  /-- Two groups have the same name. -/
  | groupNameRepeated
  /-- The name of a group is empty. -/
  | groupNameEmpty
  /-- A character cannot stand in the name of a group. -/
  | groupNameInvalid
  /-- The pattern ends within the name of a group. -/
  | groupNameUnfinished
  /-- A group is not closed. -/
  | groupUnclosed
  /-- A bracket closes no group. -/
  | groupUnopened
  /-- The pattern is nested too deeply. -/
  | tooDeep
  /-- The least count of a repetition is above its greatest. -/
  | countInvalid
  /-- A repetition lacks its number. -/
  | countEmpty
  /-- The braces of a repetition are not closed. -/
  | countUnclosed
  /-- There is nothing to repeat. -/
  | nothingToRepeat
  /-- The name of a word boundary is not closed or holds something else than a name. -/
  | boundaryUnclosed
  /-- There is no word boundary of this name. -/
  | boundaryUnknown
  /-- The pattern ends after `\b` and an opening brace. -/
  | boundaryUnfinished
  /-- A property class begins with a backslash. -/
  | propertyInvalid
  /-- References to groups are not a part of the language. -/
  | backreference
  /-- Conditions on what is ahead or behind are not a part of the language. -/
  | lookAround
  /-- Something needs Unicode mode. -/
  | unicodeNotAllowed
  /-- Something could match a part of a character. -/
  | partOfCharacter
  /-- There is no such property. -/
  | propertyUnknown
  /-- The property has no such value. -/
  | propertyValueUnknown
deriving Repr, DecidableEq

/-- The sentence that tells the fault. -/
def FaultKind.text : FaultKind → String
  | anchorInClass => "invalid escape sequence found in character class"
  | rangeInvalid => "invalid character class range, the start must be <= the end"
  | rangeNotLiteral => "invalid range boundary, must be a literal"
  | classUnclosed => "unclosed character class"
  | numberInvalid => "decimal literal invalid"
  | codeEmpty => "hexadecimal literal empty"
  | codeInvalid => "hexadecimal literal is not a Unicode scalar value"
  | codeDigitInvalid => "invalid hexadecimal digit"
  | escapeUnfinished => "incomplete escape sequence, reached end of pattern prematurely"
  | escapeUnknown => "unrecognized escape sequence"
  | flagsEndInMinus => "dangling flag negation operator"
  | flagRepeated => "duplicate flag"
  | minusRepeated => "flag negation operator repeated"
  | flagsUnfinished => "expected flag but got end of regex"
  | flagUnknown => "unrecognized flag"
  | groupNameRepeated => "duplicate capture group name"
  | groupNameEmpty => "empty capture group name"
  | groupNameInvalid => "invalid capture group character"
  | groupNameUnfinished => "unclosed capture group name"
  | groupUnclosed => "unclosed group"
  | groupUnopened => "unopened group"
  | tooDeep =>
    "exceed the maximum number of nested parentheses/brackets (" ++ toString nestLimit ++ ")"
  | countInvalid => "invalid repetition count range, the start must be <= the end"
  | countEmpty => "repetition quantifier expects a valid decimal"
  | countUnclosed => "unclosed counted repetition"
  | nothingToRepeat => "repetition operator missing expression"
  | boundaryUnclosed =>
    "special word boundary assertion is either unclosed or contains an invalid character"
  | boundaryUnknown =>
    "unrecognized special word boundary assertion, valid choices are: " ++
      "start, end, start-half or end-half"
  | boundaryUnfinished =>
    "found either the beginning of a special word boundary or a bounded repetition on a \\b " ++
      "with an opening brace, but no closing brace"
  | propertyInvalid => "invalid Unicode character class"
  | backreference => "backreferences are not supported"
  | lookAround => "look-around, including look-ahead and look-behind, is not supported"
  | unicodeNotAllowed => "Unicode not allowed here"
  | partOfCharacter => "pattern can match invalid UTF-8"
  | propertyUnknown => "Unicode property not found"
  | propertyValueUnknown => "Unicode property value not found"

/-- A fault in a pattern. -/
structure Fault where
  /-- What is wrong. -/
  kind : FaultKind
  /-- Where. -/
  span : Span
  /-- The place of the earlier one, when something occurs twice. -/
  earlier : Option Span
deriving Repr, DecidableEq

/-- A fault at one place. -/
def Fault.at (kind : FaultKind) (span : Span) : Fault := ⟨kind, span, none⟩

/-- The places of a fault in the order of the pattern. -/
def Fault.spans (fault : Fault) : List Span :=
  match fault.earlier with
  | none => [fault.span]
  | some span => if span.before fault.span then [span, fault.span] else [fault.span, span]

/-! ## Showing a fault -/

/-- A text of `n` blanks. -/
def blanks (n : Nat) : List Char := List.replicate n ' '

/-- The underline below one line: one caret for every character of a span, and one at least.
`column` is how far the line is written already. -/
def carets : List Span → (column : Nat) → List Char
  | [], _ => []
  | span :: spans, column =>
    let gap := span.start.column - 1 - column
    let width := max 1 (span.stop.column - span.start.column)
    blanks gap ++ List.replicate width '^' ++ carets spans (column + gap + width)

/-- The lines of the pattern, each followed by its underline if it has one.  `label` gives what
stands before a line, `indent` how far the underline is moved for it. -/
def notate (spans : List Span) (label : Nat → List Char) (indent : Nat) :
    List (List Char) → (line : Nat) → List Char
  | [], _ => []
  | text :: more, line =>
    let here := spans.filter fun span => span.isOneLine && span.start.line == line
    let under := if here.isEmpty then [] else blanks indent ++ carets here 0 ++ ['\n']
    label line ++ text ++ ['\n'] ++ under ++ notate spans label indent more (line + 1)

/-- A number written in a field of the given width. -/
def padded (width n : Nat) : List Char :=
  let digits := (toString n).toList
  blanks (width - digits.length) ++ digits

/-- The place of a span that does not fit on one line. -/
def Span.describe (span : Span) : String :=
  "on line " ++ toString span.start.line ++ " (column " ++ toString span.start.column ++
    ") through line " ++ toString span.stop.line ++ " (column " ++
    toString (span.stop.column - 1) ++ ")\n"

/-- How many lines a pattern has for the reader: one more when it ends in a line feed, since a
fault may be right after it. -/
def lineCount (pattern : List Char) : Nat :=
  (Text.lines pattern).length + (if pattern.getLast? == some '\n' then 1 else 0)

/-- The fault as it is shown, without a line end after it. -/
def Fault.render (fault : Fault) (pattern : String) : String :=
  let text := pattern.toList
  let count := lineCount text
  let width := if count ≤ 1 then 0 else (toString count).length
  let label := fun line => if width == 0 then blanks 4 else padded width line ++ [':', ' ']
  let indent := if width == 0 then 4 else width + 2
  let body := String.ofList (notate fault.spans label indent (Text.lines text) 1)
  let told := "error: " ++ fault.kind.text
  if text.contains '\n' then
    let divider := String.ofList (List.replicate 79 '~') ++ "\n"
    let places := (fault.spans.filter (!·.isOneLine)).map Span.describe
    "regex parse error:\n" ++ divider ++ body ++ divider ++ String.join places ++ told
  else
    "regex parse error:\n" ++ body ++ told

end Pattern
end Proofreader
