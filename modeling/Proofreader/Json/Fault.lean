import Proofreader.Rule

/-!
# Faults in JSON texts

What can be wrong with a JSON text, and where.  Some faults are in the text itself, some in what it
says: a value of another kind than expected, a record without one of its fields.  The latter are
found when there is no good place to name any more, so a fault may lack its place for a while; it
gets the place up to which the enclosing value was read.
-/

set_option autoImplicit false

namespace Proofreader
namespace Json

/-- A place in a text: its line from 1, and how many bytes of the line were read. -/
structure Place where
  /-- The line, counted from 1. -/
  line : Nat
  /-- How many bytes of the line are before the place. -/
  column : Nat
deriving Repr, DecidableEq

/-- A value that is not of the kind expected. -/
inductive Unexpected where
  /-- `null` -/
  | null
  /-- A truth value. -/
  | bool (b : Bool)
  /-- An integer. -/
  | integer (n : Int)
  /-- A number with a fraction or exponent, by its text. -/
  | float (text : String)
  /-- A string, by its quoted text. -/
  | string (quoted : String)
  /-- An array. -/
  | array
  /-- An object. -/
  | object
deriving Repr, DecidableEq

/-- The words for a value that is not of the kind expected. -/
def Unexpected.text : Unexpected → String
  | null => "null"
  | bool b => "boolean `" ++ (if b then "true" else "false") ++ "`"
  | integer n => "integer `" ++ toString n ++ "`"
  | float text => "floating point `" ++ text ++ "`"
  | string quoted => "string " ++ quoted
  | array => "sequence"
  | object => "map"

/-- What is wrong with a JSON text. -/
inductive FaultKind where
  /-- The text ends within an array. -/
  | arrayUnfinished
  /-- The text ends within an object. -/
  | objectUnfinished
  /-- The text ends within a string. -/
  | stringUnfinished
  /-- The text ends where a value should come. -/
  | valueUnfinished
  /-- A colon is missing. -/
  | colonExpected
  /-- An array goes on with something else than a comma or its end. -/
  | arrayCommaExpected
  /-- An object goes on with something else than a comma or its end. -/
  | objectCommaExpected
  /-- A word is none of the three that JSON knows. -/
  | wordExpected
  /-- There is no value. -/
  | valueExpected
  /-- There is no such escape. -/
  | escapeInvalid
  /-- A number is not written as one. -/
  | numberInvalid
  /-- A number is too large. -/
  | numberTooLarge
  /-- A control character stands in a string. -/
  | controlCharacter
  /-- A key is not a string. -/
  | keyExpected
  /-- One half of a pair of escapes stands alone. -/
  | loneSurrogate
  /-- The second half of a pair of escapes is missing. -/
  | surrogateExpected
  /-- A comma stands before the end. -/
  | trailingComma
  /-- Something stands behind the end. -/
  | trailingCharacters
  /-- A record lacks a field. -/
  | missingField (name : String)
  /-- A record has a field twice. -/
  | duplicateField (name : String)
  /-- A record that is written as an array has too few elements. -/
  | tooShort (length : Nat) (expected : String)
  /-- A value is of the wrong kind. -/
  | wrongType (found : Unexpected) (expected : String)
  /-- A value is of the right kind, but out of range. -/
  | wrongValue (found : Unexpected) (expected : String)
  /-- A number stands for nothing. -/
  | unknownCode (fault : CodeFault)
deriving Repr, DecidableEq

/-- The words that tell what is wrong. -/
def FaultKind.text : FaultKind → String
  | arrayUnfinished => "EOF while parsing a list"
  | objectUnfinished => "EOF while parsing an object"
  | stringUnfinished => "EOF while parsing a string"
  | valueUnfinished => "EOF while parsing a value"
  | colonExpected => "expected `:`"
  | arrayCommaExpected => "expected `,` or `]`"
  | objectCommaExpected => "expected `,` or `\x7d`"
  | wordExpected => "expected ident"
  | valueExpected => "expected value"
  | escapeInvalid => "invalid escape"
  | numberInvalid => "invalid number"
  | numberTooLarge => "number out of range"
  | controlCharacter => "control character (\\u0000-\\u001F) found while parsing a string"
  | keyExpected => "key must be a string"
  | loneSurrogate => "lone leading surrogate in hex escape"
  | surrogateExpected => "unexpected end of hex escape"
  | trailingComma => "trailing comma"
  | trailingCharacters => "trailing characters"
  | missingField name => "missing field `" ++ name ++ "`"
  | duplicateField name => "duplicate field `" ++ name ++ "`"
  | tooShort length expected => "invalid length " ++ toString length ++ ", expected " ++ expected
  | wrongType found expected => "invalid type: " ++ found.text ++ ", expected " ++ expected
  | wrongValue found expected => "invalid value: " ++ found.text ++ ", expected " ++ expected
  | unknownCode fault => fault.message

/-- A fault in a JSON text. -/
structure Fault where
  /-- What is wrong. -/
  kind : FaultKind
  /-- Where, as soon as that is known. -/
  place : Option Place
deriving Repr, DecidableEq

/-- The text that tells a fault. -/
def Fault.message (fault : Fault) : String :=
  match fault.place with
  | none => fault.kind.text
  | some place =>
    fault.kind.text ++ " at line " ++ toString place.line ++ " column " ++ toString place.column

/-- The fault with a place, unless it has one already. -/
def Fault.locate (fault : Fault) (place : Place) : Fault :=
  { fault with place := some (fault.place.getD place) }

end Json
end Proofreader
