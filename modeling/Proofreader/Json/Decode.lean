import Proofreader.Json.Quoted
import Proofreader.Json.Skip

/-!
# Reading values of an expected kind

Each reader here expects a value of one kind and stands anywhere before it.  A value of another kind
is read as far as needed to name it: words, numbers and strings whole, arrays and objects not at
all.

Arrays and records are read element by element and field by field, by the caller; `hasElement` and
`nextKey` step over what is between.
-/

set_option autoImplicit false

namespace Proofreader
namespace Json
namespace ReadM

/-! ## Values of the wrong kind -/

/-- Read a value as one that was not expected. -/
def readUnexpected : ReadM Unexpected := do
  match ← peek with
  | some 'n' => do bump; expectWord ['u', 'l', 'l']; return .null
  | some 't' => do bump; expectWord ['r', 'u', 'e']; return .bool true
  | some 'f' => do bump; expectWord ['a', 'l', 's', 'e']; return .bool false
  | some '-' => do bump; return (← readNumber true).unexpected
  | some '"' => do bump; return .string (quoted (← readString))
  | some '[' => return .array
  | some '\x7b' => return .object
  | some c =>
    if isDigit c then return (← readNumber false).unexpected else failAtNext .valueExpected
  | none => failAtNext .valueExpected

/-- Refuse a value, since another kind is expected. -/
def refuse {α : Type} (expected : String) : ReadM α := do
  let found ← readUnexpected
  failHere (.wrongType found expected)

/-- The first character of the value that comes next. -/
def valueStart : ReadM Char := do
  match ← peekPastSpace with
  | none => failAtNext .valueUnfinished
  | some c => return c

/-! ## Simple values -/

/-- Read a string. -/
def expectString (expected : String) : ReadM String := do
  if (← valueStart) == '"' then
    bump
    return String.ofList (← readString)
  else refuse expected

/-- The natural number below a limit that a number is. -/
def checkNatural (limit : Nat) (expected : String) : Number → ReadM Nat
  | .natural n =>
    if n < limit then pure n else failHere (.wrongValue (Number.natural n).unexpected expected)
  | .negative n => failHere (.wrongValue (Number.negative n).unexpected expected)
  | number => failHere (.wrongType number.unexpected expected)

/-- Read a natural number below a limit. -/
def expectNatural (limit : Nat) (expected : String) : ReadM Nat := do
  let c ← valueStart
  if c == '-' then
    bump
    checkNatural limit expected (← readNumber true)
  else if isDigit c then checkNatural limit expected (← readNumber false)
  else refuse expected

/-- Read `null` or what a reader reads. -/
def expectOptional {α : Type} (read : ReadM α) : ReadM (Option α) := do
  if (← peekPastSpace) == some 'n' then
    bump
    expectWord ['u', 'l', 'l']
    return none
  else return some (← read)

/-! ## Arrays -/

/-- Whether an array has another element, and step over the comma before it.  `first` says that
none came yet. -/
def hasElement (first : Bool) : ReadM Bool := do
  match ← peekPastSpace with
  | none => failAtNext .arrayUnfinished
  | some ']' => return false
  | some c =>
    if first then return true
    else if c == ',' then
      bump
      match ← peekPastSpace with
      | some ']' => failAtNext .trailingComma
      | some _ => return true
      | none => failAtNext .valueUnfinished
    else failAtNext .arrayCommaExpected

/-- Step over the end of an array. -/
def closeArray : ReadM Unit := do
  match ← peekPastSpace with
  | none => failAtNext .arrayUnfinished
  | some ']' => bump
  | some ',' => do
    bump
    if (← peekPastSpace) == some ']' then failAtNext .trailingComma
    else failAtNext .trailingCharacters
  | some _ => failAtNext .trailingCharacters

/-- Read the elements of an array, standing behind its bracket or behind an element; the end is
left. -/
def readElements {α : Type} (read : ReadM α) (fuel : Nat) (first : Bool) : ReadM (List α) :=
  match fuel with
  | 0 => failAtNext .arrayUnfinished
  | fuel + 1 => do
    if ← hasElement first then
      let a ← read
      let more ← readElements read fuel false
      return a :: more
    else return []

/-- Read an array of values of one kind. -/
def expectArray {α : Type} (expected : String) (read : ReadM α) : ReadM (List α) := do
  if (← valueStart) == '[' then
    bump
    located (closing (do readElements read (← enough) true) closeArray)
  else refuse expected

/-! ## Records -/

/-- Step over the end of an object. -/
def closeObject : ReadM Unit := do
  match ← peekPastSpace with
  | none => failAtNext .objectUnfinished
  | some '\x7d' => bump
  | some ',' => failAtNext .trailingComma
  | some _ => failAtNext .trailingCharacters

/-- The key of the next field of an object, with its colon; or `none` at the end, which is left.
`first` says that no field came yet. -/
def nextKey (first : Bool) : ReadM (Option String) := do
  match ← peekPastSpace with
  | none => failAtNext .objectUnfinished
  | some '\x7d' => return none
  | some c =>
    if first && c != '"' then failAtNext .keyExpected
    if !first then
      if c != ',' then failAtNext .objectCommaExpected
      bump
      match ← peekPastSpace with
      | some '"' => pure ()
      | some '\x7d' => failAtNext .trailingComma
      | some _ => failAtNext .keyExpected
      | none => failAtNext .valueUnfinished
    bump
    return some (String.ofList (← readString))

/-- Step over the colon behind a key. -/
def expectColon : ReadM Unit := do
  match ← peekPastSpace with
  | some ':' => bump
  | some _ => failAtNext .colonExpected
  | none => failAtNext .objectUnfinished

/-- Read the fields of an object into a record under construction, standing behind the brace or
behind a field; the end is left.  `readField` stands before the colon of a field with the given
key. -/
def readFields {σ : Type} (readField : String → σ → ReadM σ) (fuel : Nat) (first : Bool)
    (record : σ) : ReadM σ :=
  match fuel with
  | 0 => failAtNext .objectUnfinished
  | fuel + 1 => do
    match ← nextKey first with
    | none => return record
    | some key =>
      let record ← readField key record
      readFields readField fuel false record

/-- Read a field into its place, standing before the colon; it must not have been there before. -/
def readOnce {α : Type} (name : String) (old : Option α) (read : ReadM α) : ReadM α := do
  if old.isSome then failLater (.duplicateField name)
  expectColon
  read

/-- Step over a field that is not known, standing before the colon. -/
def skipField : ReadM Unit := do
  expectColon
  skipAny

/-- The value of a field that must be there. -/
def required {α : Type} (name : String) : Option α → ReadM α
  | some a => pure a
  | none => failLater (.missingField name)

/-- Read a record that is written as an object or as an array.  The two readers stand behind the
bracket and leave the end. -/
def expectRecord {α : Type} (expected : String) (asObject asArray : ReadM α) : ReadM α := do
  let c ← valueStart
  if c == '[' then
    bump
    located (closing asArray closeArray)
  else if c == '\x7b' then
    bump
    located (closing asObject closeObject)
  else refuse expected

/-- The next element of a record that is written as an array; `index` is its number and `expected`
what is said if it is missing. -/
def element {α : Type} (index : Nat) (expected : String) (read : ReadM α) : ReadM α := do
  if ← hasElement (index == 0) then read
  else failLater (.tooShort index expected)

/-- The next element of a record that is written as an array, or else a default. -/
def elementOr {α : Type} (index : Nat) (default : α) (read : ReadM α) : ReadM α := do
  if ← hasElement (index == 0) then read
  else return default

/-- Nothing but blanks may follow. -/
def expectEnd : ReadM Unit := do
  match ← peekPastSpace with
  | none => pure ()
  | some _ => failAtNext .trailingCharacters

end ReadM

/-- Read a whole text. -/
def decode {α : Type} (read : ReadM α) (text : String) : Except Fault α :=
  match (do let a ← read; ReadM.expectEnd; return a : ReadM α).run (Cursor.ofText text.toList) with
  | .ok a _ => .ok a
  | .error fault _ => .error fault

end Json
end Proofreader
