import Proofreader.Json.Cursor
import Proofreader.Pattern.Place

/-!
# JSON strings

Reading a string behind its opening mark.  A character outside the first plane may be written as two
escapes, one for each half of a surrogate pair; a half that stands alone is no character.  A string
that is only skipped may hold such halves, but must be well formed otherwise.
-/

set_option autoImplicit false

namespace Proofreader
namespace Json

/-- The value of a hexadecimal digit. -/
def hexDigit? (c : Char) : Option Nat :=
  if '0' ≤ c && c ≤ '9' then some (c.toNat - 0x30)
  else if 'a' ≤ c && c ≤ 'f' then some (c.toNat - 0x57)
  else if 'A' ≤ c && c ≤ 'F' then some (c.toNat - 0x37)
  else none

/-- The number that hexadecimal digits write behind `n`. -/
def hexNumber? : Nat → List Char → Option Nat
  | n, [] => some n
  | n, c :: more => do hexNumber? (16 * n + (← hexDigit? c)) more

/-- The character that a letter stands for behind a backslash, `u` apart. -/
def simpleEscape? : Char → Option Char
  | '"' => some '"'
  | '\\' => some '\\'
  | '/' => some '/'
  | 'b' => some '\x08'
  | 'f' => some '\x0C'
  | 'n' => some '\n'
  | 'r' => some '\r'
  | 't' => some '\t'
  | _ => none

/-- Whether a code is the first half of a pair. -/
def isHighHalf (n : Nat) : Bool := 0xD800 ≤ n && n < 0xDC00

/-- Whether a code is the second half of a pair. -/
def isLowHalf (n : Nat) : Bool := 0xDC00 ≤ n && n < 0xE000

/-- The character of a pair of halves. -/
def pairChar (high low : Nat) : Char :=
  Char.ofNat (0x10000 + (high - 0xD800) * 0x400 + (low - 0xDC00))

namespace ReadM

/-- Read the four digits of an escape `\u`.  They are four bytes, whatever those are. -/
def readCode : ReadM Nat := do
  let rest := (← get).rest
  let four := rest.take 4
  if Pattern.byteLength four < 4 then failAfter (Pattern.byteLength rest) .stringUnfinished
  else match four.length, hexNumber? 0 four with
    | 4, some n =>
      bump
      bump
      bump
      bump
      return n
    | _, _ => failAfter 4 .escapeInvalid

/-- Step over a character that must come now. -/
def expectHalf (c : Char) : ReadM Unit := do
  match ← peek with
  | none => failHere .stringUnfinished
  | some d => if d == c then bump else failAtNext .surrogateExpected

/-- Read an escape, standing behind its backslash. -/
def readEscape : ReadM Char := do
  match ← peek with
  | none => failHere .stringUnfinished
  | some 'u' => do
    bump
    let n ← readCode
    if isLowHalf n then failHere .loneSurrogate
    else if isHighHalf n then
      expectHalf '\\'
      expectHalf 'u'
      let low ← readCode
      if isLowHalf low then return pairChar n low
      else failHere .loneSurrogate
    else return Char.ofNat n
  | some c =>
    match simpleEscape? c with
    | some d => do
      bump
      return d
    | none => failAtNext .escapeInvalid

/-- Read the rest of a string, with its closing mark; `read` is what was read of it, the last
character first. -/
def readStringRest (fuel : Nat) (read : List Char) : ReadM (List Char) :=
  match fuel with
  | 0 => failHere .stringUnfinished
  | fuel + 1 => do
    match ← peek with
    | none => failHere .stringUnfinished
    | some '"' => do
      bump
      return read.reverse
    | some '\\' => do
      bump
      let c ← readEscape
      readStringRest fuel (c :: read)
    | some c =>
      if c.toNat < 0x20 then failAtNext .controlCharacter
      else
        bump
        readStringRest fuel (c :: read)

/-- Read a string, standing behind its opening mark. -/
def readString : ReadM (List Char) := do readStringRest (← enough) []

/-- Step over an escape, standing behind its backslash. -/
def skipEscape : ReadM Unit := do
  match ← peek with
  | none => failHere .stringUnfinished
  | some 'u' => do
    bump
    let _ ← readCode
  | some c => if (simpleEscape? c).isSome then bump else failAtNext .escapeInvalid

/-- Step over the rest of a string, with its closing mark. -/
def skipStringRest (fuel : Nat) : ReadM Unit :=
  match fuel with
  | 0 => failHere .stringUnfinished
  | fuel + 1 => do
    match ← peek with
    | none => failHere .stringUnfinished
    | some '"' => bump
    | some '\\' => do
      bump
      skipEscape
      skipStringRest fuel
    | some c =>
      if c.toNat < 0x20 then failHere .controlCharacter
      else
        bump
        skipStringRest fuel

/-- Step over a string, standing behind its opening mark. -/
def skipString : ReadM Unit := do skipStringRest (← enough)

end ReadM
end Json
end Proofreader
