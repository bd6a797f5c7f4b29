import Proofreader.Json.Number
import Proofreader.Json.Text

/-!
# Values that do not matter

A record may have fields that nobody asked for.  Their values are stepped over, but they must be
well-formed JSON.
-/

set_option autoImplicit false

namespace Proofreader
namespace Json
namespace ReadM

mutual

/-- Step over a value.  `fuel` bounds how deep values may stand in each other and how many may stand
side by side; every opening bracket takes two steps and every comma one. -/
def skipValue (fuel : Nat) : ReadM Unit :=
  match fuel with
  | 0 => failAtNext .valueExpected
  | fuel + 1 => do
    match ← peekPastSpace with
    | none => failAtNext .valueUnfinished
    | some 'n' => do bump; expectWord ['u', 'l', 'l']
    | some 't' => do bump; expectWord ['r', 'u', 'e']
    | some 'f' => do bump; expectWord ['a', 'l', 's', 'e']
    | some '-' => do bump; skipNumber
    | some '"' => do bump; skipString
    | some '[' => do
      bump
      match ← peekPastSpace with
      | none => failAtNext .arrayUnfinished
      | some ']' => bump
      | some _ => skipElements fuel
    | some '\x7b' => do
      bump
      match ← peekPastSpace with
      | none => failAtNext .objectUnfinished
      | some '\x7d' => bump
      | some _ => skipFields fuel
    | some c => if isDigit c then skipNumber else failAtNext .valueExpected

/-- Step over the elements of an array from one of them on, and over its end. -/
def skipElements (fuel : Nat) : ReadM Unit :=
  match fuel with
  | 0 => failAtNext .valueExpected
  | fuel + 1 => do
    skipValue fuel
    match ← peekPastSpace with
    | none => failAtNext .arrayUnfinished
    | some ',' => do bump; skipElements fuel
    | some ']' => bump
    | some _ => failAtNext .arrayCommaExpected

/-- Step over the fields of an object from one of them on, and over its end. -/
def skipFields (fuel : Nat) : ReadM Unit :=
  match fuel with
  | 0 => failAtNext .valueExpected
  | fuel + 1 => do
    match ← peekPastSpace with
    | none => failAtNext .objectUnfinished
    | some '"' => bump
    | some _ => failAtNext .keyExpected
    skipString
    match ← peekPastSpace with
    | none => failAtNext .objectUnfinished
    | some ':' => bump
    | some _ => failAtNext .colonExpected
    skipValue fuel
    match ← peekPastSpace with
    | none => failAtNext .objectUnfinished
    | some ',' => do bump; skipFields fuel
    | some '\x7d' => bump
    | some _ => failAtNext .objectCommaExpected

end

/-- Step over a value. -/
def skipAny : ReadM Unit := do skipValue (2 * (← enough))

end ReadM
end Json
end Proofreader
