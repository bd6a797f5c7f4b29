import Proofreader.Json.Decode
import Proofreader.Path
import Proofreader.Schedule.Time

/-!
# Settings

The settings are a JSON object with two fields, both optional: the path of the grammar file, and how
long to wait before a check.
-/

set_option autoImplicit false

namespace Proofreader

/-- The settings of the checker. -/
structure Settings where
  /-- The path of the grammar file, if there is one. -/
  grammar : Option Path
  /-- How many milliseconds pass before a check. -/
  delayMillis : Nat
deriving Repr, DecidableEq

namespace Settings

open Json ReadM

/-- The settings where nothing is said. -/
def initial : Settings := ⟨none, defaultDelayMillis⟩

/-- How long to wait before a check. -/
def delay (s : Settings) : Duration := .ofMillis s.delayMillis

/-- Read the path of the grammar file. -/
def readGrammar : ReadM (Option Path) :=
  expectOptional (Path.ofString <$> expectString "path string")

/-- Read a number of milliseconds. -/
def readDelay : ReadM Nat := expectNatural wordSize "u64"

/-- The fields that were read so far. -/
structure Draft where
  /-- The field `grammar`. -/
  grammar : Option (Option Path)
  /-- The field `delay_ms`. -/
  delayMillis : Option Nat
deriving Repr, DecidableEq

/-- Read a field into a draft, standing before its colon. -/
def readField (key : String) (d : Draft) : ReadM Draft :=
  match key with
  | "grammar" => return { d with grammar := some (← readOnce key d.grammar readGrammar) }
  | "delay_ms" => return { d with delayMillis := some (← readOnce key d.delayMillis readDelay) }
  | _ => do
    skipField
    return d

/-- Read settings that are written as an object, standing behind the brace. -/
def readObject : ReadM Settings := do
  let draft ← readFields readField (← enough) true ⟨none, none⟩
  return ⟨draft.grammar.getD initial.grammar, draft.delayMillis.getD initial.delayMillis⟩

/-- Read settings that are written as an array, standing behind the bracket. -/
def readArray : ReadM Settings := do
  let grammar ← elementOr 0 initial.grammar readGrammar
  let delayMillis ← elementOr 1 initial.delayMillis readDelay
  return ⟨grammar, delayMillis⟩

/-- The settings in the text of a settings file. -/
def parse (text : String) : Except Fault Settings :=
  decode (expectRecord "struct CheckerSettings" readObject readArray) text

end Settings
end Proofreader
