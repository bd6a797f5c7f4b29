import Proofreader.Path

/-!
# Arguments of the command line

The program takes files and some options.  An option with a value may have it attached
(`--grammar=g`, `-gg`, `-g=g`) or as the next argument; `--` ends the options.

Arguments are bytes, which need not be text.  A path is taken as it is; a number has to be text, and
so has the name of an option, since all names are.

Arguments are read from left to right, and the first thing wrong is told.  A value that stands by
itself is only looked at when the next argument that can be understood comes, or at the end: until
then it is `Pending`.  So of a bad value and an unknown option behind it, the unknown option is
told.
-/

set_option autoImplicit false

namespace Proofreader
namespace CommandLine

/-- Why the program ends before it does its work. -/
inductive UsageFault where
  /-- No file is given. -/
  | missingFile
  /-- A value is missing or empty. -/
  | invalidValue
  /-- A value is not text. -/
  | notText
  /-- A value is not a number of the right size. -/
  | invalidNumber
  /-- There is no such option. -/
  | unknownArgument
  /-- An option is given twice. -/
  | repeatedOption
  /-- A value is attached to an option that takes none. -/
  | unneededValue
  /-- Help is asked for. -/
  | helpWanted
  /-- The version is asked for. -/
  | versionWanted
deriving Repr, DecidableEq

/-- The options that take a value. -/
inductive ValueOption where
  /-- `--settings` -/
  | settings
  /-- `--grammar` and `-g` -/
  | grammar
  /-- `--delay-ms` -/
  | delay
deriving Repr, DecidableEq

/-- What the arguments ask for. -/
structure Arguments where
  /-- The files to check. -/
  files : List Path
  /-- The settings file. -/
  settings : Option Path
  /-- The grammar file, instead of that of the settings. -/
  grammar : Option Path
  /-- The delay in milliseconds, instead of that of the settings. -/
  delayMillis : Option Nat
  /-- Whether suggestions are applied. -/
  fix : Bool
deriving Repr, DecidableEq

/-- Values that stand by themselves and were not looked at yet. -/
inductive Pending where
  /-- None. -/
  | nothing
  /-- The value of an option, if it came already. -/
  | option (name : ValueOption) (value : Option Bytes)
  /-- Files, the last first. -/
  | files (reversed : List Path)
deriving Repr, DecidableEq

/-- What was read so far. -/
structure Progress where
  /-- What was understood. -/
  arguments : Arguments
  /-- What was not looked at yet. -/
  pending : Pending
  /-- Whether the options are over. -/
  onlyFiles : Bool
deriving Repr, DecidableEq

/-- Nothing was read. -/
def Progress.start : Progress := ⟨⟨[], none, none, none, false⟩, .nothing, false⟩

/-- The number below `2^64` that a text writes, with or without a plus. -/
def readNumber (text : String) : Option Nat :=
  let digits := match text.toList with
    | '+' :: digits => digits
    | digits => digits
  if !digits.isEmpty && digits.all Char.isDigit then
    let n := digits.foldl (fun n c => 10 * n + (c.toNat - 0x30)) 0
    if n < Nat.pow 2 64 then some n else none
  else none

namespace Arguments

/-- Whether an option was given. -/
def isGiven (a : Arguments) : ValueOption → Bool
  | .settings => a.settings.isSome
  | .grammar => a.grammar.isSome
  | .delay => a.delayMillis.isSome

/-- The arguments with a value for an option that was not given before. -/
def setOption (a : Arguments) (name : ValueOption) (value : Bytes) : Except UsageFault Arguments :=
  if a.isGiven name then .error .repeatedOption
  else match name with
    | .settings =>
      if value.isEmpty then .error .invalidValue else .ok { a with settings := some ⟨value⟩ }
    | .grammar =>
      if value.isEmpty then .error .invalidValue else .ok { a with grammar := some ⟨value⟩ }
    | .delay =>
      match Text.ofBytes? value with
      | none => .error .notText
      | some text =>
        match readNumber text with
        | some n => .ok { a with delayMillis := some n }
        | none => .error .invalidNumber

/-- The arguments with more files. -/
def addFiles (a : Arguments) (files : List Path) : Except UsageFault Arguments :=
  if files.any (·.bytes.isEmpty) then .error .invalidValue
  else .ok { a with files := a.files ++ files }

end Arguments

namespace Progress

/-- Look at what is pending. -/
def resolve (p : Progress) : Except UsageFault Progress :=
  match p.pending with
  | .nothing => .ok p
  | .option _ none => .error .invalidValue
  | .option name (some value) =>
    (p.arguments.setOption name value).map fun a => { p with arguments := a, pending := .nothing }
  | .files reversed =>
    (p.arguments.addFiles reversed.reverse).map fun a =>
      { p with arguments := a, pending := .nothing }

/-- Read an option that takes a value, which may be attached. -/
def takeOption (p : Progress) (name : ValueOption) (attached : Option Bytes) :
    Except UsageFault Progress := do
  let p ← p.resolve
  match attached with
  | none => return { p with pending := .option name none }
  | some value => return { p with arguments := ← p.arguments.setOption name value }

/-- Read an option that takes no value. -/
def takeFlag (p : Progress) (attached : Option Bytes)
    (flag : Progress → Except UsageFault Progress) : Except UsageFault Progress := do
  if attached.isSome then .error .unneededValue
  flag (← p.resolve)

/-- Apply suggestions. -/
def setFix (p : Progress) : Except UsageFault Progress :=
  if p.arguments.fix then .error .repeatedOption
  else .ok { p with arguments := { p.arguments with fix := true } }

/-- Read an option with a long name. -/
def takeLong (p : Progress) (name : Bytes) (attached : Option Bytes) : Except UsageFault Progress :=
  match Text.ofBytes? name with
  | some "settings" => p.takeOption .settings attached
  | some "grammar" => p.takeOption .grammar attached
  | some "delay-ms" => p.takeOption .delay attached
  | some "fix" => p.takeFlag attached setFix
  | some "help" => p.takeFlag attached fun _ => .error .helpWanted
  | some "version" => p.takeFlag attached fun _ => .error .versionWanted
  | _ => .error .unknownArgument

/-- The byte `-`, with which options begin. -/
def hyphen : UInt8 := 0x2D

/-- The byte `=`, which stands between an option and its value. -/
def equals : UInt8 := 0x3D

/-- Read an option with a short name, standing behind its hyphen. -/
def takeShort (p : Progress) (letter : UInt8) (rest : Bytes) : Except UsageFault Progress :=
  if letter == 0x67 then -- g
    let attached := match rest with
      | [] => none
      | b :: value => if b == equals then some value else some rest
    p.takeOption .grammar attached
  else if letter == 0x68 then p.takeFlag none fun _ => .error .helpWanted -- h
  else if letter == 0x56 then p.takeFlag none fun _ => .error .versionWanted -- V
  else .error .unknownArgument

/-- Read a file. -/
def takeFile (p : Progress) (file : Path) : Except UsageFault Progress :=
  match p.pending with
  | .files reversed => .ok { p with pending := .files (file :: reversed) }
  | _ => do
    let p ← p.resolve
    return { p with pending := .files [file] }

/-- Read a value, which belongs to the option before it if that waits for one. -/
def takeValue (p : Progress) (value : Bytes) : Except UsageFault Progress :=
  match p.pending with
  | .option name none => .ok { p with pending := .option name (some value) }
  | _ => p.takeFile ⟨value⟩

/-- The name of a long option and the value that is attached to it. -/
def splitLong (bytes : Bytes) : Bytes × Option Bytes :=
  let name := bytes.takeWhile (· != equals)
  match bytes.drop name.length with
  | [] => (name, none)
  | _ :: value => (name, some value)

/-- Read one argument. -/
def take (p : Progress) (argument : Bytes) : Except UsageFault Progress :=
  if p.onlyFiles then p.takeFile ⟨argument⟩
  else match argument with
    | [] | [_] => p.takeValue argument
    | b :: letter :: rest =>
      if b != hyphen then p.takeValue argument
      else if letter != hyphen then p.takeShort letter rest
      else if rest.isEmpty then .ok { p with onlyFiles := true }
      else
        let (name, attached) := splitLong rest
        p.takeLong name attached

/-- Read several arguments. -/
def takeAll (p : Progress) : List Bytes → Except UsageFault Progress
  | [] => .ok p
  | argument :: more => do
    let p ← p.take argument
    p.takeAll more

end Progress

/-- What the arguments ask for. -/
def Arguments.parse (arguments : List Bytes) : Except UsageFault Arguments := do
  let p ← Progress.start.takeAll arguments
  let p ← p.resolve
  if p.arguments.files.isEmpty then .error .missingFile
  return p.arguments

end CommandLine
end Proofreader
