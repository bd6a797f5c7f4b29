import Proofreader.CommandLine.Run
import Proofreader.CommandLine.Usage

/-!
# The program

Takes a picture of the files that a run may ask for, does the run, and then writes and prints what
it left.  Everything that is decided is decided by the run.

The system is reached through operations that name files by text, and it hands over the arguments as
text.  So every path is text here, and is shown as the text that names the file.
-/

set_option autoImplicit false

namespace Proofreader
namespace CommandLine

/-- The fault behind an error of the system. -/
def accessFault : IO.Error → AccessFault
  | .noFileOrDirectory _ _ _ => .notFound
  | .inappropriateType _ 20 _ => .notDirectory
  | .inappropriateType _ 21 _ => .isDirectory
  | .permissionDenied _ code reason => .refused (reason ++ " (os error " ++ toString code ++ ")")
  | e => .refused (toString e)

/-- Read the file at a path. -/
def readText (path : Path) : IO (Except AccessFault String) := do
  let reading : IO ByteArray := do
    let handle ← IO.FS.Handle.mk path.display .read
    handle.readBinToEnd
  match ← reading.toBaseIO with
  | .error e => return .error (accessFault e)
  | .ok bytes =>
    match String.fromUTF8? bytes with
    | some text => return .ok text
    | none => return .error .notText

/-- Try whether the file at a path can be written, leaving it as it is. -/
def writeFault (path : Path) : IO (Option AccessFault) := do
  match ← (IO.FS.Handle.mk path.display .append).toBaseIO with
  | .ok _ => return none
  | .error e => return some (accessFault e)

/-- Whether a fault says that there is nothing at the path. -/
def meansAbsent : AccessFault → Bool
  | .notFound | .notDirectory => true
  | _ => false

/-- A picture of the files at some paths. -/
def snapshot (paths written : List Path) : IO Disk := do
  let texts ← paths.mapM fun path => return (path, ← readText path)
  let faults ← written.mapM fun path => return (path, ← writeFault path)
  let read := fun path => (texts.lookup path).getD (.error .notFound)
  let has := fun path =>
    match read path with
    | .ok _ => true
    | .error fault => !meansAbsent fault
  return ⟨has, read, fun path => (faults.lookup path).join⟩

/-- A picture of the files that a run with some arguments may ask for. -/
def snapshotFor (arguments : Arguments) : IO Disk := do
  let named := arguments.files ++ arguments.settings.toList
  let disk ← snapshot named []
  let grammar := (settingsOf disk arguments).toOption.bind (·.grammar)
  let writable := arguments.files.filter fun path => (disk.read path).toBool
  snapshot (named ++ grammar.toList) (if arguments.fix then writable else [])

end CommandLine
end Proofreader

open Proofreader CommandLine

/-- Run the program. -/
def main (arguments : List String) : IO UInt32 := do
  match Arguments.parse (arguments.map Text.encode) with
  | .error e =>
    if e.isRequest then IO.print e.text else IO.eprint e.text
    return UInt32.ofNat e.exit
  | .ok arguments =>
    let outcome := perform (← snapshotFor arguments) arguments
    outcome.writes.forM fun (path, text) => IO.FS.writeFile path.display text
    IO.print outcome.printed
    IO.eprint outcome.told
    return UInt32.ofNat outcome.exit
