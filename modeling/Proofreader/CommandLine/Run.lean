import Proofreader.CommandLine.Arguments
import Proofreader.CommandLine.Fixing
import Proofreader.Session

/-!
# Running the command line

The program checks files against a grammar and prints what it finds, one finding a line.  With
`--fix` it applies the suggestions, writes the files back, and prints what is found afterwards.  A
file with comments is not fixed, since the places of its findings may be off.

Everything is read and checked before anything is written or printed.  The first check that fails,
in the order of names, ends the run.

A file is opened as a document under the name that its path is shown as, while it is read and
written under the path itself.  Files whose paths are shown alike are one document then, which has
the text of the last of them.
-/

set_option autoImplicit false

namespace Proofreader
namespace CommandLine

/-! ## Failures -/

/-- Why a run ended early: what happened, and the causes under it. -/
structure Failure where
  /-- What happened. -/
  message : String
  /-- Why, each the cause of the one before. -/
  causes : List String
deriving Repr, DecidableEq

namespace Failure

/-- The causes, each on its line, with their numbers if there are several. -/
def causeLines (causes : List String) : List String :=
  match causes with
  | [cause] => ["    " ++ cause ++ "\n"]
  | _ => causes.mapIdx fun i cause => "    " ++ toString i ++ ": " ++ cause ++ "\n"

/-- The text that tells the failure. -/
def render (f : Failure) : String :=
  let causes :=
    if f.causes.isEmpty then "" else "\nCaused by:\n" ++ String.join (causeLines f.causes)
  "Error: " ++ f.message ++ "\n" ++ causes

/-- A failure to load settings. -/
def ofLoad (e : LoadFault) : Failure := ⟨e.message, e.cause.toList⟩

/-- A failure to read a file. -/
def reading (path : Path) (fault : AccessFault) : Failure :=
  ⟨"failed to read " ++ path.display, [fault.message]⟩

/-- A failure to write a file. -/
def writing (path : Path) (fault : AccessFault) : Failure :=
  ⟨"failed to write " ++ path.display, [fault.message]⟩

/-- A failure to enable checking. -/
def starting (e : CommandFault) : Failure :=
  ⟨"failed to start the typo checker", e.message :: e.cause.toList⟩

/-- A failure of a check. -/
def checking (id : DocumentId) : CheckFault → Failure
  | .pattern e => ⟨"grammar error: " ++ e.message, []⟩
  | .state e => ⟨"failed to check " ++ id ++ ": " ++ e.message, []⟩

end Failure

/-! ## Steps -/

/-- The settings of a run: those of the settings file, with what the arguments say instead. -/
def settingsOf (disk : Disk) (arguments : Arguments) : Except LoadFault Settings := do
  let settings ← match arguments.settings with
    | some path => Settings.load disk path
    | none => .ok .initial
  return {
    grammar := arguments.grammar.or settings.grammar
    delayMillis := arguments.delayMillis.getD settings.delayMillis }

/-- The document as which a file is opened. -/
def documentOf (path : Path) : DocumentId := path.display

/-- Open files as documents. -/
def openFiles (disk : Disk) : List Path → Workspace → Except Failure Workspace
  | [], w => .ok w
  | path :: more, w =>
    match disk.read path with
    | .error fault => .error (.reading path fault)
    | .ok text => openFiles disk more (w.openDocument (documentOf path) text)

/-- The failure of the first report that tells one. -/
def firstFailure : List Report → Option Failure
  | [] => none
  | report :: more =>
    match report.outcome with
    | .ok _ => firstFailure more
    | .error e => some (.checking report.document e)

/-- Run every check that waits. -/
def runWaiting (c : Checker) : Option Failure × Checker :=
  let (reports, c) := c.runAll
  (firstFailure reports, c)

/-- Apply the suggestions for a document, and check it again if there were any.  The second part of
the result says whether there were. -/
def fixAndRecheck (c : Checker) (id : DocumentId) : Except Failure Bool × Checker :=
  let (applied, c) := fixAll c id
  if applied = 0 then (.ok false, c)
  else match c.request 0 id with
    | (.error e, c) => (.error ⟨e.message, []⟩, c)
    | (.ok (), c) =>
      match runWaiting c with
      | (some failure, c) => (.error failure, c)
      | (none, c) => (.ok true, c)

/-! ## Output -/

/-- The line that tells a finding. -/
def diagnosticLine (path : Path) (position : Position) (d : Diagnostic) : String :=
  let suggestion := match d.suggestion with
    | some s => " (suggestion: " ++ s ++ ")"
    | none => ""
  path.display ++ ":" ++ toString (position.line + 1) ++ ":" ++ toString (position.column + 1) ++
    ": " ++ d.severity.text ++ ": " ++ d.headline ++ suggestion ++ "\n"

/-- The lines that tell the findings of the document of a file. -/
def diagnosticLines (c : Checker) (path : Path) : String :=
  String.join ((c.diagnostics (documentOf path)).map fun d =>
    diagnosticLine path ((c.workspace.position? (documentOf path) d.range.start).getD ⟨0, 0⟩) d)

/-- What was printed and written so far. -/
structure Output where
  /-- How many findings there are. -/
  found : Nat
  /-- What was printed. -/
  printed : String
  /-- The paths that were written, with the texts. -/
  writes : List (Path × String)
deriving Repr, DecidableEq

/-- Nothing yet. -/
def Output.nothing : Output := ⟨0, "", []⟩

/-- The output with the findings of one more file. -/
def Output.report (o : Output) (c : Checker) (path : Path) : Output :=
  { o with
    found := o.found + (c.diagnostics (documentOf path)).length
    printed := o.printed ++ diagnosticLines c path }

/-- Fix the document of a file and write it back, if there is anything to fix. -/
def fixFile (disk : Disk) (path : Path) (c : Checker) (o : Output) :
    Option Failure × Checker × Output :=
  let text := (c.workspace.text? (documentOf path)).getD ""
  if Text.hasComment text then (none, c, o)
  else match fixAndRecheck c (documentOf path) with
    | (.error failure, c) => (some failure, c, o)
    | (.ok false, c) => (none, c, o)
    | (.ok true, c) =>
      match disk.writeFault path with
      | some fault => (some (.writing path fault), c, o)
      | none =>
        let text := (c.workspace.text? (documentOf path)).getD ""
        (none, c, { o with writes := o.writes ++ [(path, text)] })

/-- Fix and report files, one after the other, up to the first failure. -/
def finishFiles (disk : Disk) (fix : Bool) :
    List Path → Checker → Output → Option Failure × Output
  | [], _, o => (none, o)
  | path :: more, c, o =>
    let (failure, c, o) := if fix then fixFile disk path c o else (none, c, o)
    match failure with
    | some failure => (some failure, o)
    | none => finishFiles disk fix more c (o.report c path)

/-! ## A run -/

/-- A session in which the files are open, checking is enabled and every file is checked. -/
def startSession (disk : Disk) (arguments : Arguments) : Except Failure Checker := do
  let settings ← match settingsOf disk arguments with
    | .ok settings => .ok settings
    | .error e => .error (Failure.ofLoad e)
  let workspace ← openFiles disk arguments.files .empty
  match (Session.new workspace settings).enable disk 0 with
  | (.error e, _) => .error (Failure.starting e)
  | (.ok _, session) =>
    let shown := arguments.files.foldl (fun c path => c.focus 0 (documentOf path)) session.checker
    match runWaiting shown with
    | (some failure, _) => .error failure
    | (none, checker) => .ok checker

/-- What a run leaves. -/
structure Outcome where
  /-- The code that the program ends with: 0 if nothing was found, else 1. -/
  exit : Nat
  /-- What was printed. -/
  printed : String
  /-- The failure that was told, empty if there was none. -/
  told : String
  /-- The paths that were written, with the texts, in order. -/
  writes : List (Path × String)
deriving Repr, DecidableEq

/-- The outcome of a run that ended early. -/
def Outcome.failed (failure : Failure) (o : Output) : Outcome :=
  ⟨1, o.printed, failure.render, o.writes⟩

/-- Do what the arguments ask for. -/
def perform (disk : Disk) (arguments : Arguments) : Outcome :=
  match startSession disk arguments with
  | .error failure => .failed failure .nothing
  | .ok checker =>
    match finishFiles disk arguments.fix arguments.files checker .nothing with
    | (some failure, o) => .failed failure o
    | (none, o) => ⟨if o.found = 0 then 0 else 1, o.printed, "", o.writes⟩

/-- Run the program with arguments. -/
def run (disk : Disk) (arguments : List Bytes) : Except UsageFault Outcome := do
  return perform disk (← Arguments.parse arguments)

end CommandLine
end Proofreader
