import Proofreader.Files
import Proofreader.Grammar
import Proofreader.Settings

/-!
# Loading settings and grammars

Settings and grammars come from files.  What can go wrong is told with the path, and where another
fault is the cause, with that too.
-/

set_option autoImplicit false

namespace Proofreader

/-- Why settings or a grammar could not be loaded. -/
inductive LoadFault where
  /-- No grammar file is named. -/
  | grammarUnset
  /-- The grammar file does not exist. -/
  | grammarMissing (path : Path)
  /-- A file could not be read. -/
  | unreadable (path : Path) (fault : AccessFault)
  /-- A file was read, but does not say what it should. -/
  | malformed (path : Path) (fault : Json.Fault)
deriving Repr, DecidableEq

namespace LoadFault

/-- The text of the fault that caused the error, if there is one. -/
def cause : LoadFault → Option String
  | grammarUnset => none
  | grammarMissing _ => none
  | unreadable _ fault => some fault.message
  | malformed _ fault => some fault.message

/-- The text that tells the error. -/
def message : LoadFault → String
  | grammarUnset => "the grammar file path is not configured"
  | grammarMissing path => "grammar file not found: " ++ path.display
  | unreadable path fault => "failed to read " ++ path.display ++ ": " ++ fault.message
  | malformed path fault => "failed to parse " ++ path.display ++ ": " ++ fault.message

end LoadFault

/-- The text of a file that is to be loaded. -/
def loadText (disk : Disk) (path : Path) : Except LoadFault String :=
  match disk.read path with
  | .ok text => .ok text
  | .error fault => .error (.unreadable path fault)

/-- The settings in a file. -/
def Settings.load (disk : Disk) (path : Path) : Except LoadFault Settings := do
  let text ← loadText disk path
  match Settings.parse text with
  | .ok settings => .ok settings
  | .error fault => .error (.malformed path fault)

/-- The rules in a grammar file. -/
def Grammar.load (disk : Disk) (path : Path) : Except LoadFault (List Rule) := do
  if !disk.has path then .error (.grammarMissing path)
  let text ← loadText disk path
  match Grammar.parse text with
  | .ok rules => .ok rules
  | .error fault => .error (.malformed path fault)

/-- The rules in the grammar file that the settings name.  A blank name is none. -/
def Grammar.loadNamed (disk : Disk) (settings : Settings) : Except LoadFault (List Rule) :=
  match settings.grammar with
  | none => .error .grammarUnset
  | some path =>
    if path.display.toList.all Charset.isBlank then .error .grammarUnset
    else Grammar.load disk path

end Proofreader
