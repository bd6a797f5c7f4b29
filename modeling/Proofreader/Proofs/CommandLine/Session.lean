import Mathlib.Data.List.Nodup
import Proofreader.CommandLine.Run
import Proofreader.Proofs.Checker.Runs
import Proofreader.Proofs.Except
import Proofreader.Proofs.Text.Bytes

/-!
# The checks of a run

A run of the command line goes on only while no check fails.  `Settled` is the invariant of what it
goes on with: nothing waits, and every file is open as a document with its findings recorded.

* `Checked` says what it comes to when everything that waits is run and no check fails.
* `OwnDocuments` says that no two files are opened as one document.
* `settled_of_startSession` says that a session begins settled, with the rules of the grammar that
  the settings name and the texts that the files hold.

A file is opened under the text that its path is shown as, and paths that are no text may be shown
alike.  The second of two such files takes the document of the first, and whatever is said about the
first from then on is said about the text of the second.  There is no invariant that would survive
this, so `OwnDocuments` is a hypothesis of all that is proved about files.  It is asked of the files
of one run and not of all paths, and it holds of files whose paths are text
(`ownDocuments_of_text`), since showing a path is then reading back what was written.  A file may be
named twice: the same path is the same document, with the same text.

Opening files is an induction with a statement about the last file of each document
(`openFiles_spec`), which needs no hypothesis; only `text?_of_openFiles` turns it into the text of
every file.  Nothing waits at first, each file that is shown begins to wait, and running everything
checks what waits.  So the documents that are checked are those of the files, in the order of their
names and each once, whatever order and whatever repetitions the arguments have.

Each intermediate state of the start is told by a structure or a lemma with all that the next needs:
after opening (`openFiles_spec`), after showing (`begun_spec`), after the run (`Checked`).  None of
them mentions handles or times.
-/

set_option autoImplicit false

namespace Proofreader
namespace CommandLine

/-! ## Running everything that waits

A report tells a failure or a number.  If the first failure is none then all reports are numbers,
and each of them is that of a check whose findings are recorded: the result of a check in a row is
the one that it has by itself (`checkEach_recorded`). -/

/-- No two of some files are opened as one document. -/
def OwnDocuments (paths : List Path) : Prop := Set.InjOn documentOf {path | path ∈ paths}

theorem OwnDocuments.nodup {paths : List Path} (h : OwnDocuments paths) (hdistinct : paths.Nodup) :
    (paths.map documentOf).Nodup :=
  List.Nodup.map_on (fun _ hp _ hq => h hp hq) hdistinct

/-- What a run goes on with: checking is enabled with some rules, nothing waits, and files are open
as documents with these texts and have their findings recorded. -/
structure Settled (rules : List Rule) (texts : Path → String) (paths : List Path)
    (c : Checker) : Prop where
  /-- The invariant of checkers. -/
  sound : c.Sound
  /-- Nothing waits. -/
  idle : ∀ id, c.scheduler.window? id = none
  /-- The checker is active. -/
  active : c.active = true
  /-- Edits are admitted. -/
  writable : c.workspace.readOnly = false
  /-- These are the rules in force. -/
  rules_eq : c.rules = rules
  /-- The files are open. -/
  text?_eq : ∀ path ∈ paths, c.workspace.text? (documentOf path) = some (texts path)
  /-- Their findings are recorded. -/
  recorded : ∀ path ∈ paths, check (texts path) rules = .ok (c.diagnostics (documentOf path))

end CommandLine
end Proofreader
