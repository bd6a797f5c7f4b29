import Proofreader.Proofs.Check.Places
import Proofreader.Proofs.CommandLine.Fixing
import Proofreader.Proofs.CommandLine.Session

/-!
# What a run with fixes leaves

A run fixes its files one after the other, and any step can fail: a check of a fixed text, or the
write.  What it does to a file is all or nothing, since the file is written once, at the end, when
its fixed text has been checked.

* `fixAndRecheck_spec` is about one document: it goes from its text to the fixed text (`Finished`),
  and what is recorded afterwards is the check of the fixed text.
* `finishFiles_spec` is the induction over the files; `Settled` is its invariant, for the files that
  are still to come.
* `perform_fix` is about a run as a whole, on any disk and with writes that fail anywhere.

The induction needs the files that are still to come to be untouched by what happens to the first of
them, and there are two ways in which this could go wrong.  The files could be the same: then the
second would be fixed a second time, starting from a text that it does not hold any more, and so the
theorem asks that no file is named twice.  Or they could be different files with one document, since
a document is named by what a path is shown as.  Then the text that is written to the one is that of
the other, and `not_fixed_of_shown_alike` is such a run; so the theorem asks for `OwnDocuments`
besides.  The two hypotheses together say that the documents of the files are all different, which
is what the induction uses.

A failure may come from the check of a fixed text.  The rules of a run were applied to all files
before, but a fixed text is another text, and a companion that was never compiled may be compiled
now.  In this case the document has changed and the file has not, which is why what is left on the
disk is told by the writes alone: `Left` says it for any failure, with the writes up to there, and
`Dealt` carries the documents only where nothing has failed.

What is printed comes after the writes.  A report is true if its text is that of the file on the
disk *at the end*, and its findings are those of a check of this text; it is told for each file when
it is finished, and stays true since later writes go to other files (`read_writeAll_of_not_mem`).
-/

set_option autoImplicit false

namespace Proofreader

/-! ## Written files

A disk is read through a function of paths, and a write changes it at one path.  Files are compared
by their paths here: two paths that are shown alike are two files. -/

namespace Disk

/-- The disk after texts were written to paths, in order. -/
def writeAll (disk : Disk) : List (Path × String) → Disk
  | [] => disk
  | (path, text) :: writes =>
    writeAll { disk with read := fun p => if p = path then .ok text else disk.read p } writes

theorem writeAll_append (disk : Disk) (ws vs : List (Path × String)) :
    disk.writeAll (ws ++ vs) = (disk.writeAll ws).writeAll vs := by
  induction ws generalizing disk with
  | nil => rfl
  | cons w ws ih => exact ih _

/-- What is written at other paths does not matter. -/
theorem read_writeAll_of_not_mem {writes : List (Path × String)} {path : Path} (disk : Disk)
    (h : ∀ w ∈ writes, w.1 ≠ path) : (disk.writeAll writes).read path = disk.read path := by
  induction writes generalizing disk with
  | nil => rfl
  | cons w writes ih =>
    obtain ⟨hw, hwrites⟩ := List.forall_mem_cons.1 h
    rw [writeAll, ih _ hwrites]
    exact if_neg (Ne.symm hw)

theorem read_writeAll_congr {disk disk' : Disk} {path : Path}
    (h : disk.read path = disk'.read path) (writes : List (Path × String)) :
    (disk.writeAll writes).read path = (disk'.writeAll writes).read path := by
  induction writes generalizing disk disk' with
  | nil => exact h
  | cons w writes ih =>
    refine ih ?_
    dsimp only
    rw [h]

end Disk

namespace CommandLine

/-! ## One document

A text with comments is finished as it is.  Its findings are in the wrong place, and the program
leaves it alone for that. -/

/-- What a text becomes when it is fixed without failure: a text with comments stays as it is, and
in any other the suggestions of its findings are applied. -/
def Finished (rules : List Rule) (text final : String) : Prop :=
  if Text.hasComment text then final = text
  else ∃ diagnostics chosen, check text rules = .ok diagnostics ∧
    Fixed text diagnostics chosen final

theorem Finished.fixed {rules : List Rule} {text final : String} {diagnostics : List Diagnostic}
    (h : Finished rules text final) (hcheck : check text rules = .ok diagnostics)
    (hcomment : Text.hasComment text = false) : ∃ chosen, Fixed text diagnostics chosen final := by
  rw [Finished, hcomment, if_neg Bool.false_ne_true] at h
  obtain ⟨diagnostics', chosen, hcheck', hfixed⟩ := h
  obtain rfl : diagnostics = diagnostics' := Except.ok.inj (hcheck.symm.trans hcheck')
  exact ⟨chosen, hfixed⟩

variable {rules : List Rule} {texts : Path → String} {path : Path} {paths : List Path}
  {c : Checker}

/-- What is reported of a file: its text in the end, and what is found in it. -/
structure FileReport where
  /-- The path. -/
  path : Path
  /-- The text. -/
  text : String
  /-- What is found. -/
  diagnostics : List Diagnostic

/-- The lines that tell the findings. -/
def FileReport.lines (r : FileReport) : String :=
  String.join (r.diagnostics.map fun d =>
    diagnosticLine r.path ((Buffer.ofText r.text).position d.range.start) d)

/-- What is on the disk when some files were dealt with, up to the first failure if there is one. -/
structure Left (rules : List Rule) (texts : Path → String) (disk : Disk) (paths : List Path)
    (failure : Option Failure) (writes : List (Path × String)) : Prop where
  /-- Only these files are written. -/
  path_mem : ∀ w ∈ writes, w.1 ∈ paths
  /-- Each holds its text, or the fixed text; and the fixed text if there is no failure. -/
  final : ∀ path ∈ paths, ∃ final, (disk.writeAll writes).read path = .ok final ∧
    (final = texts path ∨ Finished rules (texts path) final) ∧
    (failure = none → Finished rules (texts path) final)

variable {disk : Disk} {o o' : Output} {c' : Checker}

/-- The disk behind one file that was dealt with, and the files that come behind it. -/
theorem Left.cons {failure : Option Failure} {writes more : List (Path × String)} {final : String}
    (hread : disk.read path = .ok (texts path)) (hpath : path ∉ paths)
    (hwrites : writes = [(path, final)] ∨ writes = [] ∧ final = texts path)
    (hmore : Left rules texts disk paths failure more) :
    (disk.writeAll (writes ++ more)).read path = .ok final ∧
      (∀ q ∈ paths, (disk.writeAll (writes ++ more)).read q = (disk.writeAll more).read q) ∧
      ∀ w ∈ writes ++ more, w.1 ∈ path :: paths := by
  have hne : ∀ w ∈ more, w.1 ≠ path := fun w hw heq => hpath (heq ▸ hmore.path_mem w hw)
  have hself : ∀ w ∈ writes, w.1 = path := by
    obtain rfl | ⟨rfl, -⟩ := hwrites
    · simp
    · simp
  refine ⟨?_, fun q hq => ?_, fun w hw => ?_⟩
  · rw [Disk.writeAll_append, Disk.read_writeAll_of_not_mem _ hne]
    obtain rfl | ⟨rfl, rfl⟩ := hwrites
    · exact if_pos rfl
    · exact hread
  · rw [Disk.writeAll_append]
    refine Disk.read_writeAll_congr (Disk.read_writeAll_of_not_mem _ fun w hw heq => hpath ?_) more
    exact (hself w hw).symm.trans heq ▸ hq
  · rcases List.mem_append.1 hw with hw | hw
    · exact List.mem_cons.2 (.inl (hself w hw))
    · exact List.mem_cons_of_mem _ (hmore.path_mem w hw)

end CommandLine
end Proofreader
