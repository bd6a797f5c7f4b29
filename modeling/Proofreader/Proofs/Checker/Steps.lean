import Proofreader.Checker
import Proofreader.Proofs.Text.Replacement

/-!
# What one operation does

A check that goes through, and a fix, both end with the same step: a list is recorded for a document
and published (`CheckState.recorded`).  This file says when the two are done and what they do else.

* A check records what it finds, or changes nothing (`CheckState.run_cases`).
* An edit of a range puts a text in the place of the range and touches nothing else, or it is
  refused (`Workspace.edit_eq_ok_iff`).
* A fix is such an edit, after which the finding leaves the record (`Checker.fix_eq_ok_iff`); a fix
  that is refused changes nothing (`Checker.fix_eq_error`).

These are inversions: each says all that an operation can have done, once, and what is proved about
checkers later on takes an operation apart by `obtain` and never opens its definition.  A fix has
six ways to fail, spread over the checker and the workspace, and one to go through; in most proofs
the six are the same case, in which nothing has changed, so `Checker.fix_cases` has two
alternatives.  The modules that have to tell the failures apart look at the guards themselves.

`SameElsewhere` is the frame of a fix.  It is a structure with one field for each part of a checker
and not a statement that two states agree in a long conjunction, so a proof that needs one part
names it, and frames of fixes in a row compose (`SameElsewhere.trans`).

Whether the range of an edit lies in the text is asked by the buffer with a test on numbers.  In
proofs it is `TextRange.LiesIn` everywhere; `Buffer.covers_iff` is the only bridge between the two.
-/

set_option autoImplicit false

namespace Proofreader

/-! ## Recording a list -/

theorem Store.get_set (store : Store) (id other : DocumentId) (diagnostics : List Diagnostic) :
    (store.set id diagnostics).get other = if id = other then diagnostics else store.get other := by
  rw [Store.get, Store.set, Registry.find?_insert]
  split <;> rfl

namespace CheckState

/-- The state after a list of findings was recorded for a document and published. -/
def recorded (s : CheckState) (id : DocumentId) (diagnostics : List Diagnostic) : CheckState :=
  { s with
    workspace := s.workspace.publish id diagnostics
    store := s.store.set id diagnostics }

variable {id : DocumentId} {s : CheckState}

theorem run_of_check {text : String} {diagnostics : List Diagnostic}
    (ht : s.workspace.text? id = some text) (hcheck : check text s.rules = .ok diagnostics) :
    run id s = (.ok diagnostics.length, s.recorded id diagnostics) := by
  simp only [run, ht, hcheck, recorded]

/-- A check fails where the rules do, and leaves the state as it is. -/
theorem run_of_check_error {text : String} {e : PatternFault}
    (ht : s.workspace.text? id = some text) (hcheck : check text s.rules = .error e) :
    run id s = (.error (.pattern e), s) := by
  simp only [run, ht, hcheck]

/-- The result of a check depends on the documents and the rules alone. -/
theorem run_fst_congr {s' : CheckState}
    (hdocuments : s'.workspace.documents = s.workspace.documents) (hrules : s'.rules = s.rules) :
    (run id s').1 = (run id s).1 := by
  rw [run, run, Workspace.text?, hdocuments, hrules, Workspace.text?]
  split
  · rfl
  · split <;> rfl

/-- A check finds something to record, or leaves the state as it is. -/
theorem run_cases (id : DocumentId) (s : CheckState) :
    (∃ e, run id s = (.error e, s)) ∨
      ∃ text diagnostics, s.workspace.text? id = some text ∧
        check text s.rules = .ok diagnostics ∧
        run id s = (.ok diagnostics.length, s.recorded id diagnostics) := by
  cases ht : s.workspace.text? id with
  | none => exact .inl ⟨.state (.notOpen id), by simp only [run, ht]⟩
  | some text =>
    cases hcheck : check text s.rules with
    | error e => exact .inl ⟨.pattern e, by simp only [run, ht, hcheck]⟩
    | ok diagnostics => exact .inr ⟨text, diagnostics, rfl, hcheck, run_of_check ht hcheck⟩

/-- A check leaves the documents and the rules alone. -/
theorem run_frame (id : DocumentId) (s : CheckState) :
    (run id s).2.workspace.documents = s.workspace.documents ∧
      (run id s).2.workspace.readOnly = s.workspace.readOnly ∧ (run id s).2.rules = s.rules := by
  obtain ⟨e, hrun⟩ | ⟨text, diagnostics, -, -, hrun⟩ := run_cases id s
  · rw [hrun]
    exact ⟨rfl, rfl, rfl⟩
  · rw [hrun]
    exact ⟨rfl, rfl, rfl⟩

end CheckState

/-! ## Editing a range

The lemmas are about a document that is open with some *text*, where the workspace has buffers: a
text is what the rest of the development speaks of, and `find?_of_text?` turns it into the buffer
that the workspace finds. -/

theorem Buffer.covers_iff {b : Buffer} {r : TextRange} :
    b.covers r = true ↔ r.LiesIn b.chars.length := by
  rw [Buffer.covers, Bool.and_eq_true, decide_eq_true_eq, decide_eq_true_eq]
  exact ⟨fun h => ⟨h.1, h.2⟩, fun h => ⟨h.start_le_stop, h.stop_le⟩⟩

theorem Buffer.slice?_of_liesIn {b : Buffer} {r : TextRange} (h : r.LiesIn b.chars.length) :
    b.slice? r = some (String.ofList (Text.clampedSlice b.chars r)) :=
  if_pos (covers_iff.2 h)

namespace Workspace

variable {w w' : Workspace} {id : DocumentId} {r : TextRange} {s : String}

/-- An open document is the buffer of its text. -/
theorem find?_of_text? {text : String} (h : w.text? id = some text) :
    w.documents.find? id = some (.ofText text) := by
  obtain ⟨b, hb, rfl⟩ := Option.map_eq_some_iff.1 h
  rw [hb, Buffer.ofText, Buffer.text, String.toList_ofList]

/-- An edit is done exactly if nothing is read-only, the document is open and the range lies in it;
then only the text of the document changes. -/
theorem edit_eq_ok_iff :
    w.edit id r s = .ok w' ↔
      w.readOnly = false ∧ ∃ b, w.documents.find? id = some b ∧ r.LiesIn b.chars.length ∧
        w' = { w with documents := w.documents.insert id ⟨Text.splice b.chars r s.toList⟩ } := by
  rw [edit]
  split
  · rename_i hr
    simp [hr]
  · rename_i hr
    cases hb : w.documents.find? id with
    | none => simp
    | some b =>
      by_cases hcov : r.LiesIn b.chars.length
      · have hrep : b.replace? r s = some ⟨Text.splice b.chars r s.toList⟩ :=
          if_pos (Buffer.covers_iff.2 hcov)
        simp only [hrep, Except.ok.injEq, Option.some.injEq, exists_eq_left', hcov, true_and]
        exact ⟨fun h => ⟨by simpa using hr, h.symm⟩, fun h => h.2.symm⟩
      · have hrep : b.replace? r s = none := if_neg fun h => hcov (Buffer.covers_iff.1 h)
        simp [hrep, hcov]

/-- An edit of a range that lies in the text is done. -/
theorem exists_edit {text : String} (hwritable : w.readOnly = false)
    (htext : w.text? id = some text) (hr : r.LiesIn text.toList.length) (s : String) :
    ∃ w', w.edit id r s = .ok w' :=
  ⟨_, edit_eq_ok_iff.2 ⟨hwritable, _, find?_of_text? htext, hr, rfl⟩⟩

/-- An edit of a range that does not lie in the text is refused for that. -/
theorem edit_of_not_liesIn {text : String} (hwritable : w.readOnly = false)
    (htext : w.text? id = some text) (hr : ¬r.LiesIn text.toList.length) :
    w.edit id r s = .error (.outside r) := by
  have hrep : (Buffer.ofText text).replace? r s = none := if_neg fun h => hr (Buffer.covers_iff.1 h)
  rw [edit, hwritable, if_neg Bool.false_ne_true, find?_of_text? htext]
  dsimp only
  rw [hrep]

/-- The text of the document that was edited. -/
theorem text?_edit (h : w.edit id r s = .ok w') {text : String} (ht : w.text? id = some text) :
    w'.text? id = some (String.ofList (Text.splice text.toList r s.toList)) := by
  obtain ⟨-, b, hb, -, rfl⟩ := edit_eq_ok_iff.1 h
  obtain rfl := Option.some_inj.1 (hb.symm.trans (find?_of_text? ht))
  rw [text?, Registry.find?_insert, if_pos rfl, Option.map_some, Buffer.text, Buffer.ofText]

/-- No other document is edited. -/
theorem text?_edit_of_ne (h : w.edit id r s = .ok w') {other : DocumentId} (hne : id ≠ other) :
    w'.text? other = w.text? other := by
  obtain ⟨-, b, -, -, rfl⟩ := edit_eq_ok_iff.1 h
  rw [text?, Registry.find?_insert, if_neg hne, text?]

end Workspace

/-! ## Fixing a finding

The guards of a fix stand in a row, each behind the one before.  `fix_of_edit` goes through all
of them at once, and `fix_eq_ok_iff` has it as one direction; the other follows the guards one by
one. -/

theorem Store.removeOne_of_mem {store : Store} {id : DocumentId} {d : Diagnostic}
    (h : d ∈ store.get id) :
    store.removeOne id d = (true, store.set id ((store.get id).erase d)) := by
  rw [Store.removeOne]
  rw [Store.get] at h ⊢
  cases hf : store.records.find? id with
  | none => simp [hf] at h
  | some diagnostics =>
    rw [hf, Option.getD_some] at h
    simp [h]

namespace Checker

variable {c c' : Checker} {id : DocumentId} {d : Diagnostic}

/-- The checker after a finding was fixed: `w` is the workspace with the text of the finding
replaced; the finding is not recorded any more, and what remains is published. -/
def withFixed (c : Checker) (id : DocumentId) (d : Diagnostic) (w : Workspace) : Checker :=
  { c with
    state := { c.state with workspace := w }.recorded id ((c.diagnostics id).erase d) }

theorem fix_of_edit {s : String} {w : Workspace} (hactive : c.active = true)
    (hd : d ∈ c.diagnostics id) (hs : d.suggestion = some s)
    (he : c.workspace.edit id d.range s = .ok w) : c.fix id d = (.ok (), c.withFixed id d w) := by
  have hremove : c.state.store.removeOne id d =
      (true, c.state.store.set id ((c.state.store.get id).erase d)) := Store.removeOne_of_mem hd
  have hget : (c.state.store.set id ((c.state.store.get id).erase d)).get id =
      (c.state.store.get id).erase d := by rw [Store.get_set, if_pos rfl]
  have hcontains : (c.diagnostics id).contains d = true := by simpa using hd
  simp only [fix, hactive, hs, hcontains, he, hremove, hget, Bool.not_true, Bool.false_eq_true,
    if_false]
  rw [withFixed, hactive]
  rfl

/-- **When a fix is done**, and what it does. -/
theorem fix_eq_ok_iff :
    c.fix id d = (.ok (), c') ↔
      c.active = true ∧ d ∈ c.diagnostics id ∧ ∃ s w, d.suggestion = some s ∧
        c.workspace.edit id d.range s = .ok w ∧ c' = c.withFixed id d w := by
  constructor
  · intro h
    have hfix := h
    rw [fix] at h
    split at h
    · simp at h
    · rename_i hactive
      split at h
      · simp at h
      · rename_i s hs
        split at h
        · simp at h
        · rename_i hd
          split at h
          · simp at h
          · rename_i w he
            have hactive : c.active = true := by simpa using hactive
            have hd : d ∈ c.diagnostics id := by simpa using hd
            rw [fix_of_edit hactive hd hs he, Prod.mk.injEq] at hfix
            exact ⟨hactive, hd, s, w, hs, he, hfix.2.symm⟩
  · rintro ⟨hactive, hd, s, w, hs, he, rfl⟩
    exact fix_of_edit hactive hd hs he

/-- A finding that is recorded for a document, and lies in its text, can be fixed; then the text in
its range is replaced, and no other document changes. -/
theorem fix_of_liesIn {s text : String} (hactive : c.active = true)
    (hwritable : c.workspace.readOnly = false) (htext : c.workspace.text? id = some text)
    (hd : d ∈ c.diagnostics id) (hs : d.suggestion = some s)
    (hr : d.range.LiesIn text.toList.length) :
    ∃ c', c.fix id d = (.ok (), c') ∧
      c'.workspace.text? id = some (String.ofList (Text.splice text.toList d.range s.toList)) ∧
      ∀ other, id ≠ other → c'.workspace.text? other = c.workspace.text? other := by
  obtain ⟨w, hedit⟩ := Workspace.exists_edit hwritable htext hr s
  exact ⟨_, fix_of_edit hactive hd hs hedit, Workspace.text?_edit hedit htext,
    fun other hne => Workspace.text?_edit_of_ne hedit hne⟩

/-- The fix that is offered for a finding in the text of a document. -/
theorem fixFor?_of_liesIn {s text : String} (htext : c.workspace.text? id = some text)
    (hs : d.suggestion = some s) (hr : d.range.LiesIn text.toList.length) :
    c.fixFor? id d =
      some ⟨d.range, String.ofList (Text.clampedSlice text.toList d.range), s⟩ := by
  have hslice : (Buffer.ofText text).slice? d.range =
      some (String.ofList (Text.clampedSlice text.toList d.range)) := Buffer.slice?_of_liesIn hr
  simp only [fixFor?, hs, Workspace.textIn?, Workspace.find?_of_text? htext, Option.bind_some,
    hslice, Option.bind_eq_bind]
  rfl

/-- A fix touches neither the schedule nor the rules. -/
theorem fix_frame (c : Checker) (id : DocumentId) (d : Diagnostic) :
    (c.fix id d).2.scheduler = c.scheduler ∧ (c.fix id d).2.active = c.active ∧
      (c.fix id d).2.rules = c.rules ∧ (c.fix id d).2.focused = c.focused := by
  rw [Checker.fix]
  repeat' split
  all_goals exact ⟨rfl, rfl, rfl, rfl⟩

/-- A fix that is refused leaves everything as it was. -/
theorem fix_eq_error {e : FixFault} (h : c.fix id d = (.error e, c')) : c' = c := by
  rw [fix] at h
  repeat' split at h
  all_goals simp_all

/-- A fix is refused, or it is done. -/
theorem fix_cases (c : Checker) (id : DocumentId) (d : Diagnostic) :
    (∃ fault, c.fix id d = (.error fault, c)) ∨
      d ∈ c.diagnostics id ∧ ∃ s w, c.workspace.edit id d.range s = .ok w ∧
        c.fix id d = (.ok (), c.withFixed id d w) := by
  cases hfix : c.fix id d with
  | mk result c' =>
    cases result with
    | error fault => exact .inl ⟨fault, by rw [fix_eq_error hfix]⟩
    | ok =>
      obtain ⟨-, hd, s, w, -, hedit, rfl⟩ := fix_eq_ok_iff.1 hfix
      exact .inr ⟨hd, s, w, hedit, rfl⟩

/-- A finding whose range does not lie in the text cannot be fixed. -/
theorem fix_of_not_liesIn {s text : String} (hactive : c.active = true)
    (hwritable : c.workspace.readOnly = false) (htext : c.workspace.text? id = some text)
    (hd : d ∈ c.diagnostics id) (hs : d.suggestion = some s)
    (hr : ¬d.range.LiesIn text.toList.length) :
    c.fix id d = (.error (.refused id (.outside d.range)), c) := by
  have hedit := Workspace.edit_of_not_liesIn (s := s) hwritable htext hr
  have hcontains : (c.diagnostics id).contains d = true := by simpa using hd
  simp only [fix, hactive, hs, hcontains, hedit, Bool.not_true, Bool.false_eq_true, if_false]

/-! ## What a fix leaves alone -/

/-- The two checkers differ at most in the text of a document and in what is found there. -/
structure SameElsewhere (id : DocumentId) (c c' : Checker) : Prop where
  /-- The checker stays active, or inactive. -/
  active_eq : c'.active = c.active
  /-- The schedule is the same. -/
  scheduler_eq : c'.scheduler = c.scheduler
  /-- The rules are the same. -/
  rules_eq : c'.rules = c.rules
  /-- Edits are refused in both or in none. -/
  readOnly_eq : c'.workspace.readOnly = c.workspace.readOnly
  /-- The other documents have the same texts. -/
  text?_eq : ∀ other, id ≠ other → c'.workspace.text? other = c.workspace.text? other
  /-- The other documents have the same findings. -/
  diagnostics_eq : ∀ other, id ≠ other → c'.diagnostics other = c.diagnostics other

variable {c'' : Checker}

theorem SameElsewhere.refl (id : DocumentId) (c : Checker) : c.SameElsewhere id c :=
  ⟨rfl, rfl, rfl, rfl, fun _ _ => rfl, fun _ _ => rfl⟩

theorem SameElsewhere.trans (h : c.SameElsewhere id c') (h' : c'.SameElsewhere id c'') :
    c.SameElsewhere id c'' :=
  ⟨h'.active_eq.trans h.active_eq, h'.scheduler_eq.trans h.scheduler_eq,
    h'.rules_eq.trans h.rules_eq, h'.readOnly_eq.trans h.readOnly_eq,
    fun other hne => (h'.text?_eq other hne).trans (h.text?_eq other hne),
    fun other hne => (h'.diagnostics_eq other hne).trans (h.diagnostics_eq other hne)⟩

theorem diagnostics_withFixed (c : Checker) (id other : DocumentId) (d : Diagnostic)
    (w : Workspace) : (c.withFixed id d w).diagnostics other =
      if id = other then (c.diagnostics id).erase d else c.diagnostics other := by
  rw [diagnostics, withFixed, CheckState.recorded, Store.get_set]
  rfl

theorem sameElsewhere_withFixed {d : Diagnostic} {s : String} {w : Workspace}
    (h : c.workspace.edit id d.range s = .ok w) : c.SameElsewhere id (c.withFixed id d w) := by
  refine ⟨rfl, rfl, rfl, ?_, fun other hne => Workspace.text?_edit_of_ne h hne, fun other hne => ?_⟩
  · obtain ⟨-, b, -, -, rfl⟩ := Workspace.edit_eq_ok_iff.1 h
    rfl
  · rw [diagnostics_withFixed, if_neg hne]

end Checker
end Proofreader
