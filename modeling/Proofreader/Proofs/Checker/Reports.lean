import Proofreader.Proofs.Checker.Separation

/-!
# What a run of checks reports and leaves

`Checker.runDue` and `Checker.runAll` run many checks on one state, and some of them may fail.  Each
check is nevertheless settled by the text of its own document and by the rules, both as they are
when the run begins: no check of the same run writes what another one reads.  What was text or rule
when the check was asked for does not count.

* `Checker.Reported` — what one report says, and what is recorded and published for its document.
* `Checker.RunLaws` — a run as a whole: one report for each check that ran, and nothing else
  changes.
* `Checker.Ran.laws` — a run of documents, in whatever order, is of this kind.
* `Checker.runLaws_of_history` — so are the two kinds of runs, after whatever has happened.

What waits is work, a function of the state at the time when it runs.  It could be any function; the
invariant of checkers says that it is the check of its document (`Sound.work`), and with this a run
comes to `checkEach`, the checks of a list of documents one after the other (`Checker.Ran`).  This
is where the handles and windows end, and the rest is about checks.

The state that the third check of a run sees is not the state at the beginning, as two lists were
written since.  But they were written for other documents, so for its own document the state is
alike (`CheckState.Alike`), and a check cannot tell states apart that are alike for its document.
This is said once, by `checkEach_of_mem`, for a document in any place of a list without repetitions;
`Reported` follows from it by cases on the single check.

`Reported` has the report and the state in separate fields, since they can go wrong separately: a
check that failed could be reported and still clear the list of its document.
-/

set_option autoImplicit false

namespace Proofreader

/-! ## What runs

A run also tells what it has completed, by handles.  It is the same list of documents that the
reports name, and it is in these terms that it is said which checks ran. -/

namespace Scheduler

variable {σ α : Type} {s : Scheduler σ α}

/-- What a run of what is due completes. -/
theorem Sound.completed_runDue (hs : s.Sound) (now : Instant) (state : σ) :
    (s.runDue now state).completed.map (·.1) = s.due now := by
  obtain ⟨jobs, s', hids, -, hrun, -⟩ := runDue_spec hs now state
  rw [hrun, List.map_map, ← hids]
  rfl

/-- What a run of everything completes. -/
theorem Sound.completed_runAll (hs : s.Sound) (state : σ) :
    (s.runAll state).completed.map (·.1) = s.pending.sortedNames := by
  obtain ⟨jobs, s', hids, -, hrun, -⟩ := runAll_spec hs state
  rw [hrun, List.map_map, ← hids]
  rfl

end Scheduler

namespace Checker

/-! ## One report

Both directions of `ok_iff` and `error_iff` are needed: the report tells the outcome, and there is
no outcome but those two. -/

/-- The lists that are recorded and published for a document are the same. -/
def SameFindings (id : DocumentId) (c c' : Checker) : Prop :=
  c'.state.store.records.find? id = c.state.store.records.find? id ∧
    c'.workspace.published? id = c.workspace.published? id

/-- What is reported of a check in a run from `c` to `c'`, and what becomes of its document. -/
structure Reported (c c' : Checker) (r : Report) : Prop where
  /-- The check goes through exactly if the document is open and the rules can be applied to its
  text; then the findings are counted. -/
  ok_iff : ∀ n, r.outcome = .ok n ↔ ∃ text diagnostics,
    c.workspace.text? r.document = some text ∧ check text c.rules = .ok diagnostics ∧
      n = diagnostics.length
  /-- These findings are recorded and published. -/
  shown : ∀ text diagnostics, c.workspace.text? r.document = some text →
    check text c.rules = .ok diagnostics →
    c'.state.store.records.find? r.document = some diagnostics ∧
      c'.workspace.published? r.document = some diagnostics
  /-- Otherwise it is told that the document is not open, or which pattern is faulty. -/
  error_iff : ∀ fault, r.outcome = .error fault ↔
    c.workspace.text? r.document = none ∧ fault = .state (.notOpen r.document) ∨
      ∃ text e, c.workspace.text? r.document = some text ∧ check text c.rules = .error e ∧
        fault = .pattern e
  /-- Then everything stays. -/
  kept : ∀ fault, r.outcome = .error fault → SameFindings r.document c c'

variable {c c' : Checker} {id : DocumentId}

/-- A check that leaves its document as `CheckState.run` does on the state of `c` is reported as it
should be. -/
theorem reported_of_alike (h : CheckState.Alike id c'.state (CheckState.run id c.state).2) :
    Reported c c' ⟨id, (CheckState.run id c.state).1⟩ := by
  have hrecorded := h.recorded
  have hpublished : c'.workspace.published? id =
      (CheckState.run id c.state).2.workspace.published? id := h.published
  cases htext : c.workspace.text? id with
  | none =>
    have hrun : CheckState.run id c.state = (.error (.state (.notOpen id)), c.state) := by
      rw [workspace] at htext
      simp only [CheckState.run, htext]
    rw [hrun] at hrecorded hpublished ⊢
    refine ⟨?_, ?_, ?_, fun _ _ => ⟨hrecorded, hpublished⟩⟩
    · simp [htext]
    · simp [htext]
    · simp [htext, eq_comm]
  | some text =>
    cases hcheck : check text c.rules with
    | error e =>
      have hrun := CheckState.run_of_check_error htext hcheck
      rw [hrun] at hrecorded hpublished ⊢
      refine ⟨?_, fun text' diagnostics htext' hcheck' => ?_, ?_,
        fun _ _ => ⟨hrecorded, hpublished⟩⟩
      · simp [htext, hcheck]
      · rw [htext, Option.some_inj] at htext'
        subst htext'
        simp [hcheck] at hcheck'
      · simp [htext, hcheck, eq_comm]
    | ok diagnostics =>
      have hrun := CheckState.run_of_check htext hcheck
      rw [hrun] at hrecorded hpublished ⊢
      refine ⟨?_, fun text' diagnostics' htext' hcheck' => ?_, ?_, ?_⟩
      · simp [htext, hcheck, eq_comm]
      · rw [htext, Option.some_inj] at htext'
        subst htext'
        obtain rfl := Except.ok.inj (hcheck.symm.trans hcheck')
        rw [hrecorded, hpublished, CheckState.recorded, Store.set, Workspace.published?,
          Workspace.publish]
        exact ⟨Registry.find?_insert_self _ _ _, Registry.find?_insert_self _ _ _⟩
      · simp [htext, hcheck]
      · simp

/-! ## A run as a whole

The order of the documents is that of the run, and no law depends on it. -/

/-- What is said of a run from `c` to `c'` in which the checks of the documents `ran` have run. -/
structure RunLaws (c : Checker) (ran : List DocumentId) (reports : List Report) (c' : Checker) :
    Prop where
  /-- No check runs twice. -/
  once : ran.Nodup
  /-- There is one report for each check that ran. -/
  documents : reports.map (·.document) = ran
  /-- Each of them depends on the text of its own document and on the rules. -/
  reported : ∀ r ∈ reports, Reported c c' r
  /-- For all other documents, what is recorded and published stays. -/
  others : ∀ id, id ∉ ran → SameFindings id c c'
  /-- No text changes. -/
  text?_eq : ∀ id, c'.workspace.text? id = c.workspace.text? id

/-- The reports of a run are those of its documents, each checked by itself. -/
theorem Ran.reports_eq_map {ids : List DocumentId} {reports : List Report}
    (h : c.Ran ids reports c') :
    reports = ids.map fun id => ⟨id, (CheckState.run id c.state).1⟩ := by
  rw [h.reports_eq, checkEach_fst, List.zipWith_map_right, List.zipWith_self]

/-- They name these documents, in order. -/
theorem Ran.documents {ids : List DocumentId} {reports : List Report}
    (h : c.Ran ids reports c') : reports.map (·.document) = ids := by
  rw [h.reports_eq_map, List.map_map]
  exact List.map_id ids

/-- **A run of different documents keeps these laws**, in whatever order they come. -/
theorem Ran.laws {ids : List DocumentId} {reports : List Report} (h : c.Ran ids reports c')
    (hnodup : ids.Nodup) : c.RunLaws ids reports c' where
  once := hnodup
  documents := h.documents
  reported r hr := by
    rw [h.reports_eq_map] at hr
    obtain ⟨id, hid, rfl⟩ := List.mem_map.1 hr
    refine reported_of_alike ?_
    rw [h.state_eq]
    exact (checkEach_of_mem hnodup hid c.state).2
  others id hid := by
    have halike : CheckState.Alike id c'.state c.state := by
      rw [h.state_eq]
      exact (checkEach_of_not_mem hid c.state).2
    exact ⟨halike.recorded, halike.published⟩
  text?_eq id := by
    obtain ⟨hdocuments, -, -⟩ := checkEach_frame ids c.state
    rw [workspace, h.state_eq, Workspace.text?, hdocuments]
    rfl

/-- **Runs of checks**, in every state that a checker can come to.  What runs is what is due, or
everything that waits; each check that ran is reported once.  A report counts findings exactly if
the document is open and the rules can be applied to the text that it has now, and then these
findings are recorded and published.  If not, the report says why, and what was recorded and
published stays; so it does for documents whose checks did not run.  Texts stay. -/
theorem runLaws_of_history (workspace : Workspace) (delay : Duration) (events : List Event) :
    let c := (withDelay workspace delay).afterAll events
    (∀ now, let ran := (c.scheduler.runDue now c.state).completed.map (·.1)
      (∀ id, id ∈ ran ↔ ∃ w, c.scheduler.window? id = some w ∧ w.deadline ≤ now) ∧
        c.RunLaws ran (c.runDue now).1 (c.runDue now).2) ∧
      let ran := (c.scheduler.runAll c.state).completed.map (·.1)
      (∀ id, id ∈ ran ↔ c.isWaiting id = true) ∧ c.RunLaws ran c.runAll.1 c.runAll.2 := by
  intro c
  have hc : c.Sound := (sound_withDelay workspace delay).afterAll events
  refine ⟨fun now => ?_, ?_⟩
  · dsimp only
    rw [hc.scheduler.completed_runDue]
    exact ⟨fun id => Scheduler.mem_due, (hc.runDue now).laws (c.scheduler.due_nodup now)⟩
  · dsimp only
    rw [hc.scheduler.completed_runAll]
    refine ⟨fun id => ?_, hc.runAll.laws c.scheduler.pending.sortedNames_nodup⟩
    rw [Registry.mem_sortedNames, hc.scheduler.find?_isSome_iff, isWaiting, Scheduler.isWaiting_eq]

/-- The first check fails, since its document was never opened.  The second one finds what stands in
the text now, not what stood there when it was asked for. -/
example :
    let c := (withDelay .empty defaultDelay).afterAll
      [.start [.everyMatch "teh" .warning "a slip" "the"], .openDocument "b" "the", .request 0 "b",
        .request 0 "a", .setText "b" "teh teh"]
    c.runAll.1.map (fun r => (r.document, r.outcome.toOption)) = [("a", none), ("b", some 2)] ∧
      (c.runAll.2.workspace.published? "b").map List.length = some 2 := by
  cbv

end Checker
end Proofreader
