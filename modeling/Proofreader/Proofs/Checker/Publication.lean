import Proofreader.Proofs.Checker.Runs

/-!
# What is recorded is what is published

Findings are kept twice: in the record of the checker, and with the workspace that shows them.  The
two are written by different statements of four operations: a check that goes through, a fix,
closing a document, and stopping.  `CheckState.InStep` says that they agree on every document, and
every event keeps it; so they agree in every state that a run can reach.

Nothing is assumed about which documents are open: findings of a document that was closed in the
workspace only are still recorded, and still published.

The invariant is an equation between options.  It says more than that the lists are equal where both
are there: a list that is empty and recorded is published too, which is how a document that was
checked without a finding is told from one that was never checked.

Three of the four operations write both sides in the same way, so the equation goes over.  Stopping
is the exception.  It forgets the whole record, while the workspace is asked to take back one list
after the other, for the documents of the record; a list that was published for a document without a
record would stay.  That there is none is the invariant itself, read in the other direction.  This
is also why the invariant cannot be weakened to what the record says of the documents that it has,
and why the theorem asks that nothing is published at first: what someone else has published before
the first event is never taken back.
-/

set_option autoImplicit false

namespace Proofreader

/-! ## The invariant -/

namespace CheckState

/-- For every document, the list that is recorded is the list that is published, and there is one
exactly if there is the other. -/
def InStep (s : CheckState) : Prop :=
  ∀ id, s.store.records.find? id = s.workspace.published? id

variable {s : CheckState}

theorem InStep.recorded (hs : s.InStep) (id : DocumentId) (diagnostics : List Diagnostic) :
    (s.recorded id diagnostics).InStep := by
  intro other
  rw [CheckState.recorded, Store.set, Workspace.published?, Workspace.publish,
    Registry.find?_insert, Registry.find?_insert, hs other]
  rfl

/-- Only what is recorded and what is published counts. -/
theorem InStep.of_eq (hs : s.InStep) {s' : CheckState} (hstore : s'.store = s.store)
    (hpublished : s'.workspace.published = s.workspace.published) : s'.InStep := by
  intro id
  rw [hstore, Workspace.published?, hpublished]
  exact hs id

theorem InStep.run (hs : s.InStep) (id : DocumentId) : (CheckState.run id s).2.InStep := by
  obtain ⟨e, hrun⟩ | ⟨text, diagnostics, -, -, hrun⟩ := run_cases id s
  · rw [hrun]
    exact hs
  · rw [hrun]
    exact hs.recorded id diagnostics

end CheckState

/-! ## Taking back many lists

The lists are taken back by a fold over names, some of which may have no list. -/

/-- When the lists of some documents are taken back, those of all others stay. -/
theorem Workspace.published?_foldl_unpublish (ids : List DocumentId) (w : Workspace)
    (id : DocumentId) :
    (ids.foldl unpublish w).published? id = if id ∈ ids then none else w.published? id := by
  induction ids generalizing w with
  | nil => simp
  | cons first ids ih =>
    rw [List.foldl_cons, ih, published?, unpublish, Registry.find?_erase]
    by_cases hid : id = first
    · simp [hid]
    · simp [hid, Ne.symm hid, published?]

/-! ## Runs

One lemma for each event that writes, then the step by cases on what an event can do.  A run of
checks is one of these events, and keeps the invariant because each of its checks does. -/

namespace Checker

variable {c : Checker}

theorem Ran.inStep {ids : List DocumentId} {reports : List Report} {c' : Checker}
    (h : c.Ran ids reports c') (hc : c.state.InStep) : c'.state.InStep := by
  rw [h.state_eq]
  exact checkEach_keeps (fun id _ s hs => hs.run id) hc

/-- Stopping takes back everything that is recorded, and nothing else was published. -/
theorem inStep_stop (hc : c.state.InStep) : c.stop.state.InStep := by
  intro id
  rw [stop, Workspace.published?_foldl_unpublish]
  split
  · rfl
  · rename_i hid
    rw [Registry.mem_names, Option.not_isSome_iff_eq_none, hc id] at hid
    exact hid.symm

theorem inStep_closed (hc : c.state.InStep) (id : DocumentId) : (c.closed id).state.InStep := by
  intro other
  rw [closed, Store.forget, Workspace.published?, Workspace.unpublish, Registry.find?_erase,
    Registry.find?_erase, hc other]
  rfl

/-- A finding that is fixed was recorded, so its document has a list, also afterwards. -/
theorem inStep_fix (hc : c.state.InStep) (id : DocumentId) (d : Diagnostic) :
    (c.fix id d).2.state.InStep := by
  obtain ⟨fault, hfix⟩ | ⟨-, s, w, hedit, hfix⟩ := c.fix_cases id d
  · rw [hfix]
    exact hc
  · rw [hfix]
    obtain ⟨-, b, -, -, rfl⟩ := Workspace.edit_eq_ok_iff.1 hedit
    exact CheckState.InStep.recorded (hc.of_eq rfl rfl) id _

theorem inStep_step {c' : Checker} {e : Event} (hsound : c.Sound) (hc : c.state.InStep)
    (h : c.Step e c') : c'.state.InStep := by
  cases h with
  | start rules => exact hc.of_eq rfl rfl
  | stop => exact inStep_stop hc
  | closed id => exact inStep_closed hc id
  | runDue now => exact (hsound.runDue now).inStep hc
  | runAll => exact hsound.runAll.inStep hc
  | fix id d => exact inStep_fix hc id d
  | outside w hpublished => exact hc.of_eq rfl hpublished
  | _ => exact hc

theorem inStep_after (hsound : c.Sound) (hc : c.state.InStep) (e : Event) :
    (c.after e).state.InStep := inStep_step hsound hc (c.step_after e)

/-- **Record and publication agree.**  Whatever happens to a checker that begins on a workspace in
which nothing is published, a document has a recorded list exactly if it has a published one, and
the two are equal. -/
theorem record_eq_published {workspace : Workspace}
    (hnothing : ∀ id, workspace.published? id = none) (delay : Duration) (events : List Event)
    (id : DocumentId) :
    ((withDelay workspace delay).afterAll events).state.store.records.find? id =
      ((withDelay workspace delay).afterAll events).workspace.published? id := by
  have hstart : (withDelay workspace delay).Sound ∧ (withDelay workspace delay).state.InStep :=
    ⟨sound_withDelay workspace delay, fun other => (hnothing other).symm⟩
  exact (afterAll_induction (P := fun c => c.Sound ∧ c.state.InStep)
    (fun c e hc => ⟨hc.1.after e, inStep_after hc.1 hc.2 e⟩) hstart events).2 id

/-- A document is checked, and one of its two findings is fixed: the other is recorded and
published. -/
theorem record_eq_published_teh_teh :
    (∀ id, Workspace.empty.published? id = none) ∧
      (let c := (withDelay .empty defaultDelay).afterAll
        [.start [.everyMatch "teh" .warning "a slip" "the"], .openDocument "a" "teh teh",
          .focus 0 "a", .runDue 1000000000, .fix "a" ⟨⟨4, 7⟩, .warning, "a slip\nthe"⟩]
      c.workspace.text? "a" = some "teh the" ∧
        c.workspace.published? "a" = some [⟨⟨0, 3⟩, .warning, "a slip\nthe"⟩] ∧
        c.state.store.records.find? "a" = some [⟨⟨0, 3⟩, .warning, "a slip\nthe"⟩]) := by
  refine ⟨fun id => rfl, ?_⟩
  dsimp only
  rw [record_eq_published (fun id => rfl)]
  decide +kernel

end Checker
end Proofreader
