import Proofreader.Proofs.Checker.Rest
import Proofreader.Proofs.Checker.Separation

/-!
# After a document was closed

Closing a document drops the check that waits for it, what is recorded for it and what is published.
Three paths lead back to it that do not name it: the editor may still be thought to show it, a check
may have been asked for before, and a finding that a fix removes is published anew.  None of them is
left open (`Checker.Gone`), and only an event that shows the document or asks for a check of it by
name opens one again (`Event.bringsBack`).

* `Checker.Gone.step` — every other event leaves the document gone.
* `Checker.gone_of_closed` — so it stays gone, whatever else happens and in whatever order.

The invariant has a field for each of the three paths, and needs them all to be kept.  What is
published comes back by a check or by a fix.  A check runs only where one waits, and one can come to
wait without the name of the document only by way of the document that is shown: this is why
`focused` is a part of being gone, although nothing is seen of it.  A fix needs a finding that is
recorded.  So no field follows from the others, and each of them is what excludes one path.

Events that name another document need no case of their own.  What they do leaves the checker alike
for this one (`Checker.Alike`, from the module on separation), and what is alike to a document that
is gone is gone (`Alike.gone`).  Of the remaining events only stopping and the runs are of interest:
a run could reach the document if a check of it waited, and it does not.

That the editor does not show the document is a hypothesis of `Gone.step` on the state afterwards,
proved apart in `focused_after_ne`: a step says what becomes of the schedule and the findings, while
which document is shown depends on the event itself.
-/

set_option autoImplicit false

namespace Proofreader
namespace Checker

/-- Whether an event brings a document back: the editor shows it, or a check of it is asked for. -/
def Event.bringsBack (id : DocumentId) : Event → Bool
  | focus _ other => other == id
  | request _ other => other == id
  | _ => false

/-- Nothing is left of a document, and nothing leads to it. -/
structure Gone (c : Checker) (id : DocumentId) : Prop where
  /-- No check of it waits. -/
  window? : c.scheduler.window? id = none
  /-- Nothing is recorded for it. -/
  recorded : c.state.store.records.find? id = none
  /-- Nothing is published for it. -/
  published : c.workspace.published? id = none
  /-- The editor does not show it. -/
  focused : c.focused ≠ some id

variable {c c' : Checker} {id : DocumentId} {e : Event}

theorem gone_closed (hc : c.Sound) (id : DocumentId) : (c.closed id).Gone id where
  window? := by rw [closed, hc.scheduler.window?_cancel, if_pos rfl]
  recorded := Registry.find?_erase_self _ id
  published := Registry.find?_erase_self _ id
  focused := by
    rw [closed]
    dsimp only
    split
    · simp
    · rename_i hne
      exact fun heq => hne (beq_iff_eq.2 heq)

/-! ## One event

First what an event would have to be like to bring the document back; then what each part of the
invariant excludes; then the step, by cases on what an event can do. -/

/-- An event that asks for a check of a document brings it back, unless the editor shows it. -/
theorem AsksFor.bringsBack (h : c.AsksFor id e) (hfocused : c.focused ≠ some id) :
    e.bringsBack id = true := by
  cases e with
  | focus now other => exact beq_iff_eq.2 h.2
  | request now other => exact beq_iff_eq.2 h.2
  | saved now other => exact absurd (h.2.2 ▸ h.2.1) hfocused
  | requestFocused now => exact absurd h.2 hfocused
  | _ => exact h.elim

/-- Asking for a check does not change what the editor shows. -/
theorem focused_request (c : Checker) (now : Instant) (other : DocumentId) :
    (c.request now other).2.focused = c.focused := by
  rw [request]
  split <;> rfl

/-- The editor shows a document only after an event that brings it back. -/
theorem focused_after_ne (hback : e.bringsBack id = false) (hfocused : c.focused ≠ some id) :
    (c.after e).focused ≠ some id := by
  cases e with
  | focus now other =>
    have hne : other ≠ id := beq_eq_false_iff_ne.1 hback
    have hshown : (c.focus now other).focused = some other := by
      rw [focus]
      dsimp only
      split <;> rfl
    rw [after, hshown]
    exact fun heq => hne (Option.some_inj.1 heq)
  | saved now other =>
    rw [after, saved]
    split <;> exact hfocused
  | closed other =>
    rw [after, closed]
    dsimp only
    split
    · simp
    · exact hfocused
  | request now other => exact (c.focused_request now other).symm ▸ hfocused
  | requestFocused now =>
    rw [after, requestFocused]
    split
    · exact hfocused
    · rw [focused_request]
      exact hfocused
  | fix other d => exact (c.fix_frame other d).2.2.2.symm ▸ hfocused
  | edit other r text =>
    rw [after]
    split <;> exact hfocused
  | _ => exact hfocused

/-- Checking other documents leaves a document gone. -/
theorem Gone.ran (h : c.Gone id) {ids : List DocumentId} {reports : List Report}
    (hran : c.Ran ids reports c') (hid : id ∉ ids) : c'.Gone id where
  window? := by rw [hran.window?, if_neg hid, h.window?]
  recorded := by
    rw [hran.state_eq, (checkEach_of_not_mem hid c.state).2.recorded]
    exact h.recorded
  published := by
    rw [workspace, hran.state_eq, (checkEach_of_not_mem hid c.state).2.published]
    exact h.published
  focused := by
    rw [hran.focused_eq]
    exact h.focused

theorem Gone.not_mem_due (h : c.Gone id) (now : Instant) : id ∉ c.scheduler.due now := by
  rw [mem_due_iff, h.window?]
  simp

theorem Gone.not_mem_sortedNames (h : c.Gone id) (hc : c.Sound) :
    id ∉ c.scheduler.pending.sortedNames := by
  rw [Registry.mem_sortedNames, hc.scheduler.find?_isSome_iff, h.window?]
  simp

/-- What cannot be told apart by what is seen of a document is gone together. -/
theorem Alike.gone (halike : Alike id c' c) (h : c.Gone id) : c'.Gone id where
  window? := by
    rw [← Option.not_isSome_iff_eq_none, halike.isSome_window?, h.window?]
    simp
  recorded := halike.state.recorded.trans h.recorded
  published := halike.state.published.trans h.published
  focused := fun heq => h.focused (halike.focused.1 heq)

/-- With nothing recorded, there is nothing to fix. -/
theorem Gone.fix_self (h : c.Gone id) (d : Diagnostic) :
    ∃ fault, c.fix id d = (.error fault, c) := by
  obtain hrefused | ⟨hd, -⟩ := c.fix_cases id d
  · exact hrefused
  · rw [diagnostics, Store.get, h.recorded, Option.getD_none] at hd
    exact absurd hd List.not_mem_nil

theorem Gone.fix (h : c.Gone id) (other : DocumentId) (d : Diagnostic) :
    (c.fix other d).2.Gone id := by
  by_cases hother : other = id
  · obtain ⟨fault, hfix⟩ := h.fix_self d
    rw [hother, hfix]
    exact h
  · exact (alike_fix_of_ne hother c d).gone h

/-- **Every event that does not bring a document back leaves it gone.** -/
theorem Gone.step (h : c.Gone id) (hc : c.Sound) (hback : e.bringsBack id = false)
    (hstep : c.Step e c') (hfocused : c'.focused ≠ some id) : c'.Gone id := by
  cases hstep with
  | start rules => exact ⟨h.window?, h.recorded, h.published, hfocused⟩
  | stop =>
    refine ⟨Scheduler.window?_dropAll _ id, rfl, ?_, hfocused⟩
    rw [workspace, stop, Workspace.published?_foldl_unpublish]
    split
    · rfl
    · exact h.published
  | setDelay delay => exact ⟨h.window?, h.recorded, h.published, hfocused⟩
  | @asked e other now focused hasks =>
    have hne : other ≠ id := by
      rintro rfl
      exact Bool.false_ne_true (hback.symm.trans (hasks.bringsBack h.focused))
    refine ⟨?_, h.recorded, h.published, hfocused⟩
    rw [Checker.schedule, Scheduler.window?_schedule, if_neg hne]
    exact h.window?
  | shown focused => exact ⟨h.window?, h.recorded, h.published, hfocused⟩
  | closed other =>
    by_cases hother : other = id
    · rw [hother]
      exact gone_closed hc id
    · exact (alike_after_of_ne hc (e := .closed other) rfl hother).gone h
  | runDue now => exact h.ran (hc.runDue now) (h.not_mem_due now)
  | runAll => exact h.ran hc.runAll (h.not_mem_sortedNames hc)
  | fix other d => exact h.fix other d
  | outside w hpublished =>
    refine ⟨h.window?, h.recorded, ?_, hfocused⟩
    rw [Workspace.published?, workspace, withWorkspace, hpublished]
    exact h.published

theorem Gone.after (h : c.Gone id) (hc : c.Sound) (hback : e.bringsBack id = false) :
    (c.after e).Gone id :=
  h.step hc hback (c.step_after e) (focused_after_ne hback h.focused)

/-! ## Runs

That no run reports on the document is said of every moment since it was closed, and not only of the
last one: the history is cut at any later event, and the events up to there bring nothing back
either. -/

/-- No event reports on a document that is gone. -/
theorem Gone.answer (h : c.Gone id) (hc : c.Sound) (e : Event) :
    (c.answer id e).reports = [] := by
  have hnone : ∀ reports : List Report,
      (∀ r ∈ reports, (∃ now, r ∈ (c.runDue now).1) ∨ r ∈ c.runAll.1) →
        reportsOn id reports = [] := by
    intro reports hreports
    refine List.filter_eq_nil_iff.2 fun r hr hdocument => ?_
    have hwindow := isSome_window?_of_report hc (hreports r hr)
    rw [beq_iff_eq.1 hdocument, h.window?] at hwindow
    exact Bool.false_ne_true hwindow
  cases e with
  | runDue now => exact hnone _ fun r hr => .inl ⟨now, hr⟩
  | runAll => exact hnone _ fun r hr => .inr hr
  | _ => rfl

theorem Gone.afterAll (h : c.Gone id) (hc : c.Sound) {events : List Event}
    (hback : ∀ e ∈ events, e.bringsBack id = false) : (c.afterAll events).Gone id := by
  induction events generalizing c with
  | nil => exact h
  | cons e events ih =>
    obtain ⟨he, hevents⟩ := List.forall_mem_cons.1 hback
    exact ih (h.after hc he) (hc.after e) hevents

/-- **A closed document does not come back by itself.**  Whatever happened before it was closed, and
whatever happens since, as long as the editor does not show it and no check of it is asked for: no
check of it waits, nothing is recorded or published for it, every fix in it is refused, and no run
since it was closed reports on it. -/
theorem gone_of_closed (workspace : Workspace) (delay : Duration) (before later : List Event)
    (id : DocumentId) (hlater : ∀ e ∈ later, e.bringsBack id = false) :
    let c := (withDelay workspace delay).afterAll (before ++ .closed id :: later)
    c.isWaiting id = false ∧ c.state.store.records.find? id = none ∧
      c.workspace.published? id = none ∧ (∀ d, ∃ fault, c.fix id d = (.error fault, c)) ∧
      ∀ earlier e rest, later = earlier ++ e :: rest →
        let during := (withDelay workspace delay).afterAll (before ++ .closed id :: earlier)
        (during.answer id e).reports = [] := by
  have hbefore := (sound_withDelay workspace delay).afterAll before
  have hclosed := hbefore.after (.closed id)
  have hgone : ∀ events : List Event, (∀ e ∈ events, e.bringsBack id = false) →
      ((withDelay workspace delay).afterAll (before ++ .closed id :: events)).Gone id ∧
        ((withDelay workspace delay).afterAll (before ++ .closed id :: events)).Sound := by
    intro events hback
    rw [afterAll_append]
    exact ⟨(gone_closed hbefore id).afterAll hclosed hback, hclosed.afterAll events⟩
  obtain ⟨h, -⟩ := hgone later hlater
  refine ⟨?_, h.recorded, h.published, h.fix_self, fun earlier e rest heq => ?_⟩
  · rw [isWaiting, Scheduler.isWaiting_eq, h.window?]
    rfl
  · have hearlier : ∀ e ∈ earlier, e.bringsBack id = false := fun e he =>
      hlater e (heq ▸ List.mem_append_left _ he)
    obtain ⟨hduring, hsound⟩ := hgone earlier hearlier
    exact hduring.answer hsound e

/-- A document with a finding and a check that waits is closed while the editor shows it.  After
that it is saved, a fix is tried, the document shown is to be checked, checking is stopped and
started, and everything is run: nothing is left of it. -/
theorem gone_of_closed_teh :
    let before : List Event := [.start [.everyMatch "teh" .warning "a slip" "the"],
      .openDocument "a" "teh", .focus 0 "a", .runDue 1000000000, .request 5 "a"]
    let later : List Event := [.saved 6 "a", .fix "a" ⟨⟨0, 3⟩, .warning, "a slip\nthe"⟩,
      .requestFocused 7, .stop, .start [], .saved 8 "a", .runAll]
    ((withDelay .empty defaultDelay).afterAll before).isWaiting "a" = true ∧
      ((withDelay .empty defaultDelay).afterAll before).workspace.published? "a" =
        some [⟨⟨0, 3⟩, .warning, "a slip\nthe"⟩] ∧
      (∀ e ∈ later, e.bringsBack "a" = false) ∧
      let c := (withDelay .empty defaultDelay).afterAll (before ++ .closed "a" :: later)
      c.workspace.text? "a" = some "teh" ∧ c.isWaiting "a" = false ∧
        c.workspace.published? "a" = none := by
  intro before later
  have hlater : ∀ e ∈ later, e.bringsBack "a" = false := by
    simp [later, Event.bringsBack]
  obtain ⟨hwaiting, -, hpublished, -⟩ :=
    gone_of_closed .empty defaultDelay before later "a" hlater
  exact ⟨by decide +kernel, by decide +kernel, hlater, by decide +kernel, hwaiting, hpublished⟩

end Checker
end Proofreader
