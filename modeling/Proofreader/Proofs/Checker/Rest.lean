import Mathlib.Data.List.Induction
import Proofreader.Proofs.Checker.Publication

/-!
# A checker at rest

Between `stop` and `start`, and before the first `start`, a checker is at rest (`Checker.AtRest`):
nothing waits, there are no rules, and nothing is recorded or published.  No guard for that stands
where checks run; it holds because every event keeps it (`Checker.atRest_step`).

What waited when checking was stopped stays dead, also when it is started again.

* `Checker.Cancelled` — a handle is cancelled; no event wakes it (`Checker.Cancelled.step`).
* `Checker.exists_asksFor` — what waits was asked for since nothing waited.
* `Checker.inactive_laws` — what all this comes to, for every history of a checker.

There are two kinds of statements here, and they are proved in two ways.

The first kind is about a state: a checker that is not active is at rest.  Its invariant is the
implication, from not being active to being at rest, and a step has to show it only where the
checker is not active afterwards.  Then it was either stopped by this event, or was not active
before and the event could do next to nothing: every operation that asks for a check, or fixes a
finding, has the guard, and runs have nothing to run.  That nothing is *published* is not told by
what stopping does, since only lists with a record are taken back; it follows from the record and
the publication being in step, which is why that invariant is carried along.

The second kind looks back: a check that runs now was asked for since the last stop.  There is no
field of a checker that says when a check was asked for, so this is an induction on the history from
its end.  What waits after an event waited before or was asked for by this event; if it waited
before, the event is not the one that is looked for, and the search goes on in a shorter history.
At the stop it ends, since nothing waits there.  That it stays dead under its old handle is again of
the first kind, with the handle as a parameter: nothing waits on a handle that is cancelled, and
only what waits is settled.

That a check waits in an active checker only (`Orderly`) is proved on the way.  It is what makes
reports a proof of being active, in the module on fixes.
-/

set_option autoImplicit false

namespace Proofreader

/-! ## A scheduler without windows

What runs is read off the entries of the scheduler, and whether a document waits is read off the
windows.  In a sound scheduler there are no entries besides those of open windows, so both are empty
together. -/

namespace Scheduler

variable {σ α : Type} {s : Scheduler σ α}

/-- If no document has a window, there are no entries. -/
theorem Sound.entries_eq_nil (hs : s.Sound) (h : ∀ id, s.window? id = none) :
    s.pending.entries = [] := by
  refine List.eq_nil_iff_forall_not_mem.2 fun entry hentry => ?_
  have hfound : (s.pending.find? entry.1).isSome = true := by
    rw [s.pending.find?_eq_some_iff.2 hentry]
    rfl
  rw [hs.find?_isSome_iff, h entry.1] at hfound
  simp at hfound

theorem due_of_entries_eq_nil (h : s.pending.entries = []) (now : Instant) : s.due now = [] := by
  simp [due, deadlines, h]

theorem sortedNames_of_entries_eq_nil (h : s.pending.entries = []) :
    s.pending.sortedNames = [] := by
  simp [Registry.sortedNames, Registry.names, sortIds, h]

theorem nextDue_of_entries_eq_nil (h : s.pending.entries = []) : s.nextDue = none := by
  simp [nextDue, deadlines, h]

end Scheduler

namespace Checker

variable {c c' : Checker} {id : DocumentId} {h : Handle}

/-! ## Being at rest

Documents may be open in a checker at rest, with any texts: these belong to the workspace.  Which
document is shown is remembered as well. -/

/-- Nothing waits, and nothing is left of checks that ran. -/
structure AtRest (c : Checker) : Prop where
  /-- No check waits. -/
  window? : ∀ id, c.scheduler.window? id = none
  /-- There are no rules. -/
  rules : c.rules = []
  /-- Nothing is recorded. -/
  recorded : ∀ id, c.state.store.records.find? id = none
  /-- Nothing is published. -/
  published : ∀ id, c.workspace.published? id = none

theorem AtRest.isWaiting (h : c.AtRest) (id : DocumentId) : c.isWaiting id = false := by
  rw [Checker.isWaiting, Scheduler.isWaiting_eq, h.window? id]
  rfl

/-- A run of what is due does nothing. -/
theorem AtRest.runDue (h : c.AtRest) (hc : c.Sound) (now : Instant) : c.runDue now = ([], c) := by
  rw [Checker.runDue, Scheduler.runDue,
    Scheduler.due_of_entries_eq_nil (hc.scheduler.entries_eq_nil h.window?)]
  rfl

/-- A run of everything does nothing. -/
theorem AtRest.runAll (h : c.AtRest) (hc : c.Sound) : c.runAll = ([], c) := by
  rw [Checker.runAll, Scheduler.runAll,
    Scheduler.sortedNames_of_entries_eq_nil (hc.scheduler.entries_eq_nil h.window?)]
  rfl

/-- What is not recorded is not published, as the two are in step. -/
theorem atRest_of_inStep (hs : c.state.InStep) (hwindow : ∀ id, c.scheduler.window? id = none)
    (hrules : c.rules = []) (hrecorded : ∀ id, c.state.store.records.find? id = none) : c.AtRest :=
  ⟨hwindow, hrules, hrecorded, fun id => (hs id).symm.trans (hrecorded id)⟩

theorem fix_of_inactive (hactive : c.active = false) (id : DocumentId) (d : Diagnostic) :
    c.fix id d = (.error (.state .inactive), c) := by
  simp [fix, hactive]

/-- **Every event keeps a checker that is not active at rest**, and stopping brings it there. -/
theorem atRest_step {e : Event} (hc : c.Sound) (hs : c.state.InStep)
    (hrest : c.active = false → c.AtRest) (h : c.Step e c') (hactive : c'.active = false) :
    c'.AtRest := by
  have hs' := inStep_step hc hs h
  cases h with
  | start rules => simp [start] at hactive
  | stop => exact atRest_of_inStep hs' (Scheduler.window?_dropAll _) rfl fun id => rfl
  | setDelay delay =>
    have h := hrest hactive
    exact ⟨h.window?, h.rules, h.recorded, h.published⟩
  | asked now focused hasks =>
    have hinactive : c.active = false := hactive
    rw [hasks.active] at hinactive
    simp at hinactive
  | shown focused =>
    have h := hrest hactive
    exact ⟨h.window?, h.rules, h.recorded, h.published⟩
  | closed id =>
    have h := hrest hactive
    refine atRest_of_inStep hs' (fun other => ?_) h.rules fun other => ?_
    · rw [closed, hc.scheduler.window?_cancel, h.window? other]
      split <;> rfl
    · rw [closed, Store.forget, Registry.find?_erase, h.recorded other]
      split <;> rfl
  | runDue now =>
    have h := hrest ((hc.runDue now).active_eq ▸ hactive)
    rw [h.runDue hc]
    exact h
  | runAll =>
    have h := hrest (hc.runAll.active_eq ▸ hactive)
    rw [h.runAll hc]
    exact h
  | fix id d =>
    have hinactive : c.active = false := (c.fix_frame id d).2.1 ▸ hactive
    rw [fix_of_inactive hinactive]
    exact hrest hinactive
  | outside w _ =>
    have h := hrest hactive
    exact atRest_of_inStep hs' h.window? h.rules h.recorded

/-! ## What waits was asked for

`AsksFor` is about the event and the state it meets, since the same event asks for a check in an
active checker and does not in another. -/

/-- What waits after an event was asked for by it, or waited before. -/
theorem asksFor_or_isSome_window? {e : Event} (hc : c.Sound) (h : c.Step e c')
    (hid : (c'.scheduler.window? id).isSome = true) :
    c.AsksFor id e ∨ (c.scheduler.window? id).isSome = true := by
  have hran : ∀ {ids reports c'}, c.Ran ids reports c' →
      (c'.scheduler.window? id).isSome = true → (c.scheduler.window? id).isSome = true := by
    intro ids reports c' hran hid
    rw [hran.window?] at hid
    split at hid
    · simp at hid
    · exact hid
  cases h with
  | stop =>
    rw [stop, Scheduler.window?_dropAll] at hid
    simp at hid
  | asked now focused hasks =>
    rw [schedule, Scheduler.window?_schedule] at hid
    split at hid
    · rename_i heq
      exact .inl (heq ▸ hasks)
    · exact .inr hid
  | closed other =>
    rw [closed, hc.scheduler.window?_cancel] at hid
    split at hid
    · simp at hid
    · exact .inr hid
  | runDue now => exact .inr (hran (hc.runDue now) hid)
  | runAll => exact .inr (hran hc.runAll hid)
  | fix other d =>
    rw [(c.fix_frame other d).1] at hid
    exact .inr hid
  | _ => exact .inr hid

/-- **What waits was asked for**, if it did not wait at first.  By induction on the events, from the
last one back to the one that asked. -/
theorem exists_asksFor (hc : c.Sound) (hid : c.scheduler.window? id = none) {events : List Event}
    (h : ((c.afterAll events).scheduler.window? id).isSome = true) :
    ∃ earlier e later, events = earlier ++ e :: later ∧ (c.afterAll earlier).AsksFor id e := by
  induction events using List.reverseRecOn with
  | nil =>
    rw [afterAll, List.foldl_nil, hid] at h
    simp at h
  | append_singleton events e ih =>
    rw [afterAll_append] at h
    rcases asksFor_or_isSome_window? (hc.afterAll events) (step_after _ e) h with hasks | hwaited
    · exact ⟨events, e, [], rfl, hasks⟩
    · obtain ⟨earlier, first, later, rfl, hasks⟩ := ih hwaited
      exact ⟨earlier, first, later ++ [e], by simp, hasks⟩

/-- A report is on a document that was run. -/
theorem Ran.document_mem {ids : List DocumentId} {reports : List Report} {r : Report}
    (hran : c.Ran ids reports c') (hr : r ∈ reports) : r.document ∈ ids := by
  rw [hran.reports_eq] at hr
  generalize (checkEach ids c.state).1 = results at hr
  obtain ⟨id, a, hmem, rfl⟩ : ∃ id a, (id, a) ∈ ids.zip results ∧ r = ⟨id, a⟩ := by
    rw [← List.map_uncurry_zip_eq_zipWith] at hr
    obtain ⟨⟨id, a⟩, hmem, rfl⟩ := List.mem_map.1 hr
    exact ⟨id, a, hmem, rfl⟩
  exact (List.of_mem_zip hmem).1

/-- A report of a run, of what is due or of everything, is on a document for which a check
waited. -/
theorem isSome_window?_of_report (hc : c.Sound) {r : Report}
    (hr : (∃ now, r ∈ (c.runDue now).1) ∨ r ∈ c.runAll.1) :
    (c.scheduler.window? r.document).isSome = true := by
  rcases hr with ⟨now, hr⟩ | hr
  · obtain ⟨w, hw, -⟩ := Scheduler.mem_due.1 ((hc.runDue now).document_mem hr)
    rw [hw]
    rfl
  · have hmem := hc.runAll.document_mem hr
    rw [Registry.mem_sortedNames, hc.scheduler.find?_isSome_iff] at hmem
    exact hmem

/-- A check waits in an active checker only: the event that asked for it found the checker active,
and stopping drops what waits. -/
theorem active_of_waiting_step {e : Event} (hc : c.Sound)
    (hactive : ∀ id, (c.scheduler.window? id).isSome = true → c.active = true) (h : c.Step e c')
    (hid : (c'.scheduler.window? id).isSome = true) : c'.active = true := by
  have hbefore : c.active = true := by
    rcases asksFor_or_isSome_window? hc h hid with hasks | hwaited
    · exact hasks.active
    · exact hactive id hwaited
  cases h with
  | start rules => rfl
  | stop =>
    rw [stop, Scheduler.window?_dropAll] at hid
    simp at hid
  | runDue now => exact (hc.runDue now).active_eq.trans hbefore
  | runAll => exact hc.runAll.active_eq.trans hbefore
  | fix other d => exact (c.fix_frame other d).2.1.trans hbefore
  | _ => exact hbefore

/-- The invariant of checkers, and that a check waits in an active checker only. -/
structure Orderly (c : Checker) : Prop where
  /-- The invariant is kept. -/
  sound : c.Sound
  /-- Where a check waits, the checker is active. -/
  active : ∀ id, (c.scheduler.window? id).isSome = true → c.active = true

theorem orderly_withDelay (workspace : Workspace) (delay : Duration) :
    (withDelay workspace delay).Orderly :=
  ⟨sound_withDelay workspace delay, fun id hid => by
    simp [Scheduler.window?, withDelay, Scheduler.withDelay] at hid⟩

theorem Orderly.afterAll (h : c.Orderly) (events : List Event) : (c.afterAll events).Orderly :=
  afterAll_induction (P := Orderly)
    (fun c e hc => ⟨hc.sound.after e,
      fun _ => active_of_waiting_step hc.sound hc.active (c.step_after e)⟩) h events

/-- In a checker that is not active, nothing waits. -/
theorem Orderly.window?_eq_none (h : c.Orderly) (hactive : c.active = false) (id : DocumentId) :
    c.scheduler.window? id = none := by
  rw [← Option.not_isSome_iff_eq_none]
  intro hid
  rw [h.active id hid] at hactive
  simp at hactive

theorem active_of_waiting (workspace : Workspace) (delay : Duration) (events : List Event)
    (hid : (((withDelay workspace delay).afterAll events).scheduler.window? id).isSome = true) :
    ((withDelay workspace delay).afterAll events).active = true :=
  ((orderly_withDelay workspace delay).afterAll events).active id hid

/-! ## What was cancelled stays so

A run writes to the table of handles, and then the reports are taken out of it.  Both touch the
handles of what ran, and a cancelled handle is none of them, by the invariant of schedulers: whose
window is open shows that it is pending. -/

/-- A handle is cancelled. -/
structure Cancelled (c : Checker) (h : Handle) : Prop where
  /-- It is one of the table. -/
  known : h.index < c.scheduler.slots.states.length
  /-- It shows that it is cancelled. -/
  shown : c.scheduler.slots.get h = .cancelled

/-- Nothing waits on a handle that is cancelled. -/
theorem Cancelled.ne_of_window? (hh : c.Cancelled h) (hc : c.Sound)
    {w : Window CheckState CheckResult} (hw : c.scheduler.window? id = some w) : w.handle ≠ h := by
  rintro rfl
  have hwaits := hc.scheduler.waits id w hw
  rw [hh.shown] at hwaits
  simp at hwaits

theorem Cancelled.of_slots (hh : c.Cancelled h)
    (hget : c'.scheduler.slots.get h = c.scheduler.slots.get h)
    (hlength : c.scheduler.slots.states.length ≤ c'.scheduler.slots.states.length) :
    c'.Cancelled h :=
  ⟨Nat.lt_of_lt_of_le hh.known hlength, hget.trans hh.shown⟩

theorem Cancelled.of_scheduler_eq (hh : c.Cancelled h) (heq : c'.scheduler = c.scheduler) :
    c'.Cancelled h := hh.of_slots (by rw [heq]) (Nat.le_of_eq (by rw [heq]))

theorem Cancelled.schedule (hh : c.Cancelled h) (now : Instant) (id : DocumentId) :
    (c.schedule now id).Cancelled h := by
  refine hh.of_slots ?_ ?_
  · rw [Checker.schedule, Scheduler.slots_schedule,
      Scheduler.get_slotsFor_of_index_lt id hh.known]
  · rw [Checker.schedule, Scheduler.slots_schedule]
    exact c.scheduler.length_slotsFor id

/-- A run settles the handles of what it runs, and takes their results; another handle it leaves
alone. -/
theorem takeReports_frame (completed : List (DocumentId × Handle))
    (s : Scheduler CheckState CheckResult) (hne : ∀ j ∈ completed, j.2 ≠ h) :
    (takeReports completed s).2.slots.get h = s.slots.get h ∧
      (takeReports completed s).2.slots.states.length = s.slots.states.length := by
  induction completed generalizing s with
  | nil => exact ⟨rfl, rfl⟩
  | cons j completed ih =>
    obtain ⟨hj, hrest⟩ := List.forall_mem_cons.1 hne
    obtain ⟨hget, hlength⟩ := ih (s.take j.2).2 hrest
    have hsnd : (takeReports (j :: completed) s).2 = (takeReports completed (s.take j.2).2).2 := by
      rw [takeReports]
      dsimp only
      split <;> rfl
    rw [hsnd, hget, hlength]
    exact ⟨Slots.get_take_of_ne _ hj, Slots.length_take _ _⟩

theorem Cancelled.afterRun (hh : c.Cancelled h) (hc : c.Sound)
    {jobs : List (Scheduler.Job CheckState CheckResult)} (hjobs : c.scheduler.Jobs jobs)
    {results : List CheckResult} {s : Scheduler CheckState CheckResult} {state : CheckState}
    (hran : c.scheduler.Ran jobs results s)
    (hlength : s.slots.states.length = c.scheduler.slots.states.length) :
    (c.afterRun ⟨s, state, jobs.map fun j => (j.1, j.2.handle)⟩).2.Cancelled h := by
  have hne : ∀ j ∈ jobs, j.2.handle ≠ h := fun j hj => hh.ne_of_window? hc (hjobs.window? j hj)
  obtain ⟨hget, hkept⟩ := takeReports_frame (h := h) (jobs.map fun j => (j.1, j.2.handle)) s (by
    intro j hj
    obtain ⟨job, hjob, rfl⟩ := List.mem_map.1 hj
    exact hne job hjob)
  exact hh.of_slots (hget.trans (hran.others h hne)) (Nat.le_of_eq (hkept.trans hlength).symm)

theorem Cancelled.runDue (hh : c.Cancelled h) (hc : c.Sound) (now : Instant) :
    (c.runDue now).2.Cancelled h := by
  obtain ⟨jobs, s', -, hjobs, hrun, hran⟩ := Scheduler.runDue_spec hc.scheduler now c.state
  have hlength := Scheduler.length_runEach
    (fun d slots state => Scheduler.length_poll d slots now state) (c.scheduler.due now)
    c.scheduler c.state
  rw [← Scheduler.runDue, hrun] at hlength
  rw [Checker.runDue, hrun]
  exact hh.afterRun hc hjobs hran hlength

theorem Cancelled.runAll (hh : c.Cancelled h) (hc : c.Sound) : c.runAll.2.Cancelled h := by
  obtain ⟨jobs, s', -, hjobs, hrun, hran⟩ := Scheduler.runAll_spec hc.scheduler c.state
  have hlength := Scheduler.length_runEach Scheduler.length_deliverNow
    c.scheduler.pending.sortedNames c.scheduler c.state
  rw [← Scheduler.runAll, hrun] at hlength
  rw [Checker.runAll, hrun]
  exact hh.afterRun hc hjobs hran hlength

/-- **No event wakes a handle that is cancelled.** -/
theorem Cancelled.step {e : Event} (hh : c.Cancelled h) (hc : c.Sound) (hstep : c.Step e c') :
    c'.Cancelled h := by
  cases hstep with
  | stop =>
    refine hh.of_slots ?_ (Nat.le_of_eq c.scheduler.length_dropAll.symm)
    exact Scheduler.get_dropAll_of_ne hh.known fun id w hw => hh.ne_of_window? hc hw
  | asked now focused _ =>
    have hshown : ({ c with focused } : Checker).Cancelled h := hh.of_scheduler_eq rfl
    exact hshown.schedule now _
  | closed id =>
    exact hh.of_slots (hc.scheduler.get_cancel_of_ne fun w hw => hh.ne_of_window? hc hw)
      (Nat.le_of_eq (hc.scheduler.length_cancel id).symm)
  | runDue now => exact hh.runDue hc now
  | runAll => exact hh.runAll hc
  | fix id d => exact hh.of_scheduler_eq (c.fix_frame id d).1
  | _ => exact hh.of_slots rfl (Nat.le_refl _)

theorem Cancelled.afterAll (hh : c.Cancelled h) (hc : c.Sound) (events : List Event) :
    (c.afterAll events).Cancelled h :=
  (afterAll_induction (P := fun c => c.Sound ∧ c.Cancelled h)
    (fun c e hc => ⟨hc.1.after e, hc.2.step hc.1 (c.step_after e)⟩) ⟨hc, hh⟩ events).2

/-- Stopping cancels what waits. -/
theorem cancelled_stop (hc : c.Sound) {w : Window CheckState CheckResult}
    (hw : c.scheduler.window? id = some w) : c.stop.Cancelled w.handle where
  known := by
    rw [stop, Scheduler.length_dropAll]
    exact Slots.index_lt_of_get_eq_pending (hc.scheduler.waits id w hw)
  shown := hc.scheduler.get_dropAll hw

/-! ## What holds of every history

A stop is any stop of the history and not the last one: what happened before it is `before`, and
`later` may have further stops and starts. -/

/-- What is said of a checker that was stopped after the events `before`, and to which `later`
happened since. -/
structure StopLaws (start : Checker) (before later : List Event) : Prop where
  /-- What waited is cancelled. -/
  cancelled : ∀ id w, (start.afterAll before).scheduler.window? id = some w →
    (start.afterAll (before ++ .stop :: later)).scheduler.slots.get w.handle = .cancelled
  /-- A check that runs was asked for since. -/
  asked : ∀ r, let c := start.afterAll (before ++ .stop :: later)
    ((∃ now, r ∈ (c.runDue now).1) ∨ r ∈ c.runAll.1) →
      ∃ earlier e rest, later = earlier ++ e :: rest ∧
        (start.afterAll (before ++ .stop :: earlier)).AsksFor r.document e

theorem stopLaws (hc : c.Sound) (before later : List Event) : StopLaws c before later where
  cancelled id w hw := by
    rw [afterAll_append]
    have hstop := cancelled_stop (hc.afterAll before) hw
    exact (hstop.afterAll ((hc.afterAll before).after .stop) later).shown
  asked r := by
    intro d hr
    have hsound := hc.afterAll (before ++ .stop :: later)
    have hwindow := isSome_window?_of_report hsound hr
    rw [afterAll_append] at hwindow
    obtain ⟨earlier, e, rest, heq, hasks⟩ :=
      exists_asksFor ((hc.afterAll before).after .stop) (Scheduler.window?_dropAll _ _) hwindow
    exact ⟨earlier, e, rest, heq, by rw [afterAll_append]; exact hasks⟩

/-- **A checker that is not active is at rest, and what was dropped stays so.**  Whatever happened
to a checker that began on a workspace in which nothing is published: if it is not active, no check
waits, there are no rules, nothing is recorded, nothing is published, and a run does nothing.  After
every stop, what waited is cancelled for ever, and each check that runs was asked for since. -/
theorem inactive_laws {workspace : Workspace} (hnothing : ∀ id, workspace.published? id = none)
    (delay : Duration) :
    (∀ events, let c := (withDelay workspace delay).afterAll events
      c.active = false → c.AtRest ∧ (∀ id, c.isWaiting id = false) ∧ c.nextDue = none ∧
        (∀ now, c.runDue now = ([], c)) ∧ c.runAll = ([], c)) ∧
      ∀ before later, StopLaws (withDelay workspace delay) before later := by
  have hstart := sound_withDelay workspace delay
  refine ⟨fun events => ?_, stopLaws hstart⟩
  intro c hactive
  have hbegin : (withDelay workspace delay).state.InStep := fun id => (hnothing id).symm
  obtain ⟨hc, -, hrest⟩ : c.Sound ∧ c.state.InStep ∧ (c.active = false → c.AtRest) :=
    afterAll_induction (P := fun c => c.Sound ∧ c.state.InStep ∧ (c.active = false → c.AtRest))
      (fun c e hc => ⟨hc.1.after e, inStep_after hc.1 hc.2.1 e,
        atRest_step hc.1 hc.2.1 hc.2.2 (c.step_after e)⟩)
      ⟨hstart, hbegin, fun _ => atRest_of_inStep hbegin (fun id => rfl) rfl fun id => rfl⟩ events
  have h := hrest hactive
  exact ⟨h, h.isWaiting,
    Scheduler.nextDue_of_entries_eq_nil (hc.scheduler.entries_eq_nil h.window?), h.runDue hc,
    h.runAll hc⟩

/-- A check waits when checking is stopped.  Checking is started again, and it does not run. -/
theorem inactive_laws_restart :
    (∀ id, Workspace.empty.published? id = none) ∧
      (let rules : List Rule := [.everyMatch "teh" .warning "a slip" "the"]
      let begin := withDelay .empty defaultDelay
      let before : List Event := [.start rules, .openDocument "a" "teh", .focus 0 "a"]
      (begin.afterAll before).isWaiting "a" = true ∧
        (begin.afterAll (before ++ [.stop])).active = false ∧
        (begin.afterAll (before ++ [.stop])).AtRest ∧
        ((begin.afterAll (before ++ .stop :: [.start rules])).runDue 1000000000).1 = []) := by
  have hnothing : ∀ id, Workspace.empty.published? id = none := fun id => rfl
  refine ⟨hnothing, ?_⟩
  intro rules begin before
  obtain ⟨hrest, hstop⟩ := inactive_laws hnothing defaultDelay
  refine ⟨by decide +kernel, rfl, (hrest (before ++ [.stop]) rfl).1, ?_⟩
  refine List.eq_nil_iff_forall_not_mem.2 fun r hr => ?_
  obtain ⟨earlier, e, rest, heq, hasks⟩ := (hstop before [.start rules]).asked r (.inl ⟨_, hr⟩)
  cases earlier with
  | nil =>
    obtain ⟨rfl, -⟩ := List.cons.inj heq
    exact hasks
  | cons first earlier => simp at heq

end Checker
end Proofreader
