import Proofreader.Proofs.Checker.Steps
import Proofreader.Proofs.Schedule.Runs

/-!
# Runs of a checker

A run of a checker is a list of *events*: what an editor calls, what is done to the workspace from
outside, and the passing of time, in any order.  `Checker.Step` says what an event can make of a
checker, so that an invariant has few cases.  `Checker.Sound` is the invariant of all runs: the
scheduler is sound, and what waits for a document is its check.  With it, `runDue` and `runAll` come
to checking documents one after the other (`Checker.Ran`), and what is proved of checks need not
look at handles.

The times of events need not increase.  Nothing that is proved about checkers uses that a clock goes
forward, so an event carries the time at which it reads the clock and that is all.  Likewise the
workspace is not the property of the checker: documents are opened, edited and closed by events of
their own, at any moment and whether the checker hears of it or not.

The relation `Step` is coarser than the function `after`.  Four events may ask for a check and do it
under four different conditions, but what they can make of a checker is the same: a check is
scheduled, and perhaps another document is shown.  Five events change the workspace, and what counts
is that they leave alone what is published.  So there are ten constructors for sixteen events, and a
step lemma has ten cases, most of them closed by naming the lemma on the operation.  A lemma that
needs to know which event it was looks at the event itself.

That what waits is the check of its document is the second half of `Sound`, and no more is ever said
of work: it makes the scheduler, which runs arbitrary functions of the state, into something that
runs `CheckState.run`.  The first half belongs to schedulers and is imported.
-/

set_option autoImplicit false

namespace Proofreader
namespace Checker

/-! ## Events

An operation that is refused is an event like any other, and leaves the checker as it is. -/

/-- What can happen to a checker and its workspace.  The times are those at which the clock is
read. -/
inductive Event where
  /-- Checking starts with rules. -/
  | start (rules : List Rule)
  /-- Checking stops. -/
  | stop
  /-- Another delay counts from now on. -/
  | setDelay (delay : Duration)
  /-- The editor shows a document. -/
  | focus (now : Instant) (id : DocumentId)
  /-- A document was saved. -/
  | saved (now : Instant) (id : DocumentId)
  /-- A document was closed. -/
  | closed (id : DocumentId)
  /-- A check of a document is asked for. -/
  | request (now : Instant) (id : DocumentId)
  /-- A check of the document that is shown is asked for. -/
  | requestFocused (now : Instant)
  /-- What is due is run. -/
  | runDue (now : Instant)
  /-- Everything that waits is run. -/
  | runAll
  /-- A finding is fixed. -/
  | fix (id : DocumentId) (d : Diagnostic)
  /-- A document is opened in the workspace. -/
  | openDocument (id : DocumentId) (text : String)
  /-- A document is closed in the workspace. -/
  | closeDocument (id : DocumentId)
  /-- The text of a document is replaced in the workspace. -/
  | setText (id : DocumentId) (text : String)
  /-- The workspace refuses edits, or admits them again. -/
  | setReadOnly (on : Bool)
  /-- A range of a document is edited in the workspace. -/
  | edit (id : DocumentId) (r : TextRange) (text : String)

/-- The checker after an event. -/
def after (c : Checker) : Event → Checker
  | .start rules => c.start rules
  | .stop => c.stop
  | .setDelay delay => c.setDelay delay
  | .focus now id => c.focus now id
  | .saved now id => c.saved now id
  | .closed id => c.closed id
  | .request now id => (c.request now id).2
  | .requestFocused now => (c.requestFocused now).2
  | .runDue now => (c.runDue now).2
  | .runAll => c.runAll.2
  | .fix id d => (c.fix id d).2
  | .openDocument id text => c.withWorkspace (c.workspace.openDocument id text)
  | .closeDocument id => c.withWorkspace (c.workspace.closeDocument id)
  | .setText id text => c.withWorkspace (c.workspace.setText id text)
  | .setReadOnly on => c.withWorkspace (c.workspace.setReadOnly on)
  | .edit id r text =>
    match c.workspace.edit id r text with
    | .ok workspace => c.withWorkspace workspace
    | .error _ => c

/-- The checker after a run. -/
def afterAll (c : Checker) (events : List Event) : Checker := events.foldl after c

/-- What every event keeps, every run keeps. -/
theorem afterAll_induction {P : Checker → Prop} (hafter : ∀ c e, P c → P (c.after e))
    {c : Checker} (hc : P c) (events : List Event) : P (c.afterAll events) := by
  induction events generalizing c with
  | nil => exact hc
  | cons e events ih => exact ih (hafter c e hc)

theorem afterAll_append (c : Checker) (before events : List Event) :
    c.afterAll (before ++ events) = (c.afterAll before).afterAll events := List.foldl_append

/-! ## What an event can do -/

/-- An event asks for a check of a document, in a state. -/
def AsksFor (c : Checker) (id : DocumentId) : Event → Prop
  | .focus _ other => c.active = true ∧ other = id
  | .saved _ other => c.active = true ∧ c.focused = some other ∧ other = id
  | .request _ other => c.active = true ∧ other = id
  | .requestFocused _ => c.active = true ∧ c.focused = some id
  | _ => False

/-- What an event can make of a checker.  Most events do one thing; those that may ask for a check
schedule it, or leave all but the document that is shown. -/
inductive Step (c : Checker) : Event → Checker → Prop
  /-- Checking starts. -/
  | start (rules : List Rule) : Step c (.start rules) (c.start rules)
  /-- Checking stops. -/
  | stop : Step c .stop c.stop
  /-- The delay is changed. -/
  | setDelay (delay : Duration) : Step c (.setDelay delay) (c.setDelay delay)
  /-- A check that is asked for is scheduled. -/
  | asked {e : Event} {id : DocumentId} (now : Instant) (focused : Option DocumentId) :
      c.AsksFor id e → Step c e (Checker.schedule { c with focused } now id)
  /-- At most, another document is shown. -/
  | shown {e : Event} (focused : Option DocumentId) : Step c e { c with focused }
  /-- A document is closed. -/
  | closed (id : DocumentId) : Step c (.closed id) (c.closed id)
  /-- What is due is run. -/
  | runDue (now : Instant) : Step c (.runDue now) (c.runDue now).2
  /-- Everything is run. -/
  | runAll : Step c .runAll c.runAll.2
  /-- A finding is fixed. -/
  | fix (id : DocumentId) (d : Diagnostic) : Step c (.fix id d) (c.fix id d).2
  /-- The workspace is changed from outside, but not what is published. -/
  | outside {e : Event} (w : Workspace) :
      w.published = c.workspace.published → Step c e (c.withWorkspace w)

variable {c c' : Checker}

theorem AsksFor.active {id : DocumentId} {e : Event} (h : c.AsksFor id e) : c.active = true := by
  cases e with
  | focus now other => exact h.1
  | saved now other => exact h.1
  | request now other => exact h.1
  | requestFocused now => exact h.1
  | _ => exact h.elim

theorem step_request {id : DocumentId} {e : Event} (now : Instant)
    (h : c.active = true → c.AsksFor id e) : c.Step e (c.request now id).2 := by
  rw [request]
  split
  · exact .asked now c.focused (h ‹_›)
  · exact .shown c.focused

/-- **Every event is such a step.** -/
theorem step_after (c : Checker) (e : Event) : c.Step e (c.after e) := by
  cases e with
  | start rules => exact .start rules
  | stop => exact .stop
  | setDelay delay => exact .setDelay delay
  | focus now id =>
    rw [after, focus]
    dsimp only
    split
    · exact .asked now (some id) ⟨‹_›, rfl⟩
    · exact .shown (some id)
  | saved now id =>
    rw [after, saved]
    split
    · rename_i hguard
      rw [Bool.and_eq_true, beq_iff_eq] at hguard
      exact .asked now c.focused ⟨hguard.1, hguard.2, rfl⟩
    · exact .shown c.focused
  | closed id => exact .closed id
  | request now id => exact step_request now fun hactive => ⟨hactive, rfl⟩
  | requestFocused now =>
    rw [after, requestFocused]
    split
    · exact .shown c.focused
    · exact step_request now fun hactive => ⟨hactive, ‹_›⟩
  | runDue now => exact .runDue now
  | runAll => exact .runAll
  | fix id d => exact .fix id d
  | openDocument id text => exact .outside _ rfl
  | closeDocument id => exact .outside _ rfl
  | setText id text =>
    refine .outside _ ?_
    rw [Workspace.setText]
    split <;> rfl
  | setReadOnly on => exact .outside _ rfl
  | edit id r text =>
    rw [after]
    split
    · rename_i w hedit
      obtain ⟨-, b, -, -, rfl⟩ := Workspace.edit_eq_ok_iff.1 hedit
      exact .outside _ rfl
    · exact .shown c.focused

/-! ## The invariant -/

/-- What holds of a checker between events. -/
structure Sound (c : Checker) : Prop where
  /-- The scheduler is sound. -/
  scheduler : c.scheduler.Sound
  /-- What waits for a document is its check. -/
  work : ∀ id w, c.scheduler.window? id = some w → w.work = CheckState.run id

theorem sound_withDelay (workspace : Workspace) (delay : Duration) :
    (withDelay workspace delay).Sound :=
  ⟨Scheduler.sound_withDelay delay, fun id w hw => by simp [Scheduler.window?, withDelay,
    Scheduler.withDelay] at hw⟩

/-- The invariant is about the scheduler alone. -/
theorem Sound.of_scheduler_eq (hc : c.Sound) {c' : Checker} (h : c'.scheduler = c.scheduler) :
    c'.Sound := ⟨h ▸ hc.scheduler, h ▸ hc.work⟩

theorem Sound.schedule (hc : c.Sound) (now : Instant) (id : DocumentId) :
    (c.schedule now id).Sound where
  scheduler := hc.scheduler.schedule now id _
  work other w hw := by
    rw [Checker.schedule, Scheduler.window?_schedule] at hw
    split at hw
    · rename_i heq
      rw [← Option.some_inj.1 hw, heq]
    · exact hc.work other w hw

theorem Sound.of_window?_eq_none {c' : Checker} (hs : c'.scheduler.Sound)
    (h : ∀ id, c'.scheduler.window? id = none) : c'.Sound :=
  ⟨hs, fun id w hw => by simp [h] at hw⟩

/-- Windows that were open before keep their work. -/
theorem Sound.of_window?_eq (hc : c.Sound) {c' : Checker} (hs : c'.scheduler.Sound)
    (h : ∀ id w, c'.scheduler.window? id = some w → c.scheduler.window? id = some w) : c'.Sound :=
  ⟨hs, fun id w hw => hc.work id w (h id w hw)⟩

/-! ## Reports

A run leaves its results in the table of handles, and the reports take them out from there, one
after the other.  Taking a result changes the table, so the lemma is an induction in which the
handles still to be taken are unaffected; for this they have to be different. -/

theorem takeReports_cons {id : DocumentId} {handle : Handle} {a : CheckResult}
    {completed : List (DocumentId × Handle)} {s : Scheduler CheckState CheckResult}
    (h : (s.take handle).1 = some a) :
    takeReports ((id, handle) :: completed) s =
      (⟨id, a⟩ :: (takeReports completed (s.take handle).2).1,
        (takeReports completed (s.take handle).2).2) := by
  rw [takeReports]
  simp only [h]

/-- The handles of what ran show the results, so every result is reported, and what waits still
waits. -/
theorem takeReports_spec :
    ∀ (completed : List (DocumentId × Handle)) (s : Scheduler CheckState CheckResult)
      (results : List CheckResult), (completed.map (·.2)).Nodup →
      completed.map (fun j => s.slots.get j.2) = results.map (fun a => .resolved (some a)) →
      s.Sound →
      ∃ s', takeReports completed s = (List.zipWith Report.mk (completed.map (·.1)) results, s') ∧
        s'.Sound ∧ s'.delay = s.delay ∧ s'.pending = s.pending
  | [], s, _, _, _, hs => ⟨s, rfl, hs, rfl, rfl⟩
  | (id, h) :: completed, s, [], _, hget, _ => by simp at hget
  | (id, h) :: completed, s, a :: results, hnodup, hget, hs => by
    rw [List.map_cons, List.nodup_cons] at hnodup
    rw [List.map_cons, List.map_cons, List.cons.injEq] at hget
    have htake : (s.take h).1 = some a := by
      rw [Scheduler.take, Slots.take_of_resolved hget.1]
    have hrest : completed.map (fun j => (s.take h).2.slots.get j.2) =
        results.map (fun a => .resolved (some a)) := by
      rw [← hget.2]
      refine List.map_congr_left fun j hj => Slots.get_take_of_ne _ fun heq => hnodup.1 ?_
      exact List.mem_map.2 ⟨j, hj, heq.symm⟩
    obtain ⟨s', htail, hsound, hdelay, hpending⟩ :=
      takeReports_spec completed (s.take h).2 results hnodup.2 hrest (hs.take h)
    exact ⟨s', by rw [takeReports_cons htake, htail]; rfl, hsound, hdelay, hpending⟩

/-! ## Checks one after the other

`checkEach` is what a run comes to, without scheduler and handles: a list of documents, and a state
that goes through their checks.  Everything later on is an induction on such a list. -/

/-- The checks of documents, one after the other: their results, and the state they leave. -/
def checkEach (ids : List DocumentId) (state : CheckState) : List CheckResult × CheckState :=
  Work.each (ids.map CheckState.run) state

/-- What each check keeps, all of them keep. -/
theorem checkEach_keeps {P : CheckState → Prop} {ids : List DocumentId} {state : CheckState}
    (hrun : ∀ id ∈ ids, ∀ s, P s → P (CheckState.run id s).2) (hstate : P state) :
    P (checkEach ids state).2 := by
  refine Work.each_keeps _ _ (fun work hwork => ?_) hstate
  obtain ⟨id, hid, rfl⟩ := List.mem_map.1 hwork
  exact hrun id hid

theorem checkEach_frame (ids : List DocumentId) (s : CheckState) :
    (checkEach ids s).2.workspace.documents = s.workspace.documents ∧
      (checkEach ids s).2.workspace.readOnly = s.workspace.readOnly ∧
      (checkEach ids s).2.rules = s.rules := by
  refine checkEach_keeps (P := fun s' => s'.workspace.documents = s.workspace.documents ∧
    s'.workspace.readOnly = s.workspace.readOnly ∧ s'.rules = s.rules) (fun id _ s' h => ?_)
    ⟨rfl, rfl, rfl⟩
  obtain ⟨hdocuments, hreadOnly, hrules⟩ := CheckState.run_frame id s'
  exact ⟨hdocuments.trans h.1, hreadOnly.trans h.2.1, hrules.trans h.2.2⟩

/-- What was checked before makes no difference to the result of a check. -/
theorem checkEach_fst (ids : List DocumentId) (s : CheckState) :
    (checkEach ids s).1 = ids.map fun id => (CheckState.run id s).1 := by
  induction ids generalizing s with
  | nil => rfl
  | cons first ids ih =>
    have hcons : (checkEach (first :: ids) s).1 =
        (CheckState.run first s).1 :: (checkEach ids (CheckState.run first s).2).1 := rfl
    obtain ⟨hdocuments, -, hrules⟩ := CheckState.run_frame first s
    rw [hcons, ih, List.map_cons]
    exact congrArg _ (List.map_congr_left fun id _ => CheckState.run_fst_congr hdocuments hrules)

/-- The checker `c'` is what `c` becomes when the documents `ids` have been checked, one after the
other and with these reports. -/
structure Ran (c : Checker) (ids : List DocumentId) (reports : List Report) (c' : Checker) :
    Prop where
  /-- The invariant is kept. -/
  sound : c'.Sound
  /-- Each check is reported, in order. -/
  reports_eq : reports = List.zipWith Report.mk ids (checkEach ids c.state).1
  /-- The state is that after the checks. -/
  state_eq : c'.state = (checkEach ids c.state).2
  /-- The documents that were checked do not wait any more. -/
  window? : ∀ id, c'.scheduler.window? id =
    if id ∈ ids then none else c.scheduler.window? id
  /-- The delay stays. -/
  delay_eq : c'.scheduler.delay = c.scheduler.delay
  /-- The checker stays active, or inactive. -/
  active_eq : c'.active = c.active
  /-- The document that is shown stays. -/
  focused_eq : c'.focused = c.focused

theorem afterRun_eq {run : Scheduler.Run CheckState CheckResult} {reports : List Report}
    {s : Scheduler CheckState CheckResult}
    (h : takeReports run.completed run.scheduler = (reports, s)) :
    c.afterRun run = (reports, { c with state := run.state, scheduler := s }) := by
  simp only [Checker.afterRun, h]

/-- The jobs of a checker are checks, so a run of them comes to checking their documents. -/
theorem Sound.afterRun (hc : c.Sound) {ids : List DocumentId}
    {jobs : List (Scheduler.Job CheckState CheckResult)} (hids : jobs.map (·.1) = ids)
    (hjobs : c.scheduler.Jobs jobs) {s' : Scheduler CheckState CheckResult}
    (hran : c.scheduler.Ran jobs (Work.each (jobs.map (·.2.work)) c.state).1 s') :
    ∃ reports c', c.afterRun ⟨s', (Work.each (jobs.map (·.2.work)) c.state).2,
        jobs.map fun j => (j.1, j.2.handle)⟩ = (reports, c') ∧ c.Ran ids reports c' := by
  have hworks : jobs.map (·.2.work) = ids.map CheckState.run := by
    rw [← hids, List.map_map]
    exact List.map_congr_left fun j hj => hc.work j.1 j.2 (hjobs.window? j hj)
  rw [hworks] at hran ⊢
  have hnodup := hjobs.handles_nodup hc.scheduler
  obtain ⟨s'', htake, hsound, hdelay, hpending⟩ := takeReports_spec
    (jobs.map fun j => (j.1, j.2.handle)) s' (Work.each (ids.map CheckState.run) c.state).1
    (by rw [List.map_map]; exact hnodup) (by rw [List.map_map]; exact hran.settled) hran.sound
  have hwindow : ∀ id, s''.window? id = if id ∈ ids then none else c.scheduler.window? id := by
    intro id
    rw [Scheduler.window?, hpending, ← hids, ← hran.window?, Scheduler.window?]
  refine ⟨_, _, afterRun_eq htake, hc.of_window?_eq hsound fun id w hw => ?_, ?_, rfl, hwindow,
    hdelay.trans hran.delay, rfl, rfl⟩
  · rw [hwindow] at hw
    split at hw
    · simp at hw
    · exact hw
  · rw [List.map_map, ← hids]
    rfl

/-- **Running what is due** checks the documents that are due. -/
theorem Sound.runDue (hc : c.Sound) (now : Instant) :
    c.Ran (c.scheduler.due now) (c.runDue now).1 (c.runDue now).2 := by
  obtain ⟨jobs, s', hids, hjobs, hrun, hran⟩ := Scheduler.runDue_spec hc.scheduler now c.state
  obtain ⟨reports, c', hafter, h⟩ := hc.afterRun hids hjobs hran
  rw [Checker.runDue, hrun, hafter]
  exact h

/-- **Running everything** checks the documents that wait, by name. -/
theorem Sound.runAll (hc : c.Sound) :
    c.Ran c.scheduler.pending.sortedNames c.runAll.1 c.runAll.2 := by
  obtain ⟨jobs, s', hids, hjobs, hrun, hran⟩ := Scheduler.runAll_spec hc.scheduler c.state
  obtain ⟨reports, c', hafter, h⟩ := hc.afterRun hids hjobs hran
  rw [Checker.runAll, hrun, hafter]
  exact h

/-! ## Every event keeps the invariant -/

theorem Sound.step (hc : c.Sound) {e : Event} (h : c.Step e c') : c'.Sound := by
  cases h with
  | start rules => exact hc.of_scheduler_eq rfl
  | stop => exact .of_window?_eq_none (Scheduler.sound_dropAll _) (Scheduler.window?_dropAll _)
  | setDelay delay =>
    exact hc.of_window?_eq (hc.scheduler.setDelay delay) fun id w hw => hw
  | asked now focused _ =>
    have hshown : ({ c with focused } : Checker).Sound := hc.of_scheduler_eq rfl
    exact hshown.schedule now _
  | shown focused => exact hc.of_scheduler_eq rfl
  | closed id =>
    refine hc.of_window?_eq (hc.scheduler.cancel id) fun other w hw => ?_
    rw [closed] at hw
    dsimp only at hw
    rw [hc.scheduler.window?_cancel] at hw
    split at hw
    · simp at hw
    · exact hw
  | runDue now => exact (hc.runDue now).sound
  | runAll => exact hc.runAll.sound
  | fix id d => exact hc.of_scheduler_eq (c.fix_frame id d).1
  | outside w _ => exact hc.of_scheduler_eq rfl

theorem Sound.after (hc : c.Sound) (e : Event) : (c.after e).Sound := hc.step (c.step_after e)

theorem Sound.afterAll (hc : c.Sound) (events : List Event) : (c.afterAll events).Sound :=
  afterAll_induction (fun _ e hc => hc.after e) hc events

end Checker
end Proofreader
