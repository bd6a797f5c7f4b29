import Proofreader.Proofs.Schedule.Windows

/-!
# What a run does

`Scheduler.runDue` and `Scheduler.runAll` go through documents one by one: take out, run the work,
settle the handle.  `Scheduler.runEach_spec` says what such a run comes to, all at once: the pieces
of work are done one after the other on the state (`Work.each`), each handle shows the result of its
work, the documents that ran are gone, and everything else is as it was (`Scheduler.Ran`).

The documents of a run come with their windows, as a list of *jobs*; `runDue_spec` and `runAll_spec`
say whose jobs they are.

The list of a run is made before anything runs, while its documents are taken out one after the
other.  So it has to be known that a document of the list is still there, with the same window, when
its turn comes.  This is the induction of `runEach_spec`: the job that runs takes out its own entry
and writes to its own handle, the jobs behind it are of other documents and wait on other handles,
hence they are jobs of the scheduler that is left, and this scheduler is sound again.  A scheduler
in which two windows shared a handle would settle the second by running the first.

The work itself may be anything.  It is a function of the state, it gets nothing of the scheduler,
and so it cannot schedule, cancel or run other work while it runs.

The two kinds of runs differ in their lists and in how a debouncer is made to deliver.  A poll
delivers only if it is time, which it is for what is due, and a delivery at once always does;
`Delivers` is what the induction needs of either.
-/

set_option autoImplicit false

namespace Proofreader

variable {σ α : Type}

/-- Pieces of work done one after the other: their results, and the state they leave. -/
def Work.each : List (Work σ α) → σ → List α × σ
  | [], state => ([], state)
  | work :: more, state =>
    let (a, state) := work state
    let (results, state) := Work.each more state
    (a :: results, state)

theorem Work.length_each (works : List (Work σ α)) (state : σ) :
    (Work.each works state).1.length = works.length := by
  induction works generalizing state with
  | nil => rfl
  | cons work works ih => exact congrArg Nat.succ (ih (work state).2)

/-- What each piece of work keeps, all of them keep. -/
theorem Work.each_keeps {P : σ → Prop} :
    ∀ (works : List (Work σ α)) (state : σ),
      (∀ work ∈ works, ∀ state, P state → P (work state).2) → P state →
      P (Work.each works state).2
  | [], _, _, hstate => hstate
  | work :: works, state, hworks, hstate => by
    obtain ⟨hwork, hworks⟩ := List.forall_mem_cons.1 hworks
    exact Work.each_keeps works (work state).2 hworks (hwork state hstate)

namespace Scheduler

/-- A document with the window that is open for it. -/
abbrev Job (σ α : Type) := DocumentId × Window σ α

/-- The jobs are windows of the scheduler, no document twice. -/
structure Jobs (s : Scheduler σ α) (jobs : List (Job σ α)) : Prop where
  /-- No document occurs twice. -/
  nodup : (jobs.map (·.1)).Nodup
  /-- The windows are open. -/
  window? : ∀ j ∈ jobs, s.window? j.1 = some j.2

/-- The scheduler `s'` is what `s` becomes when jobs have run, with their results. -/
structure Ran (s : Scheduler σ α) (jobs : List (Job σ α)) (results : List α)
    (s' : Scheduler σ α) : Prop where
  /-- The invariant is kept. -/
  sound : s'.Sound
  /-- The delay stays. -/
  delay : s'.delay = s.delay
  /-- The documents that ran are gone, and no other. -/
  find? : ∀ id, s'.pending.find? id = if id ∈ jobs.map (·.1) then none else s.pending.find? id
  /-- Their handles show the results. -/
  settled : jobs.map (fun j => s'.slots.get j.2.handle) =
    results.map fun a => HandleState.resolved (some a)
  /-- All other handles show what they did. -/
  others : ∀ h, (∀ j ∈ jobs, j.2.handle ≠ h) → s'.slots.get h = s.slots.get h

variable {s s' : Scheduler σ α} {jobs : List (Job σ α)}

theorem Ran.window? {results : List α} (h : s.Ran jobs results s') (id : DocumentId) :
    s'.window? id = if id ∈ jobs.map (·.1) then none else s.window? id := by
  rw [Scheduler.window?, h.find?]
  split <;> rfl

/-- Jobs have different handles. -/
theorem Jobs.handles_nodup (hs : s.Sound) (hjobs : s.Jobs jobs) :
    (jobs.map (·.2.handle)).Nodup := by
  rw [List.Nodup, List.pairwise_map]
  refine (List.pairwise_map.1 hjobs.nodup).imp_of_mem fun hi hj hne heq => hne ?_
  exact hs.distinct _ _ _ _ (hjobs.window? _ hi) (hjobs.window? _ hj) heq

/-- Every list of documents that have a window is that of some jobs. -/
theorem exists_jobs {ids : List DocumentId} (hnodup : ids.Nodup)
    (h : ∀ id ∈ ids, (s.window? id).isSome = true) :
    ∃ jobs, jobs.map (·.1) = ids ∧ s.Jobs jobs := by
  suffices ∃ jobs : List (Job σ α), jobs.map (·.1) = ids ∧ ∀ j ∈ jobs, s.window? j.1 = some j.2 by
    obtain ⟨jobs, hids, hwindow⟩ := this
    exact ⟨jobs, hids, by rw [hids]; exact hnodup, hwindow⟩
  clear hnodup
  induction ids with
  | nil => exact ⟨[], rfl, by simp⟩
  | cons id ids ih =>
    obtain ⟨hid, hids⟩ := List.forall_mem_cons.1 h
    obtain ⟨w, hw⟩ := Option.isSome_iff_exists.1 hid
    obtain ⟨jobs, rfl, hjobs⟩ := ih hids
    exact ⟨(id, w) :: jobs, rfl, List.forall_mem_cons.2 ⟨hw, hjobs⟩⟩

/-! ## One job after the other

`Delivers` is asked of the jobs of the run and not of every debouncer: a poll at the time of the run
does not deliver what is due later. -/

/-- The way in which a run has work done: the work of these jobs is delivered. -/
def Delivers (deliver : Debouncer σ α → Slots α → σ → Debouncer.Delivery σ α)
    (jobs : List (Job σ α)) : Prop :=
  ∀ j ∈ jobs, ∀ d : Debouncer σ α, d.window = some j.2 →
    ∀ slots state, deliver d slots state = d.deliver slots state j.2

/-- One job: its document is taken out, its work is done and its handle shows the result. -/
theorem runEach_cons {deliver : Debouncer σ α → Slots α → σ → Debouncer.Delivery σ α}
    {j : Job σ α} {ids : List DocumentId} {state : σ} (hj : s.window? j.1 = some j.2)
    (hdeliver : ∀ d : Debouncer σ α, d.window = some j.2 →
      ∀ slots state, deliver d slots state = d.deliver slots state j.2) :
    runEach deliver (j.1 :: ids) s state =
      let run := runEach deliver ids
        { s with
          pending := s.pending.erase j.1
          slots := s.slots.resolve j.2.handle (j.2.work state).1 } (j.2.work state).2
      { run with completed := (j.1, j.2.handle) :: run.completed } := by
  obtain ⟨d, hd, hdw⟩ := window?_eq_some_iff.1 hj
  rw [runEach, hd]
  simp only [hdeliver d hdw, Debouncer.deliver]

/-- **What a run comes to.**  By induction on the jobs: the windows of those to come are untouched
by the job that runs, since they are of other documents and have other handles. -/
theorem runEach_spec (deliver : Debouncer σ α → Slots α → σ → Debouncer.Delivery σ α) :
    ∀ (jobs : List (Job σ α)) (s : Scheduler σ α) (state : σ), s.Sound → s.Jobs jobs →
      Delivers deliver jobs →
      ∃ s', runEach deliver (jobs.map (·.1)) s state =
          ⟨s', (Work.each (jobs.map (·.2.work)) state).2, jobs.map fun j => (j.1, j.2.handle)⟩ ∧
        s.Ran jobs (Work.each (jobs.map (·.2.work)) state).1 s'
  | [], s, state, hs, _, _ =>
    ⟨s, rfl, hs, rfl, fun id => by simp, rfl, fun h _ => rfl⟩
  | j :: jobs, s, state, hs, hjobs, hdeliver => by
    obtain ⟨hj, hrest⟩ := List.forall_mem_cons.1 hjobs.window?
    have hnodup := hjobs.nodup
    rw [List.map_cons, List.nodup_cons] at hnodup
    have hhandles := hjobs.handles_nodup hs
    rw [List.map_cons, List.nodup_cons] at hhandles
    have hne : ∀ i ∈ jobs, j.1 ≠ i.1 := fun i hi heq =>
      hnodup.1 (heq ▸ List.mem_map_of_mem hi)
    have hnew : ∀ i ∈ jobs, ({ s with
        pending := s.pending.erase j.1
        slots := s.slots.resolve j.2.handle (j.2.work state).1 } : Scheduler σ α).window? i.1 =
        some i.2 := by
      intro i hi
      rw [Scheduler.window?, Registry.find?_erase, if_neg (hne i hi)]
      exact hrest i hi
    obtain ⟨s', hrun, hran⟩ := runEach_spec deliver jobs _ (j.2.work state).2
      (hs.erase hj (.resolved (some (j.2.work state).1))) ⟨hnodup.2, hnew⟩
      (fun i hi => hdeliver i (List.mem_cons_of_mem _ hi))
    refine ⟨s', ?_, hran.sound, hran.delay, fun id => ?_, ?_, fun h hh => ?_⟩
    · rw [List.map_cons, runEach_cons hj (hdeliver j List.mem_cons_self)]
      dsimp only [Slots.resolve]
      rw [hrun]
      rfl
    · rw [hran.find?, Registry.find?_erase]
      by_cases hid : id = j.1
      · simp [hid]
      · have hmem : id ∈ (j :: jobs).map (·.1) ↔ id ∈ jobs.map (·.1) := by
          rw [List.map_cons, List.mem_cons, or_iff_right hid]
        simp only [hmem, if_neg (Ne.symm hid)]
    · have hself : s'.slots.get j.2.handle = .resolved (some (j.2.work state).1) := by
        rw [hran.others _ fun i hi heq => hhandles.1 (List.mem_map.2 ⟨i, hi, heq⟩)]
        dsimp only
        rw [Slots.get_set_of_pending (hs.waits _ _ hj), if_pos rfl]
      rw [List.map_cons, hself, hran.settled]
      rfl
    · obtain ⟨hjh, hh⟩ := List.forall_mem_cons.1 hh
      rw [hran.others h hh]
      exact Slots.get_set_of_ne _ hjh

/-! ## The table of handles

A run adds no handle, whether or not its documents wait.  It is told apart because it needs no
invariant, and the tables of two runs are compared by their lengths. -/

/-- A run adds no handle. -/
theorem length_runEach {deliver : Debouncer σ α → Slots α → σ → Debouncer.Delivery σ α}
    (hdeliver : ∀ d slots state,
      (deliver d slots state).slots.states.length = slots.states.length) :
    ∀ (ids : List DocumentId) (s : Scheduler σ α) (state : σ),
      (runEach deliver ids s state).scheduler.slots.states.length = s.slots.states.length
  | [], s, state => rfl
  | id :: ids, s, state => by
    rw [runEach]
    split
    · exact length_runEach hdeliver ids s state
    · rename_i dd hd
      have hrest := length_runEach hdeliver ids
        { s with pending := s.pending.erase id, slots := (deliver dd s.slots state).slots }
        (deliver dd s.slots state).state
      rw [hdeliver] at hrest
      dsimp only
      split <;> exact hrest

theorem length_poll (d : Debouncer σ α) (slots : Slots α) (now : Instant) (state : σ) :
    (d.poll slots now state).slots.states.length = slots.states.length := by
  rw [Debouncer.poll]
  split
  · split
    · rfl
    · exact Slots.length_set _ _ _
  · rfl

theorem length_deliverNow (d : Debouncer σ α) (slots : Slots α) (state : σ) :
    (d.deliverNow slots state).slots.states.length = slots.states.length := by
  rw [Debouncer.deliverNow]
  split
  · exact Slots.length_set _ _ _
  · rfl

/-! ## The two kinds of runs

What is due is found among the deadlines and sorted, and everything is found by name.  Of both lists
it is shown that they name each document once, and only documents that have a window. -/

/-- The jobs of a run of everything. -/
theorem exists_jobs_runAll (hs : s.Sound) :
    ∃ jobs, jobs.map (·.1) = s.pending.sortedNames ∧ s.Jobs jobs ∧
      Delivers (fun d slots state => d.deliverNow slots state) jobs := by
  obtain ⟨jobs, hids, hjobs⟩ := exists_jobs (s := s) s.pending.sortedNames_nodup
    (fun id hid => hs.armed id (s.pending.mem_sortedNames.1 hid))
  exact ⟨jobs, hids, hjobs, fun j _ d hd slots state => by simp only [Debouncer.deliverNow, hd]⟩

theorem runAll_spec (hs : s.Sound) (state : σ) :
    ∃ jobs s', jobs.map (·.1) = s.pending.sortedNames ∧ s.Jobs jobs ∧
      s.runAll state =
        ⟨s', (Work.each (jobs.map (·.2.work)) state).2, jobs.map fun j => (j.1, j.2.handle)⟩ ∧
      s.Ran jobs (Work.each (jobs.map (·.2.work)) state).1 s' := by
  obtain ⟨jobs, hids, hjobs, hdeliver⟩ := exists_jobs_runAll hs
  obtain ⟨s', hrun, hran⟩ := runEach_spec _ jobs s state hs hjobs hdeliver
  exact ⟨jobs, s', hids, hjobs, by rw [runAll, ← hids, hrun], hran⟩

theorem mem_deadlines {t : Instant} {id : DocumentId} :
    (t, id) ∈ s.deadlines ↔ ∃ w, s.window? id = some w ∧ w.deadline = t := by
  simp only [deadlines, List.mem_filterMap, Prod.exists, Option.map_eq_some_iff, Prod.mk.injEq,
    Debouncer.deadline, window?_eq_some_iff, ← Registry.find?_eq_some_iff]
  constructor
  · rintro ⟨name, d, hd, t', ⟨w, hw, rfl⟩, rfl, rfl⟩
    exact ⟨w, ⟨d, hd, hw⟩, rfl⟩
  · rintro ⟨w, ⟨d, hd, hw⟩, rfl⟩
    exact ⟨id, d, hd, w.deadline, ⟨w, hw, rfl⟩, rfl, rfl⟩

/-- The documents of deadlines stand in the order in which they are kept. -/
theorem deadlines_names_sublist (s : Scheduler σ α) :
    (s.deadlines.map (·.2)).Sublist s.pending.names := by
  rw [deadlines, Registry.names]
  generalize s.pending.entries = entries
  induction entries with
  | nil => exact List.Sublist.slnil
  | cons entry entries ih =>
    obtain ⟨id, d⟩ := entry
    cases hd : d.deadline with
    | none =>
      rw [List.filterMap_cons_none (by simp [hd])]
      exact ih.cons id
    | some t =>
      rw [List.filterMap_cons_some (b := (t, id)) (by simp [hd])]
      exact ih.cons_cons id

/-- Due is what has a deadline that has come. -/
theorem mem_due {now : Instant} {id : DocumentId} :
    id ∈ s.due now ↔ ∃ w, s.window? id = some w ∧ w.deadline ≤ now := by
  rw [due, List.mem_map]
  simp only [List.mem_mergeSort, List.mem_filter, decide_eq_true_eq, Prod.exists, mem_deadlines]
  constructor
  · rintro ⟨t, name, ⟨⟨w, hw, rfl⟩, ht⟩, rfl⟩
    exact ⟨w, hw, ht⟩
  · rintro ⟨w, hw, ht⟩
    exact ⟨w.deadline, id, ⟨⟨w, hw, rfl⟩, ht⟩, rfl⟩

theorem due_nodup (s : Scheduler σ α) (now : Instant) : (s.due now).Nodup := by
  have hperm := ((List.mergeSort_perm (s.deadlines.filter fun entry => decide (entry.1 ≤ now))
    dueBefore).map (·.2)).nodup_iff
  rw [due, hperm]
  have hsub := (List.filter_sublist (l := s.deadlines)
    (p := fun entry => decide (entry.1 ≤ now))).map (·.2)
  exact (s.pending.nodup.sublist (s.deadlines_names_sublist)).sublist hsub

/-- The jobs of a run of what is due. -/
theorem exists_jobs_runDue (s : Scheduler σ α) (now : Instant) :
    ∃ jobs, jobs.map (·.1) = s.due now ∧ s.Jobs jobs ∧
      Delivers (fun d slots state => d.poll slots now state) jobs := by
  obtain ⟨jobs, hids, hjobs⟩ := exists_jobs (s := s) (s.due_nodup now) (fun id hid => by
    obtain ⟨w, hw, -⟩ := mem_due.1 hid
    rw [hw]
    rfl)
  have hdue : ∀ j ∈ jobs, j.2.deadline ≤ now := by
    intro j hj
    obtain ⟨w, hw, hle⟩ := mem_due.1 (hids ▸ List.mem_map_of_mem hj : j.1 ∈ s.due now)
    rw [hjobs.window? j hj, Option.some_inj] at hw
    exact hw ▸ hle
  exact ⟨jobs, hids, hjobs, fun j hj d hd slots state => by
    simp only [Debouncer.poll, hd, if_neg (Nat.not_lt.2 (hdue j hj))]⟩

theorem runDue_spec (hs : s.Sound) (now : Instant) (state : σ) :
    ∃ jobs s', jobs.map (·.1) = s.due now ∧ s.Jobs jobs ∧
      s.runDue now state =
        ⟨s', (Work.each (jobs.map (·.2.work)) state).2, jobs.map fun j => (j.1, j.2.handle)⟩ ∧
      s.Ran jobs (Work.each (jobs.map (·.2.work)) state).1 s' := by
  obtain ⟨jobs, hids, hjobs, hdeliver⟩ := s.exists_jobs_runDue now
  obtain ⟨s', hrun, hran⟩ := runEach_spec _ jobs s state hs hjobs hdeliver
  exact ⟨jobs, s', hids, hjobs, by rw [runDue, ← hids, hrun], hran⟩

end Scheduler
end Proofreader
