import Mathlib.Data.List.Permutation
import Proofreader.Proofs.Schedule.Ticks

/-!
# In which order work runs

A scheduler keeps its documents in the order in which they came, and could as well keep them in any
other: before anything runs, what is to run is sorted, and the sorted list is the only one.

* `Scheduler.Rearranged` — the same documents in another order.  Every operation keeps it
  (`Rearranged.after`), so no history shows in which order documents are kept.
* `SameRun` — runs of which the same can be seen; `Rearranged.runEach` is the induction behind it.
* `Job.DueBefore` — the order of jobs: by time, and by document at the same time.  That it is strict
  is why it leaves nothing open (`pairwise_due`).
* `RunsJobs` — what is said of a run of jobs.
* `runs_in_order` — the two kinds of runs, of every scheduler that can come about, are runs of just
  the jobs that they should be, in order.

A table that hashes its keys goes through them in an order that may change from one start of a
program to the next.  `Rearranged` is any such change: the entries of the one scheduler are a
permutation of those of the other, while delay and handles are the same.  It is a congruence.  What
looks a document up by its name finds the same, what changes one entry changes the same, and what
goes through all entries either sorts them first or does steps that commute.  Dropping everything is
of the last kind: it cancels handle after handle, and two cancellations can be exchanged
(`Slots.cancel_comm`).

That what runs is in order is said of jobs, that is of documents with their windows, rather than of
names, so that the deadline can be mentioned.  The program sorts pairs of a time and a document;
that the time of such a pair is that of the window is the step in `pairwise_due`.  The order is
strict because the names of jobs are different, so the list of jobs is determined by the set of
them, and the theorem says which set it is.

Nothing is said about when a caller asks, nor about how the entries came to be in the order in which
they are.
-/

set_option autoImplicit false

namespace Proofreader

variable {σ α : Type}

/-- Handles of which one is cancelled after the other do not show in which order. -/
theorem Slots.cancel_comm (slots : Slots α) (h other : Handle) :
    (slots.cancel h).cancel other = (slots.cancel other).cancel h := by
  rw [cancel, cancel, cancel, cancel, set, set, set, set, mk.injEq]
  by_cases heq : h.index = other.index
  · rw [heq]
  · exact List.set_comm _ _ heq

namespace Scheduler

variable {s s' : Scheduler σ α}

/-! ## Documents in another order

One lemma for each operation, all of the same form: the answer is the same, and what is left is
rearranged. -/

/-- The scheduler `s'` keeps what `s` keeps, in any order. -/
structure Rearranged (s s' : Scheduler σ α) : Prop where
  /-- The delay is the same. -/
  delay_eq : s'.delay = s.delay
  /-- The debouncers are the same. -/
  entries_perm : s'.pending.entries.Perm s.pending.entries
  /-- The handles show the same. -/
  slots_eq : s'.slots = s.slots

theorem Rearranged.find?_eq (h : s.Rearranged s') (id : DocumentId) :
    s'.pending.find? id = s.pending.find? id := Registry.find?_of_perm h.entries_perm id

theorem Rearranged.window?_eq (h : s.Rearranged s') (id : DocumentId) :
    s'.window? id = s.window? id := by rw [window?, h.find?_eq, window?]

theorem Rearranged.sound (h : s.Rearranged s') (hs : s.Sound) : s'.Sound :=
  hs.of_subset (fun id _ => h.find?_eq id) fun id w _ => by rw [h.slots_eq]

/-- Sorting forgets the order in which documents are kept. -/
theorem Rearranged.due_eq (h : s.Rearranged s') (now : Instant) : s'.due now = s.due now := by
  have hperm : (s'.deadlines.filter fun entry => decide (entry.1 ≤ now)).Perm
      (s.deadlines.filter fun entry => decide (entry.1 ≤ now)) :=
    (h.entries_perm.filterMap _).filter _
  have hsorted := List.pairwise_mergeSort dueBefore_trans dueBefore_total
  rw [due, due]
  refine congrArg _ (List.Perm.eq_of_pairwise (fun a b _ _ => dueBefore_antisymm a b)
    (hsorted _) (hsorted _) ?_)
  exact (List.mergeSort_perm _ _).trans (hperm.trans (List.mergeSort_perm _ _).symm)

/-- Runs that hand out the same documents with the same handles, and leave the same. -/
structure SameRun (run run' : Run σ α) : Prop where
  /-- The same documents are kept, and their handles show the same. -/
  scheduler : run.scheduler.Rearranged run'.scheduler
  /-- The state is the same. -/
  state_eq : run'.state = run.state
  /-- The same has run, in the same order. -/
  completed_eq : run'.completed = run.completed

/-- So the handles of what has run show the same. -/
theorem SameRun.results_eq {run run' : Run σ α} (h : SameRun run run') :
    run'.results = run.results := by
  rw [Run.results, Run.results, h.completed_eq, h.scheduler.slots_eq]

/-- **A run of documents** does not depend on where they are kept.  By induction on the documents:
each is found with the same debouncer, and what remains when it is taken out is the same again. -/
theorem Rearranged.runEach (deliver : Debouncer σ α → Slots α → σ → Debouncer.Delivery σ α)
    (ids : List DocumentId) (h : s.Rearranged s') (state : σ) :
    SameRun (Scheduler.runEach deliver ids s state) (Scheduler.runEach deliver ids s' state) := by
  induction ids generalizing s s' state with
  | nil => exact ⟨h, rfl, rfl⟩
  | cons id ids ih =>
    rw [Scheduler.runEach, Scheduler.runEach, h.find?_eq, h.slots_eq]
    cases s.pending.find? id with
    | none => exact ih h state
    | some d =>
      dsimp only
      have hrest : Rearranged
          { s with pending := s.pending.erase id, slots := (deliver d s.slots state).slots }
          { s' with pending := s'.pending.erase id, slots := (deliver d s.slots state).slots } :=
        ⟨h.delay_eq, Registry.erase_perm h.entries_perm id, rfl⟩
      obtain ⟨hscheduler, hstate, hcompleted⟩ := ih hrest (deliver d s.slots state).state
      split
      · exact ⟨hscheduler, hstate, by rw [hcompleted]⟩
      · exact ⟨hscheduler, hstate, hcompleted⟩

theorem Rearranged.runDue (h : s.Rearranged s') (now : Instant) (state : σ) :
    SameRun (s.runDue now state) (s'.runDue now state) := by
  rw [Scheduler.runDue, Scheduler.runDue, h.due_eq]
  exact h.runEach _ _ state

theorem Rearranged.runAll (h : s.Rearranged s') (state : σ) :
    SameRun (s.runAll state) (s'.runAll state) := by
  rw [Scheduler.runAll, Scheduler.runAll, Registry.sortedNames_of_perm h.entries_perm]
  exact h.runEach _ _ state

theorem Rearranged.schedule (h : s.Rearranged s') (now : Instant) (id : DocumentId)
    (work : Work σ α) :
    (s'.schedule now id work).1 = (s.schedule now id work).1 ∧
      (s.schedule now id work).2.Rearranged (s'.schedule now id work).2 := by
  rw [Scheduler.schedule, Scheduler.schedule, h.find?_eq, h.slots_eq, h.delay_eq]
  exact ⟨rfl, rfl, Registry.insert_perm h.entries_perm id _, rfl⟩

theorem Rearranged.cancel (h : s.Rearranged s') (id : DocumentId) :
    (s'.cancel id).1 = (s.cancel id).1 ∧ (s.cancel id).2.Rearranged (s'.cancel id).2 := by
  rw [Scheduler.cancel, Scheduler.cancel, h.find?_eq, h.slots_eq]
  cases s.pending.find? id with
  | none => exact ⟨rfl, h⟩
  | some d => exact ⟨rfl, h.delay_eq, Registry.erase_perm h.entries_perm id, rfl⟩

/-- Debouncers that are cancelled one after the other do not show in which order. -/
theorem cancelEach_of_perm {entries entries' : List (DocumentId × Debouncer σ α)}
    (h : entries'.Perm entries) (slots : Slots α) :
    cancelEach slots entries' = cancelEach slots entries := by
  induction h generalizing slots with
  | nil => rfl
  | cons entry _ ih =>
    rw [cancelEach, cancelEach]
    exact ih _
  | swap first second rest =>
    rw [cancelEach, cancelEach, cancelEach, cancelEach]
    refine congrArg (cancelEach · rest) ?_
    simp only [Debouncer.cancel]
    cases first.2.window with
    | none => rfl
    | some v =>
      cases second.2.window with
      | none => rfl
      | some w => exact Slots.cancel_comm slots w.handle v.handle
  | trans _ _ ih ih' => exact (ih slots).trans (ih' slots)

theorem Rearranged.dropAll (h : s.Rearranged s') : s.dropAll.Rearranged s'.dropAll := by
  refine ⟨h.delay_eq, .refl _, ?_⟩
  rw [Scheduler.dropAll, Scheduler.dropAll, h.slots_eq]
  exact cancelEach_of_perm h.entries_perm s.slots

/-- **Every operation** leaves the same documents. -/
theorem Rearranged.after (h : s.Rearranged s') (m : Move σ α) :
    (s.after m).Rearranged (s'.after m) := by
  cases m with
  | schedule now id work => exact (h.schedule now id work).2
  | setDelay delay => exact ⟨rfl, h.entries_perm, h.slots_eq⟩
  | runDue now state => exact (h.runDue now state).scheduler
  | runAll state => exact (h.runAll state).scheduler
  | cancel id => exact (h.cancel id).2
  | dropAll => exact h.dropAll

theorem Rearranged.afterAll (h : s.Rearranged s') (history : List (Move σ α)) :
    (history.foldl Scheduler.after s).Rearranged (history.foldl Scheduler.after s') := by
  induction history generalizing s s' with
  | nil => exact h
  | cons m history ih => exact ih (h.after m)

/-! ## Jobs in order

The work of a run is done one piece after the other on one state, so the order is not only a matter
of what is told first: it decides what each piece of work finds. -/

/-- A job comes before another one: by time, then by document. -/
def Job.DueBefore (i j : Job σ α) : Prop :=
  i.2.deadline < j.2.deadline ∨ i.2.deadline = j.2.deadline ∧ i.1 < j.1

/-- What a run of jobs on a state is. -/
structure RunsJobs (s : Scheduler σ α) (jobs : List (Job σ α)) (state : σ) (run : Run σ α) :
    Prop where
  /-- The work of each job is done once, in this order, and nothing else is done. -/
  state_eq : run.state = (Work.each (jobs.map (·.2.work)) state).2
  /-- Their documents are told in this order, with their handles. -/
  completed_eq : run.completed = jobs.map fun j => (j.1, j.2.handle)
  /-- These handles show the results.  The documents are gone, and no other; what is left waits as
  it did. -/
  ran : s.Ran jobs (Work.each (jobs.map (·.2.work)) state).1 run.scheduler

/-- The jobs of some documents are the windows of these. -/
theorem Jobs.mem_iff {jobs : List (Job σ α)} (hjobs : s.Jobs jobs) {j : Job σ α} :
    j ∈ jobs ↔ s.window? j.1 = some j.2 ∧ j.1 ∈ jobs.map (·.1) := by
  constructor
  · intro hj
    exact ⟨hjobs.window? j hj, List.mem_map_of_mem hj⟩
  · rintro ⟨hwindow, hmem⟩
    obtain ⟨i, hi, heq⟩ := List.mem_map.1 hmem
    have hsame := hjobs.window? i hi
    rw [heq, hwindow, Option.some_inj] at hsame
    rwa [Prod.ext heq hsame.symm] at hi

/-- The jobs of what is due come in order: their times are those by which it was sorted. -/
theorem pairwise_due {jobs : List (Job σ α)} (hjobs : s.Jobs jobs) {now : Instant}
    (hids : jobs.map (·.1) = s.due now) : jobs.Pairwise Job.DueBefore := by
  -- what is sorted are pairs of a time and a document, and the time is that of the window
  let time (id : DocumentId) : Instant × DocumentId :=
    (((s.window? id).map (·.deadline)).getD 0, id)
  have hsorted : s.due now = ((s.deadlines.filter fun entry => decide (entry.1 ≤ now)).mergeSort
      dueBefore).map (·.2) := rfl
  generalize hentries : (s.deadlines.filter fun entry => decide (entry.1 ≤ now)).mergeSort
    dueBefore = entries at hsorted
  have hpairwise : entries.Pairwise fun a b => dueBefore a b = true :=
    hentries ▸ List.pairwise_mergeSort dueBefore_trans dueBefore_total _
  have htimes : entries.map (fun entry => time entry.2) = entries := by
    refine (List.map_congr_left fun entry hentry => ?_).trans (List.map_id' entries)
    rw [← hentries, List.mem_mergeSort] at hentry
    obtain ⟨w, hw, hdeadline⟩ := mem_deadlines.1 (List.mem_filter.1 hentry).1
    show (((s.window? entry.2).map (·.deadline)).getD 0, entry.2) = entry
    rw [hw, Option.map_some, Option.getD_some, hdeadline]
  have hjobtimes : jobs.map (fun j => time j.1) = entries := by
    calc jobs.map (fun j => time j.1)
      _ = (jobs.map (·.1)).map time := by rw [List.map_map]; rfl
      _ = (entries.map (·.2)).map time := by rw [hids, hsorted]
      _ = entries := by rw [List.map_map]; exact htimes
  rw [← hjobtimes, List.pairwise_map] at hpairwise
  refine (hpairwise.and (List.pairwise_map.1 hjobs.nodup)).imp_of_mem ?_
  rintro i j hi hj ⟨hbefore, hne⟩
  have htime : ∀ j ∈ jobs, time j.1 = (j.2.deadline, j.1) := by
    intro j hj
    show (((s.window? j.1).map (·.deadline)).getD 0, j.1) = _
    rw [hjobs.window? j hj]
    rfl
  rw [htime i hi, htime j hj, dueBefore_iff] at hbefore
  rcases hbefore with hlt | ⟨heq, hle⟩
  · exact .inl hlt
  · exact .inr ⟨heq, String.not_le.1 fun hge => hne (String.le_antisymm hle hge)⟩

/-- **Work runs in order.**  Take a scheduler that can come about, and keep its documents in any
order.  A run of what is due does the work of just the documents whose time has come, once each, by
time and then by document; a run of everything does that of all documents that wait, by document.
Either tells the documents in this order, each with its handle, which shows the result; these
documents are gone, and all others wait as they did.  The order in which documents are kept cannot
be seen, now or after any history. -/
theorem runs_in_order (hs : s.Reachable) (h : s.Rearranged s') (state : σ) :
    (∀ now, ∃ jobs : List (Job σ α),
      (∀ j, j ∈ jobs ↔ s.window? j.1 = some j.2 ∧ j.2.deadline ≤ now) ∧
        jobs.Pairwise Job.DueBefore ∧ s'.RunsJobs jobs state (s'.runDue now state) ∧
        SameRun (s.runDue now state) (s'.runDue now state)) ∧
      (∃ jobs : List (Job σ α), (∀ j, j ∈ jobs ↔ s.window? j.1 = some j.2) ∧
        jobs.Pairwise (fun i j => i.1 < j.1) ∧ s'.RunsJobs jobs state (s'.runAll state) ∧
        SameRun (s.runAll state) (s'.runAll state)) ∧
      ∀ history : List (Move σ α),
        (history.foldl after s).Rearranged (history.foldl after s') := by
  have hs' := h.sound hs.sound
  refine ⟨fun now => ?_, ?_, h.afterAll⟩
  · obtain ⟨jobs, left, hids, hjobs, hrun, hran⟩ := runDue_spec hs' now state
    refine ⟨jobs, fun j => ?_, pairwise_due hjobs hids, ?_, h.runDue now state⟩
    · rw [hjobs.mem_iff, hids, mem_due, h.window?_eq]
      constructor
      · rintro ⟨hwindow, w, hw, hdue⟩
        rw [hwindow, Option.some_inj] at hw
        exact ⟨hwindow, hw ▸ hdue⟩
      · rintro ⟨hwindow, hdue⟩
        exact ⟨hwindow, j.2, hwindow, hdue⟩
    · rw [hrun]
      exact ⟨rfl, rfl, hran⟩
  · obtain ⟨jobs, left, hids, hjobs, hrun, hran⟩ := runAll_spec hs' state
    refine ⟨jobs, fun j => ?_, ?_, ?_, h.runAll state⟩
    · rw [hjobs.mem_iff, hids, Registry.mem_sortedNames, hs'.find?_isSome_iff, h.window?_eq]
      exact ⟨fun hj => hj.1, fun hwindow => ⟨hwindow, by rw [hwindow]; rfl⟩⟩
    · have hsorted := s'.pending.sortedNames_pairwise
      rw [← hids, List.pairwise_map] at hsorted
      refine (hsorted.and (List.pairwise_map.1 hjobs.nodup)).imp ?_
      rintro i j ⟨hle, hne⟩
      exact String.not_le.1 fun hge => hne (String.le_antisymm hle hge)
    · rw [hrun]
      exact ⟨rfl, rfl, hran⟩

/-- The work of three documents, kept in the order `a`, `b`, `c` or in that of the calls.  What came
first is due last, and of two that are due at once `a` comes first. -/
theorem runs_in_order_c_b_a :
    let work (name : String) : Work (List String) Nat := fun log => (log.length, log ++ [name])
    let s := ofHistory 10
      [.schedule 5 "c" (work "c"), .schedule 0 "b" (work "b"), .schedule 0 "a" (work "a")]
    let s' : Scheduler (List String) Nat := { s with
      pending := ⟨s.pending.entries.reverse,
        ((List.reverse_perm _).map _).nodup_iff.2 s.pending.nodup⟩ }
    s.Reachable ∧ s.Rearranged s' ∧
      s.pending.names = ["c", "b", "a"] ∧ s'.pending.names = ["a", "b", "c"] ∧
      (s'.runDue 12 []).state = ["a", "b"] ∧
      (s'.runDue 12 []).results = [("a", .resolved (some 0)), ("b", .resolved (some 1))] ∧
      ((s'.runDue 12 []).scheduler.window? "c").map (·.deadline) = some 15 ∧
      (s'.runAll []).state = ["a", "b", "c"] := by
  intro work s s'
  have hs : s.Reachable :=
    .after (.schedule 0 "a" (work "a")) (.after (.schedule 0 "b" (work "b"))
      (.after (.schedule 5 "c" (work "c")) (.new 10)))
  have h : s.Rearranged s' := ⟨rfl, List.reverse_perm _, rfl⟩
  obtain ⟨hdue, ⟨-, -, -, -, hall⟩, -⟩ := runs_in_order hs h []
  obtain ⟨-, -, -, -, htwelve⟩ := hdue 12
  refine ⟨hs, h, by decide +kernel, by decide +kernel, ?_, ?_, ?_, ?_⟩
  · rw [htwelve.state_eq]
    cbv
  · rw [htwelve.results_eq]
    cbv
  · rw [htwelve.scheduler.window?_eq]
    cbv
  · rw [hall.state_eq]
    cbv

end Scheduler
end Proofreader
