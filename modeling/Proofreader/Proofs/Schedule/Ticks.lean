import Proofreader.Proofs.Schedule.Standalone

/-!
# How often a scheduler is asked does not count

Nothing runs by itself: the owner asks again and again whether the time has come
(`Scheduler.runDue`).  Each time, what is due is sorted anew.  What runs all in all, in which order
and on which state, is nevertheless what runs when the owner asks once, at the latest of the times.

* `due_eq_append` — what is due at a later time is what is due at an earlier one, and behind it what
  is due when that has run.  The order of deadlines is total, so a sorted list is the only one.
* `runEach_append`, `runEach_congr` — a run can be cut anywhere, and asks for no other times than
  those of its documents.
* `followedBy_runDue` — two ticks are one at the later time, whichever that is, for every scheduler.
* `runDue_runDue` — so are their results, and so are many ticks, for those that can come about.

Two things have to come together.  One is about lists: the documents of the single tick are those of
the first tick followed by those of the second.  Deadlines that have come at the earlier time are
before all others in the order by which is sorted, so the sorted list is the sorted list of these
and behind it that of the others (`mergeSort_eq_append`); and what the first run leaves are the
entries of the others, in their old order (`entries_runEach`).  The other is about running: to run a
list of documents is to run its first part and then the rest, in the scheduler and the state that
are left.

The times differ, however.  In the single tick, a document of the first part is polled at the later
time, and in two ticks at the earlier one.  It is due at both, so its work is delivered by either
poll, and the rest of a run does not look at the time (`runEach_congr`).

None of this needs the invariant of schedulers, so the equation between two ticks and one holds of
every scheduler whatever.  Only that the handles of the first tick show the same after the second
one does need it, as a second run could otherwise write to a handle that two documents share.
-/

set_option autoImplicit false

namespace Proofreader
namespace Scheduler

variable {σ α : Type} {s : Scheduler σ α}

/-! ## The order of deadlines

By time, and by name at the same time.  It is total, transitive and antisymmetric, and the third is
what is needed beyond sorting: a list has only one sorted form. -/

theorem dueBefore_iff (a b : Instant × DocumentId) :
    dueBefore a b = true ↔ a.1 < b.1 ∨ a.1 = b.1 ∧ a.2 ≤ b.2 := by
  simp [dueBefore]

theorem dueBefore_trans (a b c : Instant × DocumentId) (hab : dueBefore a b = true)
    (hbc : dueBefore b c = true) : dueBefore a c = true := by
  rw [dueBefore_iff] at *
  rcases hab with hab | ⟨hab, hab'⟩ <;> rcases hbc with hbc | ⟨hbc, hbc'⟩
  · exact .inl (Nat.lt_trans hab hbc)
  · exact .inl (hbc ▸ hab)
  · exact .inl (hab ▸ hbc)
  · exact .inr ⟨hab.trans hbc, String.le_trans hab' hbc'⟩

theorem dueBefore_total (a b : Instant × DocumentId) :
    (dueBefore a b || dueBefore b a) = true := by
  rw [Bool.or_eq_true, dueBefore_iff, dueBefore_iff]
  rcases Nat.lt_trichotomy a.1 b.1 with hlt | heq | hlt
  · exact .inl (.inl hlt)
  · rcases String.le_total a.2 b.2 with hle | hle
    · exact .inl (.inr ⟨heq, hle⟩)
    · exact .inr (.inr ⟨heq.symm, hle⟩)
  · exact .inr (.inl hlt)

theorem dueBefore_antisymm (a b : Instant × DocumentId) (hab : dueBefore a b = true)
    (hba : dueBefore b a = true) : a = b := by
  rw [dueBefore_iff] at *
  rcases hab with hab | ⟨hab, hab'⟩ <;> rcases hba with hba | ⟨hba, hba'⟩
  · exact absurd hba (Nat.lt_asymm hab)
  · exact absurd hab (hba ▸ Nat.lt_irrefl _)
  · exact absurd hba (hab ▸ Nat.lt_irrefl _)
  · exact Prod.ext hab (String.le_antisymm hab' hba')

/-- If some deadlines all come before the others, they can be sorted by themselves. -/
theorem mergeSort_eq_append {p : Instant × DocumentId → Bool}
    {entries : List (Instant × DocumentId)}
    (h : ∀ a ∈ entries, ∀ b ∈ entries, p a = true → p b = false → dueBefore a b = true) :
    entries.mergeSort dueBefore = (entries.filter p).mergeSort dueBefore ++
      (entries.filter fun entry => !p entry).mergeSort dueBefore := by
  have hsorted := List.pairwise_mergeSort dueBefore_trans dueBefore_total
  refine List.Perm.eq_of_pairwise (fun a b _ _ => dueBefore_antisymm a b) (hsorted _) ?_ ?_
  · refine List.pairwise_append.2 ⟨hsorted _, hsorted _, fun a ha b hb => ?_⟩
    rw [List.mem_mergeSort, List.mem_filter] at ha hb
    exact h a ha.1 b hb.1 ha.2 (by simpa using hb.2)
  · exact (List.mergeSort_perm _ _).trans <| (List.filter_append_perm p entries).symm.trans <|
      ((List.mergeSort_perm _ _).append (List.mergeSort_perm _ _)).symm

/-! ## What a run leaves to be due

A run takes entries out and leaves the others where they are, in terms of the lists of entries and
of deadlines.  These are the forms in which sorting can be applied to them. -/

/-- A run takes out the documents that it is given. -/
theorem entries_runEach (deliver : Debouncer σ α → Slots α → σ → Debouncer.Delivery σ α)
    (ids : List DocumentId) (s : Scheduler σ α) (state : σ) :
    (runEach deliver ids s state).scheduler.pending.entries =
      s.pending.entries.filter fun entry => decide (entry.1 ∉ ids) := by
  induction ids generalizing s state with
  | nil => simp [runEach]
  | cons id ids ih =>
    rw [runEach]
    split
    · rename_i hfind
      rw [ih]
      refine List.filter_congr fun entry hentry => ?_
      have hne : entry.1 ≠ id := by
        rintro rfl
        rw [s.pending.find?_eq_some_iff.2 hentry] at hfind
        simp at hfind
      simp [hne]
    · rename_i d hfind
      have hrest := ih { s with pending := s.pending.erase id,
                                slots := (deliver d s.slots state).slots }
        (deliver d s.slots state).state
      have herase : (s.pending.erase id).entries =
          s.pending.entries.filter fun entry => entry.1 != id := rfl
      rw [herase, List.filter_filter] at hrest
      have hboth : ∀ entry ∈ s.pending.entries,
          (decide (entry.1 ∉ ids) && entry.1 != id) = decide (entry.1 ∉ id :: ids) := by
        intro entry _
        by_cases hid : entry.1 = id <;> simp [hid]
      rw [List.filter_congr hboth] at hrest
      dsimp only
      split <;> exact hrest

theorem deadlines_runEach (deliver : Debouncer σ α → Slots α → σ → Debouncer.Delivery σ α)
    (ids : List DocumentId) (s : Scheduler σ α) (state : σ) :
    (runEach deliver ids s state).scheduler.deadlines =
      s.deadlines.filter fun entry => decide (entry.2 ∉ ids) := by
  rw [deadlines, deadlines, entries_runEach, List.filterMap_filter, List.filter_filterMap]
  refine List.filterMap_congr fun entry _ => ?_
  obtain ⟨id, d⟩ := entry
  cases hd : d.deadline with
  | none => simp [hd]
  | some t => by_cases hid : id ∈ ids <;> simp [hd, hid, Option.filter]

/-- After a run of what is due, the deadlines that have not come are left. -/
theorem deadlines_runDue (s : Scheduler σ α) (t : Instant) (state : σ) :
    (s.runDue t state).scheduler.deadlines =
      s.deadlines.filter fun entry => !decide (entry.1 ≤ t) := by
  rw [runDue, deadlines_runEach]
  refine List.filter_congr fun entry hentry => ?_
  obtain ⟨w, hw, hdeadline⟩ := mem_deadlines.1 hentry
  have hmem : entry.2 ∈ s.due t ↔ entry.1 ≤ t := by
    rw [mem_due, hw]
    simp [hdeadline]
  rw [decide_not]
  simp only [hmem]

/-- **What is due later** is what is due earlier, and then what is due when that has run. -/
theorem due_eq_append (s : Scheduler σ α) {t₁ t₂ : Instant} (hle : t₁ ≤ t₂) (state : σ) :
    s.due t₂ = s.due t₁ ++ (s.runDue t₁ state).scheduler.due t₂ := by
  have hearlier : (s.deadlines.filter fun entry => decide (entry.1 ≤ t₂)).filter
      (fun entry => decide (entry.1 ≤ t₁)) =
      s.deadlines.filter fun entry => decide (entry.1 ≤ t₁) := by
    rw [List.filter_filter]
    refine List.filter_congr fun entry _ => ?_
    by_cases h : entry.1 ≤ t₁
    · simp [h, Nat.le_trans h hle]
    · simp [h]
  have hlater : (s.deadlines.filter fun entry => decide (entry.1 ≤ t₂)).filter
      (fun entry => !decide (entry.1 ≤ t₁)) =
      (s.runDue t₁ state).scheduler.deadlines.filter fun entry => decide (entry.1 ≤ t₂) := by
    rw [deadlines_runDue, List.filter_filter, List.filter_filter]
    exact List.filter_congr fun entry _ => Bool.and_comm _ _
  rw [due, due, due, ← List.map_append, ← hlater, ← hearlier]
  refine congrArg _ (mergeSort_eq_append fun a _ b _ ha hb => ?_)
  rw [decide_eq_true_eq] at ha
  rw [decide_eq_false_iff_not] at hb
  exact (dueBefore_iff a b).2 (.inl (Nat.lt_of_le_of_lt ha (Nat.not_le.1 hb)))

/-- Nothing is due any more at a time that has passed. -/
theorem due_runDue_of_le (s : Scheduler σ α) {t₁ t₂ : Instant} (hle : t₂ ≤ t₁) (state : σ) :
    (s.runDue t₁ state).scheduler.due t₂ = [] := by
  have hnone : (s.runDue t₁ state).scheduler.deadlines.filter
      (fun entry => decide (entry.1 ≤ t₂)) = [] := by
    rw [deadlines_runDue, List.filter_eq_nil_iff]
    intro entry hentry
    have hlater := (List.mem_filter.1 hentry).2
    simp only [Bool.not_eq_true', decide_eq_false_iff_not, decide_eq_true_eq] at hlater ⊢
    exact fun hentry => hlater (Nat.le_trans hentry hle)
  simp [due, hnone]

/-! ## Runs one after the other -/

/-- A run, and another one that begins where it ends. -/
def Run.followedBy (first second : Run σ α) : Run σ α :=
  { second with completed := first.completed ++ second.completed }

/-- A run of documents can be cut anywhere. -/
theorem runEach_append (deliver : Debouncer σ α → Slots α → σ → Debouncer.Delivery σ α)
    (ids more : List DocumentId) (s : Scheduler σ α) (state : σ) :
    runEach deliver (ids ++ more) s state =
      let first := runEach deliver ids s state
      first.followedBy (runEach deliver more first.scheduler first.state) := by
  induction ids generalizing s state with
  | nil => rfl
  | cons id ids ih =>
    rw [List.cons_append, runEach, runEach]
    split
    · exact ih s state
    · dsimp only
      rw [ih]
      split <;> rfl

/-- It counts only how the debouncers of these documents are made to run. -/
theorem runEach_congr {deliver deliver' : Debouncer σ α → Slots α → σ → Debouncer.Delivery σ α}
    {ids : List DocumentId}
    (h : ∀ id ∈ ids, ∀ d, s.pending.find? id = some d → deliver d = deliver' d) (state : σ) :
    runEach deliver ids s state = runEach deliver' ids s state := by
  induction ids generalizing s state with
  | nil => rfl
  | cons id ids ih =>
    obtain ⟨hid, hids⟩ := List.forall_mem_cons.1 h
    rw [runEach, runEach]
    split
    · exact ih hids state
    · rename_i d hfind
      rw [hid d hfind]
      dsimp only
      rw [ih]
      intro other hother e he
      rw [Registry.find?_erase] at he
      split at he
      · simp at he
      · exact hids other hother e he

/-- What is due at a time runs in the same way when the owner asks later. -/
theorem runEach_due_of_le {t₁ t₂ : Instant} (hle : t₁ ≤ t₂) (s : Scheduler σ α) (state : σ) :
    runEach (fun d slots state => d.poll slots t₂ state) (s.due t₁) s state =
      s.runDue t₁ state := by
  refine runEach_congr (fun id hid d hd => ?_) state
  obtain ⟨w, hw, hdue⟩ := mem_due.1 hid
  obtain ⟨d', hd', hdw⟩ := window?_eq_some_iff.1 hw
  obtain rfl := Option.some_inj.1 (hd'.symm.trans hd)
  funext slots state
  simp only [Debouncer.poll, hdw, if_neg (Nat.not_lt.2 hdue),
    if_neg (Nat.not_lt.2 (Nat.le_trans hdue hle))]

/-- **Two ticks are one**, at the later of the two times. -/
theorem followedBy_runDue (s : Scheduler σ α) (t₁ t₂ : Instant) (state : σ) :
    (s.runDue t₁ state).followedBy
        ((s.runDue t₁ state).scheduler.runDue t₂ (s.runDue t₁ state).state) =
      s.runDue (max t₁ t₂) state := by
  rcases Nat.le_total t₁ t₂ with hle | hle
  · rw [Nat.max_eq_right hle, runDue.eq_1 s t₂, s.due_eq_append hle state, runEach_append,
      runEach_due_of_le hle]
    rfl
  · rw [Nat.max_eq_left hle, runDue.eq_1 _ t₂, s.due_runDue_of_le hle, runEach, Run.followedBy,
      List.append_nil]

/-- Ticks at several times, one after the other. -/
def runDueAt : List Instant → Scheduler σ α → σ → Run σ α
  | [], s, state => ⟨s, state, []⟩
  | t :: times, s, state =>
    let first := s.runDue t state
    first.followedBy (runDueAt times first.scheduler first.state)

/-- **Many ticks are one**, at the latest of their times.  By induction on the ticks behind the
first one. -/
theorem runDueAt_cons (t : Instant) (times : List Instant) (s : Scheduler σ α) (state : σ) :
    runDueAt (t :: times) s state = s.runDue (times.foldl max t) state := by
  induction times generalizing t s state with
  | nil => simp [runDueAt, Run.followedBy]
  | cons next times ih =>
    have hlatest : (next :: times).foldl max t = max t (times.foldl max next) :=
      List.foldl_assoc
    rw [hlatest, ← followedBy_runDue, runDueAt, ih]

/-! ## What the handles show

A run hands out documents with their handles.  The results are what the handles show at its end, and
a later run must not change them. -/

/-- The documents of a run, with what their handles show when it is over. -/
def Run.results (run : Run σ α) : List (DocumentId × HandleState α) :=
  run.completed.map fun j => (j.1, run.scheduler.slots.get j.2)

/-- A run leaves the handles alone that do not wait. -/
theorem Sound.get_runDue_of_ne_pending (hs : s.Sound) {h : Handle} (hh : s.slots.get h ≠ .pending)
    (t : Instant) (state : σ) : (s.runDue t state).scheduler.slots.get h = s.slots.get h := by
  obtain ⟨jobs, s', -, hjobs, hrun, hran⟩ := runDue_spec hs t state
  rw [hrun]
  refine hran.others h fun j hj heq => hh ?_
  rw [← heq]
  exact hs.waits j.1 j.2 (hjobs.window? j hj)

/-- What has run does not wait. -/
theorem Sound.get_ne_pending_of_mem_completed (hs : s.Sound) {t : Instant} {state : σ}
    {j : DocumentId × Handle} (hj : j ∈ (s.runDue t state).completed) :
    (s.runDue t state).scheduler.slots.get j.2 ≠ .pending := by
  obtain ⟨jobs, s', -, -, hrun, hran⟩ := runDue_spec hs t state
  rw [hrun] at hj ⊢
  obtain ⟨job, hjob, rfl⟩ := List.mem_map.1 hj
  have hshown : s'.slots.get job.2.handle ∈ jobs.map fun j => s'.slots.get j.2.handle :=
    List.mem_map_of_mem hjob
  rw [hran.settled, List.mem_map] at hshown
  obtain ⟨a, -, ha⟩ := hshown
  rw [← ha]
  simp

/-- The results of two ticks stay what they are. -/
theorem Sound.results_followedBy (hs : s.Sound) (t₁ t₂ : Instant) (state : σ) :
    let first := s.runDue t₁ state
    let second := first.scheduler.runDue t₂ first.state
    (first.followedBy second).results = first.results ++ second.results := by
  intro first second
  have hsound : first.scheduler.Sound := hs.after (.runDue t₁ state)
  rw [Run.results, Run.followedBy, List.map_append]
  refine congrArg (· ++ second.results) (List.map_congr_left fun j hj => ?_)
  have hsettled := hs.get_ne_pending_of_mem_completed hj
  exact congrArg _ (hsound.get_runDue_of_ne_pending hsettled t₂ first.state)

/-! ## Schedulers that can come about

The invariant holds of more schedulers than can come about, and the statements about what a caller
sees are meant for the latter. -/

/-- A scheduler can come about: it was new, and has been used since.  Results are taken whenever
their owners like. -/
inductive Reachable : Scheduler σ α → Prop
  /-- It is new. -/
  | new (delay : Duration) : Reachable (withDelay delay)
  /-- It has been used. -/
  | after {s : Scheduler σ α} (m : Move σ α) : Reachable s → Reachable (s.after m)
  /-- A result was taken. -/
  | take {s : Scheduler σ α} (h : Handle) : Reachable s → Reachable (s.take h).2

theorem Reachable.sound (h : s.Reachable) : s.Sound := by
  induction h with
  | new delay => exact sound_withDelay delay
  | after m _ ih => exact ih.after m
  | take h _ ih => exact ih.take h

/-- **How often the owner asks does not count.**  Two ticks, at whatever times, leave the scheduler
and the state that one tick leaves at the later time; together, they complete the same documents in
the same order, and their handles show the same.  So do ticks at any number of times. -/
theorem runDue_runDue (hs : s.Reachable) (t₁ t₂ : Instant) (state : σ) :
    let first := s.runDue t₁ state
    let second := first.scheduler.runDue t₂ first.state
    let once := s.runDue (max t₁ t₂) state
    second.scheduler = once.scheduler ∧ second.state = once.state ∧
      first.completed ++ second.completed = once.completed ∧
      first.results ++ second.results = once.results ∧
      ∀ times, runDueAt (t₁ :: times) s state = s.runDue (times.foldl max t₁) state := by
  intro first second once
  have honce : first.followedBy second = once := followedBy_runDue s t₁ t₂ state
  rw [← honce]
  refine ⟨rfl, rfl, rfl, ?_, ?_⟩
  · exact (hs.sound.results_followedBy t₁ t₂ state).symm
  · intro times
    exact runDueAt_cons t₁ times s state

/-- Two pieces of work are due at different times.  Asked in between, the scheduler runs the one
that is due; asked once, it runs both, with the same results. -/
theorem runDue_runDue_b_a :
    let work (name : String) : Work (List String) Nat := fun log => (log.length, log ++ [name])
    let s := ofHistory 10 [.schedule 0 "b" (work "b"), .schedule 5 "a" (work "a")]
    let first := s.runDue 12 []
    let second := first.scheduler.runDue 20 first.state
    s.Reachable ∧ first.results = [("b", .resolved (some 0))] ∧
      second.results = [("a", .resolved (some 1))] ∧ (s.runDue 20 []).state = ["b", "a"] ∧
      (s.runDue 20 []).results = [("b", .resolved (some 0)), ("a", .resolved (some 1))] := by
  intro work s first second
  have hs : s.Reachable :=
    .after (.schedule 5 "a" (work "a")) (.after (.schedule 0 "b" (work "b")) (.new 10))
  have hfirst : first.results = [("b", .resolved (some 0))] := by decide +kernel
  have hsecond : second.results = [("a", .resolved (some 1))] := by decide +kernel
  have hstate : second.state = ["b", "a"] := by decide +kernel
  have hlater : max 12 20 = 20 := rfl
  obtain ⟨-, hsame, -, hresults, -⟩ := runDue_runDue hs 12 20 []
  refine ⟨hs, hfirst, hsecond, hsame.symm.trans hstate, ?_⟩
  rw [← hlater, ← hresults, hfirst, hsecond, List.singleton_append]

end Scheduler
end Proofreader
