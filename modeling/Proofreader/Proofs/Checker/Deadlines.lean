import Proofreader.Proofs.Checker.Reports

/-!
# When to ask again

Nothing runs by itself, so an owner that does not want to ask all the time sleeps until
`Checker.nextDue` and asks then.  It misses nothing: before that time there is nothing to run, at
that time there is, and each check that runs is reported.

* `Scheduler.nextDue_eq_some_iff`, `nextDue_eq_none_iff` — the time is the earliest at which a
  document is due, and there is none just if no document waits.
* `Scheduler.due_eq_nil_iff` — so it divides the times at which nothing is due from the others.
* `Checker.TellsNextDue` — what an owner can rely on; `tellsNextDue_of_history` says that it can,
  whatever has happened.

The time is computed from the entries of the scheduler, and what is due is too, but by another walk.
Both are brought to the windows of documents first.  Then a time is told that is the least of the
deadlines, a document is due if its deadline has come, and `due_eq_nil_iff` is a statement about the
least of some numbers.  All that is said of an owner follows from it by asking at the right time.

That what remains after a run is due later needs the run itself: `Ran.window?` says that what was
due does not wait any more, and what was not due still has its old deadline.  It would be false if a
run could leave a window behind that is due at once, and no check schedules another one.

The last two fields do not speak of times.  They are there because an owner that relies on the
reports must not lose a check that ran: a scheduler could run a check, and the report could be
missing as its result was taken before.  The handles of what ran are all different and hold results,
which the invariant of checkers gives.
-/

set_option autoImplicit false

namespace Proofreader

/-! ## The earliest deadline

Nothing here is about checks: it holds for schedulers of any kind of work, and without an
invariant. -/

namespace Scheduler

variable {σ α : Type} {s : Scheduler σ α}

theorem mem_map_deadlines {t : Instant} :
    t ∈ s.deadlines.map (·.1) ↔ ∃ id w, s.window? id = some w ∧ w.deadline = t := by
  rw [List.mem_map]
  constructor
  · rintro ⟨⟨t, id⟩, hmem, rfl⟩
    exact ⟨id, mem_deadlines.1 hmem⟩
  · rintro ⟨id, hid⟩
    exact ⟨(t, id), mem_deadlines.2 hid, rfl⟩

/-- The time that is told is that of a document, and no document is due earlier. -/
theorem nextDue_eq_some_iff {t : Instant} :
    s.nextDue = some t ↔ (∃ id w, s.window? id = some w ∧ w.deadline = t) ∧
      ∀ id w, s.window? id = some w → t ≤ w.deadline := by
  rw [nextDue, List.min?_eq_some_iff, mem_map_deadlines]
  refine and_congr_right fun _ => ⟨fun h id w hw => ?_, fun h u hu => ?_⟩
  · exact h w.deadline (mem_map_deadlines.2 ⟨id, w, hw, rfl⟩)
  · obtain ⟨id, w, hw, rfl⟩ := mem_map_deadlines.1 hu
    exact h id w hw

theorem nextDue_eq_none_iff : s.nextDue = none ↔ ∀ id, s.window? id = none := by
  rw [nextDue, List.min?_eq_none_iff]
  constructor
  · intro hnil id
    refine Option.eq_none_iff_forall_ne_some.2 fun w hw => ?_
    have hmem := mem_map_deadlines.2 ⟨id, w, hw, rfl⟩
    rw [hnil] at hmem
    simp at hmem
  · intro hnone
    refine List.eq_nil_iff_forall_not_mem.2 fun t ht => ?_
    obtain ⟨id, w, hw, -⟩ := mem_map_deadlines.1 ht
    simp [hnone id] at hw

/-- **Nothing is due** just before the time that is told, or if none is. -/
theorem due_eq_nil_iff {now : Instant} :
    s.due now = [] ↔ ∀ t, s.nextDue = some t → now < t := by
  constructor
  · intro hnil t ht
    obtain ⟨⟨id, w, hw, rfl⟩, -⟩ := nextDue_eq_some_iff.1 ht
    refine Nat.not_le.1 fun hdue => ?_
    have hmem : id ∈ s.due now := mem_due.2 ⟨w, hw, hdue⟩
    rw [hnil] at hmem
    simp at hmem
  · intro hlater
    refine List.eq_nil_iff_forall_not_mem.2 fun id hid => ?_
    obtain ⟨w, hw, hdue⟩ := mem_due.1 hid
    cases ht : s.nextDue with
    | none => simp [nextDue_eq_none_iff.1 ht id] at hw
    | some t =>
      have hle := (nextDue_eq_some_iff.1 ht).2 id w hw
      exact Nat.not_lt.2 (Nat.le_trans hle hdue) (hlater t ht)

end Scheduler

namespace Checker

variable {c : Checker}

/-! ## Asking for what is due

An owner sees reports and the time that is told, and these are what the laws speak of. -/

theorem runDue_of_due_eq_nil {now : Instant} (h : c.scheduler.due now = []) :
    c.runDue now = ([], c) := by
  rw [Checker.runDue, Scheduler.runDue, h]
  rfl

/-- What is left after a run of what is due is due later. -/
theorem Sound.lt_nextDue (hc : c.Sound) {now t : Instant} (ht : (c.runDue now).2.nextDue = some t) :
    now < t := by
  refine Scheduler.due_eq_nil_iff.1 ?_ t ht
  refine List.eq_nil_iff_forall_not_mem.2 fun id hid => ?_
  obtain ⟨w, hw, hdue⟩ := Scheduler.mem_due.1 hid
  rw [(hc.runDue now).window?] at hw
  split at hw
  · simp at hw
  · rename_i hkept
    exact hkept (Scheduler.mem_due.2 ⟨w, hw, hdue⟩)

/-- The time at which the next check is due is told exactly, and no check that runs goes
unreported. -/
structure TellsNextDue (c : Checker) : Prop where
  /-- No time is told just if no document waits for a check, -/
  none_iff : c.nextDue = none ↔ ∀ id, c.isWaiting id = false
  /-- and then asking does nothing, at whatever time. -/
  idle : c.nextDue = none → ∀ now, c.runDue now = ([], c)
  /-- Asking earlier than told does nothing, -/
  early : ∀ t, c.nextDue = some t → ∀ now, now < t → c.runDue now = ([], c)
  /-- and asking then, or later, gives a report. -/
  due : ∀ t, c.nextDue = some t → ∀ now, t ≤ now → (c.runDue now).1 ≠ []
  /-- What is told after asking is later. -/
  later : ∀ now t, (c.runDue now).2.nextDue = some t → now < t
  /-- What ran is what the reports name: one check for each of them, in order, and no other. -/
  reported : ∀ now, (c.scheduler.runDue now c.state).completed.map (·.1) =
      (c.runDue now).1.map (·.document) ∧
    c.Ran ((c.runDue now).1.map (·.document)) (c.runDue now).1 (c.runDue now).2
  /-- So it is when everything is run. -/
  reportedAll : (c.scheduler.runAll c.state).completed.map (·.1) =
      c.runAll.1.map (·.document) ∧
    c.Ran (c.runAll.1.map (·.document)) c.runAll.1 c.runAll.2

/-- **An owner that sleeps until the next check is due** misses nothing, in every state that a
checker can come to. -/
theorem tellsNextDue_of_history (workspace : Workspace) (delay : Duration) (events : List Event) :
    ((withDelay workspace delay).afterAll events).TellsNextDue := by
  have hc : ((withDelay workspace delay).afterAll events).Sound :=
    (sound_withDelay workspace delay).afterAll events
  generalize (withDelay workspace delay).afterAll events = c at hc
  constructor
  case none_iff =>
    rw [nextDue, Scheduler.nextDue_eq_none_iff]
    refine forall_congr' fun id => ?_
    rw [isWaiting, Scheduler.isWaiting_eq, Option.isSome_eq_false_iff, Option.isNone_iff_eq_none]
  case idle =>
    intro hnone now
    refine runDue_of_due_eq_nil (Scheduler.due_eq_nil_iff.2 fun t ht => ?_)
    rw [nextDue, ht] at hnone
    simp at hnone
  case early =>
    intro t ht now hearly
    refine runDue_of_due_eq_nil (Scheduler.due_eq_nil_iff.2 fun u hu => ?_)
    have hsame : some u = some t := hu.symm.trans ht
    rwa [Option.some_inj.1 hsame]
  case due =>
    intro t ht now hle hnil
    have hdue : c.scheduler.due now = [] := by
      rw [← (hc.runDue now).documents, hnil]
      rfl
    exact Nat.not_lt.2 hle (Scheduler.due_eq_nil_iff.1 hdue t ht)
  case later => exact fun now t => hc.lt_nextDue
  case reported =>
    intro now
    rw [(hc.runDue now).documents, hc.scheduler.completed_runDue]
    exact ⟨rfl, hc.runDue now⟩
  case reportedAll =>
    rw [hc.runAll.documents, hc.scheduler.completed_runAll]
    exact ⟨rfl, hc.runAll⟩

/-- Of two documents that wait, the first is checked at the time that is told, and not before; then
the time of the second is told. -/
example :
    let c := (withDelay .empty 10).afterAll [.start [], .request 0 "b", .request 5 "a"]
    c.nextDue = some 10 ∧ (c.runDue 9).1.map (·.document) = [] ∧
      (c.runDue 10).1.map (·.document) = ["b"] ∧ (c.runDue 10).2.nextDue = some 15 := by
  cbv

end Checker
end Proofreader
