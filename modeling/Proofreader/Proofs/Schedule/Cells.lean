import Proofreader.Proofs.Schedule.Ticks

/-!
# A debouncer in separate cells

A `Debouncer` has a window or none, so it cannot be half open.  A debouncer may as well keep the
parts of a window in cells of their own, with a word for what it is doing, and change one after the
other; then every move has to leave all of them in step, and each of the tests looks at another one:
a poll at the deadline, a delivery at the handle, and running the work at the handle and the work.
`Cells` is such a debouncer, and this file shows that it is the same.

* `Cells.ofDebouncer` — the cells of a debouncer.  The lemmas `…_ofDebouncer` say that every move
  leads from the cells of a debouncer to those of the debouncer after the move.
* `Cells.Keeps` — what holds of the cells after every history: they are all empty or all filled, and
  the work and its handle are there whenever it is time.
* `Cells.keeps_of_history` — that, and the like for the debouncers of a scheduler.

The cells are written in the order in which a program with mutable fields would write them, one
record update for each assignment, with the states in between.  The word and the three cells could
stand in twenty-four combinations, and two of them come about between moves.  One could prove this
as an invariant of the cells, by cases on every move; here it comes from a simulation instead.  A
debouncer with a window is mapped to cells, and each move of the cells, begun at the image of a
debouncer, ends at the image of the debouncer after the same move.  As the image has only the two
good combinations, no other is ever reached, and besides all that was proved of debouncers holds of
the cells as well.

`Outcome.missing` is the case that must not happen: it is time, and the work or its handle is not
there.  It has a constructor of its own, so that its absence is something to be proved.  A program
would have to do something in this case, and could then be seen to do it.
-/

set_option autoImplicit false

namespace Proofreader

variable {σ α : Type}

/-- What a debouncer is doing. -/
inductive Phase where
  /-- Nothing waits. -/
  | idle
  /-- Work waits. -/
  | armed
  /-- Work is being done. -/
  | running
deriving Repr, DecidableEq

/-- A debouncer that keeps what waits in cells of their own. -/
structure Cells (σ α : Type) where
  /-- The delay of a trigger that names none. -/
  defaultDelay : Duration
  /-- What it is doing. -/
  phase : Phase
  /-- When the work is due. -/
  deadline : Option Instant
  /-- The work. -/
  work : Option (Work σ α)
  /-- The handle of everyone who asked. -/
  handle : Option Handle

namespace Cells

/-! ## What can be done

The moves have the same arguments and answers as those of a debouncer, so that the two can be put in
each other's place. -/

/-- Nothing waits. -/
def idle (defaultDelay : Duration) : Cells σ α := ⟨defaultDelay, .idle, none, none, none⟩

/-- Whether a deadline is there. -/
def isArmed (c : Cells σ α) : Bool := c.deadline.isSome

/-- Ask for work. -/
def trigger (c : Cells σ α) (slots : Slots α) (now : Instant) (delay : Duration)
    (work : Work σ α) : Handle × Cells σ α × Slots α :=
  let c := { c with work := some work }
  let c := { c with deadline := some (now + delay) }
  let c := { c with phase := .armed }
  match c.handle with
  | some h => (h, c, slots)
  | none => (slots.new.1, { c with handle := some slots.new.1 }, slots.new.2)

/-- What comes of looking whether work is to be run. -/
inductive Outcome where
  /-- None is. -/
  | nothing
  /-- The work of a handle ran. -/
  | ran (h : Handle)
  /-- It was time, but the work or its handle was not there. -/
  | missing
deriving Repr, DecidableEq

/-- The handle of the work that ran, if any ran. -/
def Outcome.handle? : Outcome → Option Handle
  | ran h => some h
  | _ => none

/-- What a delivery leaves, and what came of it. -/
structure Delivery (σ α : Type) where
  /-- The debouncer. -/
  cells : Cells σ α
  /-- What the handles show. -/
  slots : Slots α
  /-- The state after the work. -/
  state : σ
  /-- What came of it. -/
  outcome : Outcome

/-- Run the work: the cells are emptied, and then the work and the handle that were in them are
needed. -/
def deliver (c : Cells σ α) (slots : Slots α) (state : σ) : Delivery σ α :=
  let handle := c.handle
  let work := c.work
  let c := { c with deadline := none }
  let c := { c with handle := none, work := none }
  match handle, work with
  | some h, some work =>
    let c := { c with phase := .running }
    let (value, state) := work state
    let c := { c with phase := .idle }
    ⟨c, slots.resolve h value, state, .ran h⟩
  | _, _ => ⟨{ c with phase := .idle }, slots, state, .missing⟩

/-- Run the work if there is a deadline and it has passed. -/
def poll (c : Cells σ α) (slots : Slots α) (now : Instant) (state : σ) : Delivery σ α :=
  match c.deadline with
  | none => ⟨c, slots, state, .nothing⟩
  | some t => if now < t then ⟨c, slots, state, .nothing⟩ else c.deliver slots state

/-- Run the work if there is a handle. -/
def deliverNow (c : Cells σ α) (slots : Slots α) (state : σ) : Delivery σ α :=
  match c.handle with
  | none => ⟨c, slots, state, .nothing⟩
  | some _ => c.deliver slots state

/-- Empty the cells; the handle, if there is one, is cancelled. -/
def cancel (c : Cells σ α) (slots : Slots α) : Cells σ α × Slots α :=
  let c := { c with deadline := none }
  let c := { c with work := none }
  match c.handle with
  | some h => ({ c with handle := none, phase := .idle }, slots.cancel h)
  | none => ({ c with phase := .idle }, slots)

/-! ## The cells of a debouncer

Every lemma is proved by the same two cases, no window or one. -/

/-- The cells of a debouncer: those of its window, or none of them. -/
def ofDebouncer (d : Debouncer σ α) : Cells σ α :=
  match d.window with
  | none => idle d.defaultDelay
  | some w => ⟨d.defaultDelay, .armed, some w.deadline, some w.work, some w.handle⟩

/-- What a delivery of a debouncer leaves, in cells. -/
def Delivery.ofDebouncer (done : Debouncer.Delivery σ α) : Delivery σ α :=
  ⟨.ofDebouncer done.debouncer, done.slots, done.state,
    match done.handle with
    | some h => .ran h
    | none => .nothing⟩

theorem Delivery.handle?_ofDebouncer (done : Debouncer.Delivery σ α) :
    (ofDebouncer done).outcome.handle? = done.handle := by
  rw [ofDebouncer]
  cases done.handle <;> rfl

theorem Delivery.ofDebouncer_ne_missing (done : Debouncer.Delivery σ α) :
    (ofDebouncer done).outcome ≠ .missing := by
  rw [ofDebouncer]
  cases done.handle <;> simp

variable (d : Debouncer σ α) (slots : Slots α) (state : σ)

theorem isArmed_ofDebouncer : (ofDebouncer d).isArmed = d.isArmed := by
  rw [ofDebouncer, Debouncer.isArmed]
  cases d.window <;> rfl

theorem trigger_ofDebouncer (now : Instant) (delay : Duration) (work : Work σ α) :
    (ofDebouncer d).trigger slots now delay work =
      ((d.trigger slots now delay work).1, ofDebouncer (d.trigger slots now delay work).2.1,
        (d.trigger slots now delay work).2.2) := by
  rw [ofDebouncer, Debouncer.trigger]
  cases d.window <;> rfl

theorem poll_ofDebouncer (now : Instant) :
    (ofDebouncer d).poll slots now state = .ofDebouncer (d.poll slots now state) := by
  rw [ofDebouncer, Debouncer.poll]
  cases hw : d.window with
  | none =>
    rw [Delivery.ofDebouncer, ofDebouncer, hw]
    rfl
  | some w =>
    simp only [poll]
    split
    · rw [Delivery.ofDebouncer, ofDebouncer, hw]
    · rfl

theorem deliverNow_ofDebouncer :
    (ofDebouncer d).deliverNow slots state = .ofDebouncer (d.deliverNow slots state) := by
  rw [ofDebouncer, Debouncer.deliverNow]
  cases hw : d.window with
  | none =>
    rw [Delivery.ofDebouncer, ofDebouncer, hw]
    rfl
  | some w => rfl

theorem cancel_ofDebouncer :
    (ofDebouncer d).cancel slots = (ofDebouncer (d.cancel slots).1, (d.cancel slots).2) := by
  rw [ofDebouncer, Debouncer.cancel]
  cases hw : d.window with
  | none =>
    rw [ofDebouncer, hw]
    rfl
  | some w => rfl

/-! ## Histories

The moves and answers are those of debouncers, and the theory of windows carries over unchanged
because of that. -/

/-- Cells together with what the handles show. -/
structure InUse (σ α : Type) where
  /-- The cells. -/
  cells : Cells σ α
  /-- What the handles show. -/
  slots : Slots α

namespace InUse

/-- Nothing waits, and no handle was given out. -/
def new (delay : Duration) : InUse σ α := ⟨.idle delay, .empty⟩

/-- What a move leaves. -/
def after (u : InUse σ α) : Debouncer.Move σ α → InUse σ α
  | .trigger t =>
    let (_, cells, slots) := u.cells.trigger u.slots t.now t.delay t.work
    ⟨cells, slots⟩
  | .poll now state =>
    let done := u.cells.poll u.slots now state
    ⟨done.cells, done.slots⟩
  | .deliverNow state =>
    let done := u.cells.deliverNow u.slots state
    ⟨done.cells, done.slots⟩
  | .cancel =>
    let (cells, slots) := u.cells.cancel u.slots
    ⟨cells, slots⟩
  | .take h => ⟨u.cells, (u.slots.take h).2⟩

/-- What a move answers. -/
def answer (u : InUse σ α) : Debouncer.Move σ α → Debouncer.Answer σ α
  | .trigger t => .handle (u.cells.trigger u.slots t.now t.delay t.work).1
  | .poll now state =>
    let done := u.cells.poll u.slots now state
    .delivery done.outcome.handle? done.state
  | .deliverNow state =>
    let done := u.cells.deliverNow u.slots state
    .delivery done.outcome.handle? done.state
  | .cancel => .done
  | .take h => .result (u.slots.take h).1

/-- Cells, empty at first, after a history. -/
def ofHistory (delay : Duration) (history : List (Debouncer.Move σ α)) : InUse σ α :=
  history.foldl after (new delay)

/-- A debouncer in use, in cells. -/
def ofDebouncer (u : Debouncer.InUse σ α) : InUse σ α := ⟨.ofDebouncer u.debouncer, u.slots⟩

/-- **A move of the cells is the move of the debouncer**, in what it answers and in what it leaves.
-/
theorem move_ofDebouncer (u : Debouncer.InUse σ α) (m : Debouncer.Move σ α) :
    (ofDebouncer u).answer m = u.answer m ∧ (ofDebouncer u).after m = ofDebouncer (u.after m) := by
  cases m with
  | trigger t =>
    simp only [answer, after, ofDebouncer, trigger_ofDebouncer]
    exact ⟨rfl, rfl⟩
  | poll now state =>
    simp only [answer, after, ofDebouncer, poll_ofDebouncer, Delivery.handle?_ofDebouncer]
    exact ⟨rfl, rfl⟩
  | deliverNow state =>
    simp only [answer, after, ofDebouncer, deliverNow_ofDebouncer, Delivery.handle?_ofDebouncer]
    exact ⟨rfl, rfl⟩
  | cancel =>
    simp only [after, ofDebouncer, cancel_ofDebouncer]
    exact ⟨rfl, rfl⟩
  | take h => exact ⟨rfl, rfl⟩

theorem ofHistory_eq (delay : Duration) (history : List (Debouncer.Move σ α)) :
    ofHistory delay history = ofDebouncer (Debouncer.InUse.ofHistory delay history) := by
  have hnew : new delay = ofDebouncer (Debouncer.InUse.new delay : Debouncer.InUse σ α) := rfl
  rw [ofHistory, hnew]
  exact List.foldl_hom ofDebouncer fun u m => (move_ofDebouncer u m).2

end InUse

/-! ## What holds of the cells

In a scheduler the cells are never empty: an entry is dropped with its window, and two entries never
wait on the same handle. -/

/-- All cells are empty, and nothing is being done. -/
structure IsIdle (c : Cells σ α) : Prop where
  /-- The word says so. -/
  phase_eq : c.phase = .idle
  /-- There is no deadline, -/
  deadline_eq : c.deadline = none
  /-- no work -/
  work_eq : c.work = none
  /-- and no handle. -/
  handle_eq : c.handle = none

/-- All cells are filled, and the handle waits. -/
structure IsArmed (c : Cells σ α) (slots : Slots α) : Prop where
  /-- The word says so. -/
  phase_eq : c.phase = .armed
  /-- There is a deadline, -/
  deadline_isSome : c.deadline.isSome = true
  /-- there is work, -/
  work_isSome : c.work.isSome = true
  /-- and there is a handle, which waits. -/
  waits : ∃ h, c.handle = some h ∧ slots.get h = .pending

/-- What holds of the cells `u` between moves, when `d` is the debouncer after the same history. -/
structure Keeps (u : InUse σ α) (d : Debouncer.InUse σ α) : Prop where
  /-- The cells are in step. -/
  inStep : u.cells.IsIdle ∨ u.cells.IsArmed u.slots
  /-- No work is being done. -/
  phase_ne : u.cells.phase ≠ .running
  /-- Whether a deadline is there is whether there is a window. -/
  isArmed_eq : u.cells.isArmed = d.debouncer.isArmed
  /-- When a poll finds that it is time, what is to be run is there, -/
  poll_ne : ∀ now state, (u.cells.poll u.slots now state).outcome ≠ .missing
  /-- and so it is for a delivery. -/
  deliverNow_ne : ∀ state, (u.cells.deliverNow u.slots state).outcome ≠ .missing
  /-- The handles show what those of the debouncer do. -/
  slots_eq : u.slots = d.slots
  /-- Whatever comes next is answered as by the debouncer. -/
  answer_eq : ∀ m, u.answer m = d.answer m

theorem isArmed_of_window {d : Debouncer σ α} {slots : Slots α} {w : Window σ α}
    (hw : d.window = some w) (hwaits : slots.get w.handle = .pending) :
    (ofDebouncer d).IsArmed slots := by
  rw [ofDebouncer, hw]
  exact ⟨rfl, rfl, rfl, w.handle, rfl, hwaits⟩

theorem keeps_ofDebouncer {u : Debouncer.InUse σ α} (hu : u.Sound) :
    Keeps (.ofDebouncer u) u := by
  have hinStep : (ofDebouncer u.debouncer).IsIdle ∨ (ofDebouncer u.debouncer).IsArmed u.slots := by
    rcases hu with hnone | ⟨last, h, hw⟩
    · rw [ofDebouncer, hnone]
      exact .inl ⟨rfl, rfl, rfl, rfl⟩
    · exact .inr (isArmed_of_window hw.window hw.pending)
  refine ⟨hinStep, fun hrunning => ?_, isArmed_ofDebouncer _, fun now state => ?_,
    fun state => ?_, rfl, fun m => (InUse.move_ofDebouncer u m).1⟩
  · rcases hinStep with hidle | harmed
    · exact absurd (hidle.phase_eq.symm.trans hrunning) (by decide)
    · exact absurd (harmed.phase_eq.symm.trans hrunning) (by decide)
  · rw [InUse.ofDebouncer, poll_ofDebouncer]
    exact Delivery.ofDebouncer_ne_missing _
  · rw [InUse.ofDebouncer, deliverNow_ofDebouncer]
    exact Delivery.ofDebouncer_ne_missing _

/-- **All cells or none.**  After every history of a new debouncer that is kept in cells, all of
them are empty or all of them are filled, no work is being done, and whenever it is time there is
work to be run; so it is the same as a debouncer with a window.  Of a scheduler that can come about,
every entry is a debouncer whose cells are filled, and no two of them share a handle. -/
theorem keeps_of_history (delay : Duration) :
    (∀ history : List (Debouncer.Move σ α),
      Keeps (.ofHistory delay history) (Debouncer.InUse.ofHistory delay history)) ∧
    ∀ s : Scheduler σ α, s.Reachable →
      (∀ id d, s.pending.find? id = some d → (ofDebouncer d).IsArmed s.slots) ∧
      ∀ id id' d d', s.pending.find? id = some d → s.pending.find? id' = some d' →
        (ofDebouncer d).handle = (ofDebouncer d').handle → id = id' := by
  refine ⟨fun history => ?_, fun s hs => ?_⟩
  · rw [InUse.ofHistory_eq]
    exact keeps_ofDebouncer (Debouncer.InUse.sound_ofHistory delay history)
  · have hsound := hs.sound
    have hopen : ∀ id d, s.pending.find? id = some d →
        ∃ w, d.window = some w ∧ s.window? id = some w := by
      intro id d hd
      obtain ⟨w, hw⟩ := Option.isSome_iff_exists.1 (hsound.armed id (by rw [hd]; rfl))
      obtain ⟨d', hd', hdw⟩ := Scheduler.window?_eq_some_iff.1 hw
      obtain rfl := Option.some_inj.1 (hd'.symm.trans hd)
      exact ⟨w, hdw, hw⟩
    refine ⟨fun id d hd => ?_, fun id id' d d' hd hd' heq => ?_⟩
    · obtain ⟨w, hdw, hw⟩ := hopen id d hd
      exact isArmed_of_window hdw (hsound.waits id w hw)
    · obtain ⟨w, hdw, hw⟩ := hopen id d hd
      obtain ⟨w', hdw', hw'⟩ := hopen id' d' hd'
      rw [ofDebouncer, ofDebouncer, hdw, hdw', Option.some_inj] at heq
      exact hsound.distinct id id' w w' hw hw' heq

/-- A burst of two triggers, asked about too early: the cells are filled, and a delivery runs the
work of the second.  Two documents of a scheduler wait on handles of their own. -/
theorem keeps_of_history_burst :
    let work (name : String) : Work (List String) Nat := fun log => (log.length, log ++ [name])
    let u := InUse.ofHistory 150
      [.trigger ⟨0, 150, work "first"⟩, .trigger ⟨100, 150, work "second"⟩, .poll 249 []]
    let s := Scheduler.ofHistory 150 [.schedule 0 "a" (work "a"), .schedule 5 "b" (work "b")]
    u.cells.IsArmed u.slots ∧ (u.cells.deliverNow u.slots []).outcome = .ran ⟨0⟩ ∧
      (u.cells.deliverNow u.slots []).state = ["second"] ∧ s.Reachable ∧ s.size = 2 ∧
      ∀ id d, s.pending.find? id = some d → (ofDebouncer d).IsArmed s.slots := by
  intro work u s
  have hs : s.Reachable :=
    .after (.schedule 5 "b" (work "b")) (.after (.schedule 0 "a" (work "a")) (.new 150))
  obtain ⟨hkeeps, hentries⟩ := keeps_of_history (σ := List String) (α := Nat) 150
  have harmed : u.cells.IsArmed u.slots := by
    refine (hkeeps _).inStep.resolve_left fun hidle => ?_
    exact absurd hidle.phase_eq (by decide)
  exact ⟨harmed, rfl, rfl, hs, rfl, (hentries s hs).1⟩

end Cells
end Proofreader
