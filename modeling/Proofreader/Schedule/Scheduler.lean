import Proofreader.Registry
import Proofreader.Schedule.Debouncer

/-!
# Scheduling checks

A `Scheduler` keeps one debouncer for each document that has work waiting, and none for any other.
`runDue` runs what is due, earliest first and by name among those due at once; `runAll` runs
everything by name.  Both orders are total, so nothing depends on the order in which documents are
kept.
-/

set_option autoImplicit false

namespace Proofreader

/-- Work that waits for its time, by document. -/
structure Scheduler (σ α : Type) where
  /-- How long work waits, from now on. -/
  delay : Duration
  /-- The debouncers of the documents with waiting work. -/
  pending : Registry (Debouncer σ α)
  /-- What the handles show. -/
  slots : Slots α

namespace Scheduler

variable {σ α : Type}

/-- A scheduler without work. -/
def withDelay (delay : Duration) : Scheduler σ α := ⟨delay, .empty, .empty⟩

/-- Change how long work waits that is scheduled from now on. -/
def setDelay (s : Scheduler σ α) (delay : Duration) : Scheduler σ α := { s with delay }

/-- Schedule work for a document, in place of the work that waits for it. -/
def schedule (s : Scheduler σ α) (now : Instant) (id : DocumentId) (work : Work σ α) :
    Handle × Scheduler σ α :=
  let debouncer := (s.pending.find? id).getD (.idle s.delay)
  let (handle, debouncer, slots) := debouncer.trigger s.slots now s.delay work
  (handle, { s with pending := s.pending.insert id debouncer, slots })

/-- Whether work waits for a document. -/
def isWaiting (s : Scheduler σ α) (id : DocumentId) : Bool :=
  (s.pending.find? id).any (·.isArmed)

/-- For how many documents work waits. -/
def size (s : Scheduler σ α) : Nat := s.pending.size

/-- Whether no work waits. -/
def isEmpty (s : Scheduler σ α) : Bool := s.pending.isEmpty

/-- The documents with waiting work and when it is due. -/
def deadlines (s : Scheduler σ α) : List (Instant × DocumentId) :=
  s.pending.entries.filterMap fun (id, d) => d.deadline.map fun t => (t, id)

/-- The earliest time at which work is due. -/
def nextDue (s : Scheduler σ α) : Option Instant := (s.deadlines.map (·.1)).min?

/-- What a run leaves: the scheduler, the state, and the handles of what ran, in that order. -/
structure Run (σ α : Type) where
  /-- The scheduler. -/
  scheduler : Scheduler σ α
  /-- The state after the work. -/
  state : σ
  /-- The documents whose work ran, with its handle. -/
  completed : List (DocumentId × Handle)

/-- Run the work of documents, one after the other.  Each is taken out first, and `deliver` says how
its debouncer is made to run it. -/
def runEach (deliver : Debouncer σ α → Slots α → σ → Debouncer.Delivery σ α) :
    List DocumentId → Scheduler σ α → σ → Run σ α
  | [], s, state => ⟨s, state, []⟩
  | id :: ids, s, state =>
    match s.pending.find? id with
    | none => runEach deliver ids s state
    | some debouncer =>
      let done := deliver debouncer s.slots state
      let s := { s with pending := s.pending.erase id, slots := done.slots }
      let run := runEach deliver ids s done.state
      match done.handle with
      | some handle => { run with completed := (id, handle) :: run.completed }
      | none => run

/-- Whether one deadline comes before another: by time, then by document. -/
def dueBefore (a b : Instant × DocumentId) : Bool :=
  a.1 < b.1 || (a.1 == b.1 && decide (a.2 ≤ b.2))

/-- The documents whose work is due, in the order in which it runs. -/
def due (s : Scheduler σ α) (now : Instant) : List DocumentId :=
  ((s.deadlines.filter fun entry => entry.1 ≤ now).mergeSort dueBefore).map (·.2)

/-- Run the work that is due. -/
def runDue (s : Scheduler σ α) (now : Instant) (state : σ) : Run σ α :=
  runEach (fun d slots state => d.poll slots now state) (s.due now) s state

/-- Run all work. -/
def runAll (s : Scheduler σ α) (state : σ) : Run σ α :=
  runEach (fun d slots state => d.deliverNow slots state) s.pending.sortedNames s state

/-- Drop the work of a document; the first part of the result says whether there was any. -/
def cancel (s : Scheduler σ α) (id : DocumentId) : Bool × Scheduler σ α :=
  match s.pending.find? id with
  | none => (false, s)
  | some debouncer =>
    (true, { s with pending := s.pending.erase id, slots := (debouncer.cancel s.slots).2 })

/-- The handles with those of several debouncers cancelled. -/
def cancelEach (slots : Slots α) : List (DocumentId × Debouncer σ α) → Slots α
  | [] => slots
  | (_, d) :: rest => cancelEach (d.cancel slots).2 rest

/-- Drop all work. -/
def dropAll (s : Scheduler σ α) : Scheduler σ α :=
  { s with pending := .empty, slots := cancelEach s.slots s.pending.entries }

/-- Take the result of a handle, if it is there. -/
def take (s : Scheduler σ α) (h : Handle) : Option α × Scheduler σ α :=
  let (value, slots) := s.slots.take h
  (value, { s with slots })

/-- The text of a scheduler without work whose delay is a number of milliseconds. -/
def describeEmpty (delayMillis : Nat) : String :=
  "CheckScheduler \x7b delay: " ++ millisText delayMillis ++ ", pending: \x7b\x7d \x7d"

end Scheduler
end Proofreader
