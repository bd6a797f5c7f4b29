import Proofreader.Schedule.Handle
import Proofreader.Schedule.Time

/-!
# Debouncing

A `Debouncer` turns a burst of triggers into one piece of work.  A trigger opens a *window*; every
further trigger replaces the work and restarts the clock; when the delay has passed without another
one, the work that came last runs.  All triggers of a window share one handle.

Nothing runs by itself.  The owner asks with `poll` whether the time has come, and brings along the
state that the work reads and changes.

A deadline is an instant and a delay added up.  Instants have no end (see the module on time), so
there always is such a deadline; on a clock that ends, a trigger could fail.
-/

set_option autoImplicit false

namespace Proofreader

/-- Work that reads and changes a state and has a result. -/
abbrev Work (σ α : Type) := σ → α × σ

/-- A window that is open: work is waiting. -/
structure Window (σ α : Type) where
  /-- When the work is due. -/
  deadline : Instant
  /-- The work. -/
  work : Work σ α
  /-- The handle of everyone who asked. -/
  handle : Handle

/-- Coalesces triggers. -/
structure Debouncer (σ α : Type) where
  /-- The delay of a trigger that names none. -/
  defaultDelay : Duration
  /-- The window, if one is open. -/
  window : Option (Window σ α)

namespace Debouncer

variable {σ α : Type}

/-- A debouncer without a window. -/
def idle (defaultDelay : Duration) : Debouncer σ α := ⟨defaultDelay, none⟩

/-- Whether a window is open. -/
def isArmed (d : Debouncer σ α) : Bool := d.window.isSome

/-- When the waiting work is due. -/
def deadline (d : Debouncer σ α) : Option Instant := d.window.map Window.deadline

/-- The word for the state. -/
def stateText (d : Debouncer σ α) : String := if d.isArmed then "Armed" else "Idle"

/-- Ask for work to run `delay` after `now`: open a window, or replace the work of the one that is
open and restart its clock. -/
def trigger (d : Debouncer σ α) (slots : Slots α) (now : Instant) (delay : Duration)
    (work : Work σ α) : Handle × Debouncer σ α × Slots α :=
  match d.window with
  | some w => (w.handle, { d with window := some ⟨now + delay, work, w.handle⟩ }, slots)
  | none =>
    let (handle, slots) := slots.new
    (handle, { d with window := some ⟨now + delay, work, handle⟩ }, slots)

/-- What a delivery leaves: the debouncer, the handles, the state, and the handle of what ran. -/
structure Delivery (σ α : Type) where
  /-- The debouncer. -/
  debouncer : Debouncer σ α
  /-- What the handles show. -/
  slots : Slots α
  /-- The state after the work. -/
  state : σ
  /-- The handle of the work, if any ran. -/
  handle : Option Handle

/-- Run the work of a window and close it. -/
def deliver (d : Debouncer σ α) (slots : Slots α) (state : σ) (w : Window σ α) : Delivery σ α :=
  let (value, state) := w.work state
  ⟨{ d with window := none }, slots.resolve w.handle value, state, some w.handle⟩

/-- Run the waiting work if it is due. -/
def poll (d : Debouncer σ α) (slots : Slots α) (now : Instant) (state : σ) : Delivery σ α :=
  match d.window with
  | some w => if now < w.deadline then ⟨d, slots, state, none⟩ else d.deliver slots state w
  | none => ⟨d, slots, state, none⟩

/-- Run the waiting work, due or not. -/
def deliverNow (d : Debouncer σ α) (slots : Slots α) (state : σ) : Delivery σ α :=
  match d.window with
  | some w => d.deliver slots state w
  | none => ⟨d, slots, state, none⟩

/-- Drop the waiting work; its handle is cancelled. -/
def cancel (d : Debouncer σ α) (slots : Slots α) : Debouncer σ α × Slots α :=
  match d.window with
  | some w => ({ d with window := none }, slots.cancel w.handle)
  | none => (d, slots)

/-- The text of an idle debouncer whose delay is a number of milliseconds. -/
def describeIdle (delayMillis : Nat) : String :=
  "Debouncer \x7b default_delay: " ++ millisText delayMillis ++ ", state: Idle, deadline: None \x7d"

end Debouncer
end Proofreader
