import Mathlib.Data.List.Induction
import Proofreader.Proofs.Schedule.Windows

/-!
# The windows of a debouncer

A debouncer is used by a history of *moves*: triggers, polls, deliveries, cancellations, and takes
of results.  `IsIdle` and `lastAfter` cut every history into windows without looking at the
debouncer: a window begins with a trigger that comes while none is open, and lasts until a move that
delivers or cancels (`Move.next`).

* `isIdle_or_inWindow` — every history is idle at its end or ends within a window.
* `Waits` — what a debouncer holds while a window is open: the trigger that came last, and the one
  handle of the window, which waits.
* `InUse.get_afterAll_of_settled` — a handle that is settled stays so, whatever comes; all that can
  happen is that its result is taken.
* `window_laws` — what all this comes to, for every window of every history (`WindowLaws`).

Times need not increase along a history.

The laws speak of what a caller does and sees, and so do the windows that they are about.  It would
be shorter to say "while the debouncer has a window", but then a debouncer that lost its window too
early, or kept it, would satisfy the laws with windows of its own making.  So `lastAfter` computes
from the moves alone which trigger came last and whether the window is still open, and `IsIdle` is
an inductive predicate on histories; that both agree with the debouncer is proved and not assumed
(`isIdle_iff`, `Waits.afterAll`).

There are two invariants, for the two parts of the life of a handle.  While its window is open
(`Waits`), the debouncer holds the last work under this handle and the handle is pending; every move
that does not end the window keeps this, and one that does end it is a delivery of the last work or
a cancellation.  Afterwards nothing leads back to the handle.  A move writes only to a handle that
is pending, to a new one, or to one whose result it takes (`InUse.Sound.slots_after`), so a settled
handle shows the same along every later history, up to takes.  That takes do not add up is
`HandleState.afterTake_afterTake`.

The laws quantify over every split of a history into what came earlier, one move and what came
later.  They are proved from the two invariants at the place of the split, and so each of them is a
few lines; no induction is made for a single law.
-/

set_option autoImplicit false

namespace Proofreader

/-! ## Taking results -/

namespace HandleState

variable {α : Type} {o : HandleState α}

/-- What a handle shows once its result was taken. -/
def afterTake : HandleState α → HandleState α
  | resolved _ => resolved none
  | o => o

theorem afterTake_ne_pending (h : o ≠ pending) : o.afterTake ≠ pending := by
  cases o with
  | pending => exact absurd rfl h
  | _ => simp [afterTake]

theorem afterTake_afterTake (o : HandleState α) : o.afterTake.afterTake = o.afterTake := by
  cases o <;> rfl

end HandleState

namespace Slots

variable {α : Type}

theorem take_fst (s : Slots α) (h : Handle) : (s.take h).1 = (s.get h).value? := by
  rw [take]
  cases s.get h <;> rfl

theorem get_take (s : Slots α) (h other : Handle) :
    (s.take h).2.get other = if h = other then (s.get other).afterTake else s.get other := by
  split
  · rename_i heq
    subst heq
    cases hs : s.get h with
    | pending => rw [take, hs]; exact hs
    | cancelled => rw [take, hs]; exact hs
    | resolved value =>
      -- a handle that shows a result is one of the table
      have hlt : h.index < s.states.length := by
        refine Nat.lt_of_not_le fun hle => ?_
        rw [get, List.getElem?_eq_none hle] at hs
        simp at hs
      rw [take_of_resolved hs, get_set s h h _ hlt, if_pos rfl]
      rfl
  · rename_i hne
    exact get_take_of_ne s hne

end Slots

namespace Debouncer

variable {σ α : Type}

/-! ## Histories

A move is answered, and it leaves something; the two are separate functions of the same state, so
that a law about an answer in the middle of a history need not carry along all later answers. -/

/-- A request for work. -/
structure Trigger (σ α : Type) where
  /-- When it comes. -/
  now : Instant
  /-- How long the work is to wait. -/
  delay : Duration
  /-- The work. -/
  work : Work σ α

/-- When the work is due if nothing else is asked for. -/
def Trigger.due (t : Trigger σ α) : Instant := t.now + t.delay

/-- What can be done with a debouncer and the handles that it gave out.  A poll and a delivery bring
along the state that the work is to run on. -/
inductive Move (σ α : Type) where
  /-- Work is asked for. -/
  | trigger (t : Trigger σ α)
  /-- The owner asks whether the time has come. -/
  | poll (now : Instant) (state : σ)
  /-- The owner wants the work done at once. -/
  | deliverNow (state : σ)
  /-- The owner drops the work. -/
  | cancel
  /-- The result of a handle is taken. -/
  | take (h : Handle)

/-- What a move answers. -/
inductive Answer (σ α : Type) where
  /-- A handle. -/
  | handle (h : Handle)
  /-- The handle of the work that ran, if any ran, and the state behind it. -/
  | delivery (h : Option Handle) (state : σ)
  /-- Nothing. -/
  | done
  /-- A result, if it was there. -/
  | result (value : Option α)

/-- A debouncer together with what its handles show. -/
structure InUse (σ α : Type) where
  /-- The debouncer. -/
  debouncer : Debouncer σ α
  /-- What the handles show. -/
  slots : Slots α

namespace InUse

/-- A new debouncer, which has given out no handle. -/
def new (delay : Duration) : InUse σ α := ⟨.idle delay, .empty⟩

/-- What a move leaves. -/
def after (d : InUse σ α) : Move σ α → InUse σ α
  | .trigger t =>
    let (_, debouncer, slots) := d.debouncer.trigger d.slots t.now t.delay t.work
    ⟨debouncer, slots⟩
  | .poll now state =>
    let done := d.debouncer.poll d.slots now state
    ⟨done.debouncer, done.slots⟩
  | .deliverNow state =>
    let done := d.debouncer.deliverNow d.slots state
    ⟨done.debouncer, done.slots⟩
  | .cancel =>
    let (debouncer, slots) := d.debouncer.cancel d.slots
    ⟨debouncer, slots⟩
  | .take h => ⟨d.debouncer, (d.slots.take h).2⟩

/-- What a move answers. -/
def answer (d : InUse σ α) : Move σ α → Answer σ α
  | .trigger t => .handle (d.debouncer.trigger d.slots t.now t.delay t.work).1
  | .poll now state =>
    let done := d.debouncer.poll d.slots now state
    .delivery done.handle done.state
  | .deliverNow state =>
    let done := d.debouncer.deliverNow d.slots state
    .delivery done.handle done.state
  | .cancel => .done
  | .take h => .result (d.slots.take h).1

/-- What a history leaves. -/
def afterAll (d : InUse σ α) (history : List (Move σ α)) : InUse σ α := history.foldl after d

/-- A debouncer, new at first, after a history. -/
def ofHistory (delay : Duration) (history : List (Move σ α)) : InUse σ α :=
  (new delay).afterAll history

theorem afterAll_cons (d : InUse σ α) (m : Move σ α) (history : List (Move σ α)) :
    d.afterAll (m :: history) = (d.after m).afterAll history := rfl

theorem afterAll_append (d : InUse σ α) (before history : List (Move σ α)) :
    d.afterAll (before ++ history) = (d.afterAll before).afterAll history := List.foldl_append

theorem ofHistory_append (delay : Duration) (before history : List (Move σ α)) :
    ofHistory delay (before ++ history) = (ofHistory delay before).afterAll history :=
  afterAll_append _ _ _

theorem answer_take (d : InUse σ α) (h : Handle) :
    d.answer (.take h) = .result (d.slots.get h).value? := by
  rw [answer, Slots.take_fst]

end InUse

/-! ## Windows of a history

A poll may or may not end a window, and this depends on the trigger that came last: on when it came
and on its delay.  So the windows of a history are found by going through it, with the last trigger
as the state, and a debouncer is not needed for that. -/

namespace Move

/-- Whether work is asked for. -/
def isTrigger : Move σ α → Bool
  | trigger _ => true
  | _ => false

/-- Whether the result of a handle is taken. -/
def takes (h : Handle) : Move σ α → Bool
  | take other => h == other
  | _ => false

/-- The state that is brought along. -/
def state? : Move σ α → Option σ
  | poll _ state => some state
  | deliverNow state => some state
  | _ => none

/-- The state that is brought along, if the move delivers the work of a window in which `last` is
the trigger that came last. -/
def deliveredOn (last : Trigger σ α) : Move σ α → Option σ
  | poll now state => if last.due ≤ now then some state else none
  | deliverNow state => some state
  | _ => none

/-- The trigger that came last after the move, in a window in which `last` did before; none if the
move ends the window. -/
def next (last : Trigger σ α) : Move σ α → Option (Trigger σ α)
  | trigger t => some t
  | poll now _ => if last.due ≤ now then none else some last
  | deliverNow _ => none
  | cancel => none
  | take _ => some last

end Move

/-- The trigger that came last after some moves, in a window in which `last` did before; none if one
of the moves ends the window. -/
def lastAfter (last : Trigger σ α) (moves : List (Move σ α)) : Option (Trigger σ α) :=
  moves.foldlM Move.next last

/-- The moves leave no window open. -/
inductive IsIdle : List (Move σ α) → Prop
  /-- None is open at first. -/
  | start : IsIdle []
  /-- Only a trigger opens one. -/
  | goesOn {before : List (Move σ α)} {m : Move σ α} :
      IsIdle before → m.isTrigger = false → IsIdle (before ++ [m])
  /-- The window that a trigger opened has ended. -/
  | ended {before moves : List (Move σ α)} {first last : Trigger σ α} {m : Move σ α} :
      IsIdle before → lastAfter first moves = some last → m.next last = none →
      IsIdle (before ++ .trigger first :: moves ++ [m])

theorem lastAfter_append {last : Trigger σ α} {moves more : List (Move σ α)} :
    lastAfter last (moves ++ more) = (lastAfter last moves).bind fun t => lastAfter t more :=
  List.foldlM_append

theorem lastAfter_singleton (last : Trigger σ α) (m : Move σ α) :
    lastAfter last [m] = m.next last := by
  rw [lastAfter, List.foldlM_cons]
  cases m.next last <;> rfl

/-- A window that is still open after more moves was open before them. -/
theorem exists_lastAfter_of_append {last t : Trigger σ α} {moves more : List (Move σ α)}
    (h : lastAfter last (moves ++ more) = some t) :
    ∃ t', lastAfter last moves = some t' ∧ lastAfter t' more = some t := by
  rw [lastAfter_append] at h
  exact Option.bind_eq_some_iff.1 h

/-- **Every history is cut into windows**: at its end no window is open, or one is. -/
theorem isIdle_or_inWindow (history : List (Move σ α)) :
    IsIdle history ∨ ∃ before first moves last, history = before ++ .trigger first :: moves ∧
      IsIdle before ∧ lastAfter first moves = some last := by
  induction history using List.reverseRecOn with
  | nil => exact .inl .start
  | append_singleton history m ih =>
    rcases ih with hidle | ⟨before, first, moves, last, rfl, hidle, hlast⟩
    · cases hm : m.isTrigger with
      | false => exact .inl (.goesOn hidle hm)
      | true =>
        cases m with
        | trigger t => exact .inr ⟨history, t, [], t, rfl, hidle, rfl⟩
        | _ => simp [Move.isTrigger] at hm
    · cases hnext : m.next last with
      | none => exact .inl (.ended hidle hlast hnext)
      | some t =>
        refine .inr ⟨before, first, moves ++ [m], t, by simp, hidle, ?_⟩
        rw [lastAfter_append, hlast, Option.bind_some, lastAfter_singleton, hnext]

/-! ## What a debouncer holds between moves

First a debouncer without a window, then one with a window: the effect of each move, as an equation
where the move does something. -/

/-- A window is open: `last` is the trigger that came last in it, and its handle waits. -/
structure Waits (d : InUse σ α) (last : Trigger σ α) (h : Handle) : Prop where
  /-- The window is that of the last trigger. -/
  window : d.debouncer.window = some ⟨last.due, last.work, h⟩
  /-- The handle waits. -/
  pending : d.slots.get h = .pending

variable {d : InUse σ α} {last t : Trigger σ α} {h : Handle} {m : Move σ α}

/-- What a trigger does while no window is open. -/
theorem trigger_of_window_eq_none (hd : d.debouncer.window = none) (t : Trigger σ α) :
    d.answer (.trigger t) = .handle d.slots.new.1 ∧
      d.after (.trigger t) =
        ⟨{ d.debouncer with window := some ⟨t.due, t.work, d.slots.new.1⟩ }, d.slots.new.2⟩ := by
  simp only [InUse.answer, InUse.after, trigger, hd, Trigger.due, and_self]

/-- A trigger that comes while no window is open opens one, with a new handle. -/
theorem waits_of_trigger (hd : d.debouncer.window = none) (t : Trigger σ α) :
    Waits (d.after (.trigger t)) t d.slots.new.1 := by
  rw [(trigger_of_window_eq_none hd t).2]
  exact ⟨rfl, by rw [Slots.get_new, if_pos rfl]⟩

/-- While no window is open, only a trigger changes anything but results that are taken. -/
theorem window_after_of_window_eq_none (hd : d.debouncer.window = none)
    (hm : m.isTrigger = false) : (d.after m).debouncer.window = none := by
  cases m with
  | trigger t => simp [Move.isTrigger] at hm
  | poll now state => simp only [InUse.after, poll, hd]
  | deliverNow state => simp only [InUse.after, deliverNow, hd]
  | cancel => simp only [InUse.after, cancel, hd]
  | take other => exact hd

theorem answer_of_window_eq_none (hd : d.debouncer.window = none) {state : σ}
    (hs : m.state? = some state) : d.answer m = .delivery none state := by
  cases m with
  | poll now s =>
    obtain rfl := Option.some_inj.1 hs
    simp only [InUse.answer, poll, hd]
  | deliverNow s =>
    obtain rfl := Option.some_inj.1 hs
    simp only [InUse.answer, deliverNow, hd]
  | _ => simp [Move.state?] at hs

namespace Waits

theorem answer_trigger (hd : Waits d last h) (t : Trigger σ α) :
    d.answer (.trigger t) = .handle h := by
  simp only [InUse.answer, trigger, hd.window]

theorem answer_take (hd : Waits d last h) : d.answer (.take h) = .result none := by
  rw [InUse.answer_take, hd.pending]
  rfl

/-- What does not end a window leaves it open. -/
theorem after (hd : Waits d last h) (hm : m.next last = some t) : Waits (d.after m) t h := by
  cases m with
  | trigger t' =>
    obtain rfl := Option.some_inj.1 hm
    simp only [InUse.after, trigger, hd.window]
    exact ⟨rfl, hd.pending⟩
  | poll now state =>
    rw [Move.next] at hm
    split at hm
    · simp at hm
    · rename_i hlt
      obtain rfl := Option.some_inj.1 hm
      simp only [InUse.after, poll, hd.window, if_pos (Nat.not_le.1 hlt)]
      exact hd
  | deliverNow state => simp [Move.next] at hm
  | cancel => simp [Move.next] at hm
  | take other =>
    obtain rfl := Option.some_inj.1 hm
    exact ⟨hd.window, Slots.get_take_of_pending hd.pending⟩

theorem afterAll {moves : List (Move σ α)} (hd : Waits d last h)
    (hmoves : lastAfter last moves = some t) : Waits (d.afterAll moves) t h := by
  induction moves generalizing d last with
  | nil =>
    obtain rfl := Option.some_inj.1 hmoves
    exact hd
  | cons m moves ih =>
    obtain ⟨t', hm, hmoves⟩ := Option.bind_eq_some_iff.1 hmoves
    exact ih (hd.after hm) hmoves

/-- Before a window ends, nothing runs. -/
theorem answer_silent (hd : Waits d last h) (hm : m.next last = some t) {state : σ}
    (hs : m.state? = some state) : d.answer m = .delivery none state := by
  cases m with
  | poll now s =>
    obtain rfl := Option.some_inj.1 hs
    rw [Move.next] at hm
    split at hm
    · simp at hm
    · rename_i hlt
      simp only [InUse.answer, poll, hd.window, if_pos (Nat.not_le.1 hlt)]
  | deliverNow s => simp [Move.next] at hm
  | _ => simp [Move.state?] at hs

/-- A delivery is that of the work that was asked for last. -/
theorem delivery (hd : Waits d last h) {state : σ} (hm : m.deliveredOn last = some state) :
    d.answer m = .delivery (some h) (last.work state).2 ∧
      d.after m =
        ⟨{ d.debouncer with window := none }, d.slots.resolve h (last.work state).1⟩ := by
  cases m with
  | poll now s =>
    rw [Move.deliveredOn] at hm
    split at hm
    · rename_i hle
      obtain rfl := Option.some_inj.1 hm
      simp only [InUse.answer, InUse.after, poll, hd.window, if_neg (Nat.not_lt.2 hle), deliver,
        and_self]
    · simp at hm
  | deliverNow s =>
    obtain rfl := Option.some_inj.1 hm
    simp only [InUse.answer, InUse.after, deliverNow, hd.window, deliver, and_self]
  | _ => simp [Move.deliveredOn] at hm

theorem after_cancel (hd : Waits d last h) :
    d.after .cancel = ⟨{ d.debouncer with window := none }, d.slots.cancel h⟩ := by
  simp only [InUse.after, cancel, hd.window]

/-- What ends a window delivers or cancels. -/
theorem window_after (hd : Waits d last h) (hm : m.next last = none) :
    (d.after m).debouncer.window = none := by
  cases m with
  | trigger t => simp [Move.next] at hm
  | poll now state =>
    have hle : last.due ≤ now := by
      rw [Move.next] at hm
      split at hm
      · assumption
      · simp at hm
    have hdel : (Move.poll now state).deliveredOn last = some state := if_pos hle
    rw [(hd.delivery hdel).2]
  | deliverNow state => rw [(hd.delivery rfl).2]
  | cancel => rw [hd.after_cancel]
  | take other => simp [Move.next] at hm

end Waits

/-! ## What holds along a history

`InUse.Sound` is what remains of `Waits` when one does not care which window it is.  The lemmas on
settled handles need no more than that. -/

/-- No window is open, or one is and its handle waits. -/
def InUse.Sound (d : InUse σ α) : Prop :=
  d.debouncer.window = none ∨ ∃ last h, Waits d last h

/-- The answer to a trigger is the handle of the window that is open from then on. -/
theorem InUse.Sound.waits_trigger (hd : d.Sound) (t : Trigger σ α) :
    ∃ h, d.answer (.trigger t) = .handle h ∧ Waits (d.after (.trigger t)) t h := by
  rcases hd with hd | ⟨last, h, hd⟩
  · exact ⟨_, (trigger_of_window_eq_none hd t).1, waits_of_trigger hd t⟩
  · exact ⟨h, hd.answer_trigger t, hd.after rfl⟩

theorem InUse.Sound.after (hd : d.Sound) (m : Move σ α) : (d.after m).Sound := by
  cases hm : m.isTrigger with
  | true =>
    cases m with
    | trigger t =>
      obtain ⟨h, -, hw⟩ := hd.waits_trigger t
      exact .inr ⟨t, h, hw⟩
    | _ => simp [Move.isTrigger] at hm
  | false =>
    rcases hd with hd | ⟨last, h, hd⟩
    · exact .inl (window_after_of_window_eq_none hd hm)
    · cases hnext : m.next last with
      | none => exact .inl (hd.window_after hnext)
      | some t => exact .inr ⟨t, h, hd.after hnext⟩

theorem InUse.Sound.afterAll (hd : d.Sound) (history : List (Move σ α)) :
    (d.afterAll history).Sound := by
  induction history generalizing d with
  | nil => exact hd
  | cons m history ih => exact ih (hd.after m)

theorem InUse.sound_ofHistory (delay : Duration) (history : List (Move σ α)) :
    (ofHistory delay history).Sound := Sound.afterAll (.inl rfl) history

/-- **What a move does to the table of handles**: it takes a result, or it leaves the table, adds a
handle to it, or settles one that waits. -/
theorem InUse.Sound.slots_after (hd : d.Sound) (m : Move σ α) :
    (∃ other, m = .take other ∧ (d.after m).slots = (d.slots.take other).2) ∨
      (∀ h, m.takes h = false) ∧ ((d.after m).slots = d.slots ∨
        (d.after m).slots = d.slots.new.2 ∨
        ∃ other o, d.slots.get other = .pending ∧ (d.after m).slots = d.slots.set other o) := by
  cases m with
  | take other => exact .inl ⟨other, rfl, rfl⟩
  | trigger t =>
    refine .inr ⟨fun h => rfl, ?_⟩
    rcases hd with hd | ⟨last, h, hd⟩
    · exact .inr (.inl (by rw [(trigger_of_window_eq_none hd t).2]))
    · exact .inl (by simp only [InUse.after, trigger, hd.window])
  | poll now state =>
    refine .inr ⟨fun h => rfl, ?_⟩
    rcases hd with hd | ⟨last, h, hd⟩
    · exact .inl (by simp only [InUse.after, poll, hd])
    · by_cases hle : last.due ≤ now
      · have hdel : (Move.poll now state).deliveredOn last = some state := if_pos hle
        exact .inr (.inr ⟨h, _, hd.pending, by rw [(hd.delivery hdel).2]; rfl⟩)
      · exact .inl (by simp only [InUse.after, poll, hd.window, if_pos (Nat.not_le.1 hle)])
  | deliverNow state =>
    refine .inr ⟨fun h => rfl, ?_⟩
    rcases hd with hd | ⟨last, h, hd⟩
    · exact .inl (by simp only [InUse.after, deliverNow, hd])
    · exact .inr (.inr ⟨h, _, hd.pending, by rw [(hd.delivery rfl).2]; rfl⟩)
  | cancel =>
    refine .inr ⟨fun h => rfl, ?_⟩
    rcases hd with hd | ⟨last, h, hd⟩
    · exact .inl (by simp only [InUse.after, cancel, hd])
    · exact .inr (.inr ⟨h, _, hd.pending, by rw [hd.after_cancel]; rfl⟩)

/-- No handle is forgotten. -/
theorem InUse.Sound.length_le_after (hd : d.Sound) (m : Move σ α) :
    d.slots.states.length ≤ (d.after m).slots.states.length := by
  rcases hd.slots_after m with ⟨other, -, hs⟩ | ⟨-, hs | hs | ⟨other, o, -, hs⟩⟩
  · exact Nat.le_of_eq (by rw [hs, Slots.length_take])
  · exact Nat.le_of_eq (by rw [hs])
  · rw [hs, Slots.length_new]
    exact Nat.le_succ _
  · exact Nat.le_of_eq (by rw [hs, Slots.length_set])

theorem InUse.Sound.length_le_afterAll (hd : d.Sound) (history : List (Move σ α)) :
    d.slots.states.length ≤ (d.afterAll history).slots.states.length := by
  induction history generalizing d with
  | nil => exact Nat.le_refl _
  | cons m history ih => exact Nat.le_trans (hd.length_le_after m) (ih (hd.after m))

/-- What a settled handle shows after a move. -/
theorem InUse.Sound.get_after_of_settled (hd : d.Sound) (hlt : h.index < d.slots.states.length)
    (hh : d.slots.get h ≠ .pending) (m : Move σ α) :
    (d.after m).slots.get h =
      if m.takes h then (d.slots.get h).afterTake else d.slots.get h := by
  rcases hd.slots_after m with ⟨other, rfl, hs⟩ | ⟨hm, hs⟩
  · have hiff : (Move.take other : Move σ α).takes h = true ↔ other = h := by
      rw [Move.takes, beq_iff_eq, eq_comm]
    simp only [hs, Slots.get_take, hiff]
  · rw [hm, if_neg Bool.false_ne_true]
    rcases hs with hs | hs | ⟨other, o, hother, hs⟩
    · rw [hs]
    · rw [hs, Slots.get_new_of_index_lt hlt]
    · rw [hs, Slots.get_set_of_ne o fun heq : other = h => hh (heq ▸ hother)]

/-- **What is settled stays settled.**  A handle that waits no more shows the same for ever, but for
its result, which is gone after the first take. -/
theorem InUse.Sound.get_afterAll_of_settled (hd : d.Sound)
    (hlt : h.index < d.slots.states.length) (hh : d.slots.get h ≠ .pending)
    (history : List (Move σ α)) :
    (d.afterAll history).slots.get h =
      if history.any (·.takes h) then (d.slots.get h).afterTake else d.slots.get h := by
  induction history generalizing d with
  | nil => rfl
  | cons m history ih =>
    have hafter := hd.get_after_of_settled hlt hh m
    have hsettled : (d.after m).slots.get h ≠ .pending := by
      rw [hafter]
      split
      · exact HandleState.afterTake_ne_pending hh
      · exact hh
    have hrest := ih (hd.after m) (Nat.lt_of_lt_of_le hlt (hd.length_le_after m)) hsettled
    rw [InUse.afterAll_cons, hrest, hafter, List.any_cons]
    cases m.takes h <;> simp [HandleState.afterTake_afterTake]

/-! ## Every window of every history

A window is given by the history before it, its first trigger and the moves since; `last` is
computed from these.  The handle is the next one of the table at the time when the window opens, so
it is different from those of all windows before. -/

/-- What is said of the window that the trigger `first` opens after a history `before`, and in which
`last` came last after the moves `moves`.  The handle of the window is `h`. -/
structure WindowLaws (delay : Duration) (before : List (Move σ α)) (first : Trigger σ α)
    (moves : List (Move σ α)) (last : Trigger σ α) (h : Handle) : Prop where
  /-- The trigger that opens the window is answered with the handle, -/
  opened : (InUse.ofHistory delay before).answer (.trigger first) = .handle h
  /-- and so is every other trigger of the window. -/
  shared : ∀ earlier t later, moves = earlier ++ .trigger t :: later →
    (InUse.ofHistory delay (before ++ .trigger first :: earlier)).answer (.trigger t) = .handle h
  /-- No trigger of an earlier window was. -/
  own : ∀ earlier t later, before = earlier ++ .trigger t :: later →
    (InUse.ofHistory delay earlier).answer (.trigger t) ≠ .handle h
  /-- Within the window nothing runs: a state that is brought along is left as it is. -/
  silent : ∀ earlier m later state, moves = earlier ++ m :: later → m.state? = some state →
    (InUse.ofHistory delay (before ++ .trigger first :: earlier)).answer m = .delivery none state
  /-- All the time the handle waits, and there is nothing to take. -/
  waits : ∀ earlier later, moves = earlier ++ later →
    (InUse.ofHistory delay (before ++ .trigger first :: earlier)).slots.get h = .pending ∧
      (InUse.ofHistory delay (before ++ .trigger first :: earlier)).answer (.take h) = .result none
  /-- A delivery runs the work of the last trigger on the state that it brings along. -/
  delivered : ∀ m state, m.deliveredOn last = some state →
    (InUse.ofHistory delay (before ++ .trigger first :: moves)).answer m =
      .delivery (some h) (last.work state).2
  /-- From then on the handle is resolved; the result is there for the first take. -/
  resolved : ∀ m state later, m.deliveredOn last = some state →
    let result := if later.any (·.takes h) then none else some (last.work state).1
    let d := InUse.ofHistory delay (before ++ .trigger first :: moves ++ m :: later)
    d.slots.get h = .resolved result ∧ d.answer (.take h) = .result result
  /-- If the window is cancelled instead, the handle is cancelled from then on. -/
  cancelled : ∀ later,
    let d := InUse.ofHistory delay (before ++ .trigger first :: moves ++ .cancel :: later)
    d.slots.get h = .cancelled ∧ d.answer (.take h) = .result none

variable {delay : Duration} {before moves : List (Move σ α)} {first : Trigger σ α}

/-- The debouncer within a window: by its moves, from the trigger on that opened it. -/
theorem waits_ofHistory (hidle : (InUse.ofHistory delay before).debouncer.window = none)
    (hlast : lastAfter first moves = some last) :
    Waits (InUse.ofHistory delay (before ++ .trigger first :: moves)) last
      (InUse.ofHistory delay before).slots.new.1 := by
  rw [InUse.ofHistory_append]
  exact (waits_of_trigger hidle first).afterAll hlast

/-- A history that leaves no window open leaves the debouncer without one. -/
theorem IsIdle.window_eq_none (delay : Duration) {history : List (Move σ α)}
    (hidle : IsIdle history) : (InUse.ofHistory delay history).debouncer.window = none := by
  induction hidle with
  | start => rfl
  | goesOn _ hm ih =>
    rw [InUse.ofHistory_append]
    exact window_after_of_window_eq_none ih hm
  | ended _ hlast hnext ih =>
    rw [InUse.ofHistory_append]
    exact (waits_ofHistory ih hlast).window_after hnext

theorem isIdle_iff (delay : Duration) (history : List (Move σ α)) :
    IsIdle history ↔ (InUse.ofHistory delay history).debouncer.isArmed = false := by
  constructor
  · intro hidle
    rw [isArmed, hidle.window_eq_none delay]
    rfl
  · intro harmed
    rcases isIdle_or_inWindow history with hidle | ⟨before, first, moves, last, rfl, hidle, hlast⟩
    · exact hidle
    · rw [isArmed, (waits_ofHistory (hidle.window_eq_none delay) hlast).window] at harmed
      simp at harmed

/-- What a handle shows from the moment on that it was settled. -/
theorem get_ofHistory_of_settled {history : List (Move σ α)} {o : HandleState α}
    (hlt : h.index < (InUse.ofHistory delay history).slots.states.length)
    (ho : ((InUse.ofHistory delay history).after m).slots.get h = o) (hne : o ≠ .pending)
    (later : List (Move σ α)) :
    (InUse.ofHistory delay (history ++ m :: later)).slots.get h =
      if later.any (·.takes h) then o.afterTake else o := by
  have hsound := InUse.sound_ofHistory delay history
  rw [InUse.ofHistory_append, InUse.afterAll_cons, ← ho]
  refine (hsound.after m).get_afterAll_of_settled ?_ (by rw [ho]; exact hne) later
  exact Nat.lt_of_lt_of_le hlt (hsound.length_le_after m)

/-- **A window**, seen from the outside. -/
theorem windowLaws_of_isIdle (delay : Duration) (hidle : IsIdle before)
    (hlast : lastAfter first moves = some last) :
    WindowLaws delay before first moves last (InUse.ofHistory delay before).slots.new.1 := by
  have hnone := hidle.window_eq_none delay
  have hwaits := waits_ofHistory hnone hlast
  have hlt := Slots.index_lt_of_get_eq_pending hwaits.pending
  refine ⟨(trigger_of_window_eq_none hnone first).1, fun earlier t later heq => ?_,
    fun earlier t later heq hanswer => ?_, fun earlier m later state heq hs => ?_,
    fun earlier later heq => ?_, fun m state hm => (hwaits.delivery hm).1,
    fun m state later hm => ?_, fun later => ?_⟩
  · subst heq
    obtain ⟨t', ht', -⟩ := exists_lastAfter_of_append hlast
    exact (waits_ofHistory hnone ht').answer_trigger t
  · -- an earlier handle is one of the table that the window found, and its own is not
    subst heq
    obtain ⟨h, hh, hw⟩ := (InUse.sound_ofHistory delay earlier).waits_trigger t
    rw [hh, Answer.handle.injEq] at hanswer
    have hsound := (InUse.sound_ofHistory delay earlier).after (.trigger t)
    have hearlier := Slots.index_lt_of_get_eq_pending hw.pending
    refine Slots.ne_new_of_index_lt (Nat.lt_of_lt_of_le hearlier ?_) hanswer
    rw [InUse.ofHistory_append]
    exact hsound.length_le_afterAll later
  · subst heq
    obtain ⟨t', ht', hmore⟩ := exists_lastAfter_of_append hlast
    obtain ⟨t'', hnext, -⟩ := Option.bind_eq_some_iff.1 hmore
    exact (waits_ofHistory hnone ht').answer_silent hnext hs
  · subst heq
    obtain ⟨t', ht', -⟩ := exists_lastAfter_of_append hlast
    have hw := waits_ofHistory hnone ht'
    exact ⟨hw.pending, hw.answer_take⟩
  · have hsettled : ((InUse.ofHistory delay (before ++ .trigger first :: moves)).after m).slots.get
        (InUse.ofHistory delay before).slots.new.1 = .resolved (some (last.work state).1) := by
      rw [(hwaits.delivery hm).2, Slots.resolve, Slots.get_set_of_pending hwaits.pending,
        if_pos rfl]
    dsimp only
    rw [InUse.answer_take, get_ofHistory_of_settled hlt hsettled (by simp) later]
    split <;> exact ⟨rfl, rfl⟩
  · have hsettled : ((InUse.ofHistory delay (before ++ .trigger first :: moves)).after
        .cancel).slots.get (InUse.ofHistory delay before).slots.new.1 = .cancelled := by
      rw [hwaits.after_cancel, Slots.cancel, Slots.get_set_of_pending hwaits.pending, if_pos rfl]
    dsimp only
    rw [InUse.answer_take, get_ofHistory_of_settled hlt hsettled (by simp) later]
    split <;> exact ⟨rfl, rfl⟩

/-- **The windows of a debouncer.**  Every history of a new debouncer is cut into windows.  When no
window is open, nothing waits, and a state that is brought along is left as it is.  Of every window
the laws hold: it has one handle, which is that of no other window, and one run, of the work that
was asked for last, at the delivery that ends it. -/
theorem window_laws (delay : Duration) :
    (∀ history : List (Move σ α), IsIdle history ∨ ∃ before first moves last,
      history = before ++ .trigger first :: moves ∧ IsIdle before ∧
        lastAfter first moves = some last) ∧
    (∀ history : List (Move σ α),
      IsIdle history ↔ (InUse.ofHistory delay history).debouncer.isArmed = false) ∧
    (∀ (history : List (Move σ α)) m state, IsIdle history → m.state? = some state →
      (InUse.ofHistory delay history).answer m = .delivery none state) ∧
    ∀ (before moves : List (Move σ α)) first last, IsIdle before →
      lastAfter first moves = some last →
      ∃ h, WindowLaws delay before first moves last h :=
  ⟨isIdle_or_inWindow, isIdle_iff delay,
    fun _ _ _ hidle hs => answer_of_window_eq_none (hidle.window_eq_none delay) hs,
    fun _ _ _ _ hidle hlast => ⟨_, windowLaws_of_isIdle delay hidle hlast⟩⟩

/-- The second window of a history: of its three pieces of work, the last one runs. -/
theorem window_laws_three_triggers :
    let work (label : String) : Work (List String) Nat := fun log => (log.length, log ++ [label])
    let first : Trigger (List String) Nat := ⟨20, 150, work "first"⟩
    let third : Trigger (List String) Nat := ⟨100, 150, work "third"⟩
    let before := [.trigger ⟨0, 10, work "early"⟩, .poll 10 []]
    let moves := [.trigger ⟨50, 150, work "second"⟩, .trigger third, .poll 200 ["early"]]
    IsIdle before ∧ lastAfter first moves = some third ∧
      (InUse.ofHistory 150 (before ++ .trigger first :: moves)).answer (.poll 250 ["early"]) =
        .delivery (some ⟨1⟩) ["early", "third"] := by
  intro work first third before moves
  have hopen : lastAfter ⟨0, 10, work "early"⟩ [] = some ⟨0, 10, work "early"⟩ := rfl
  have hidle : IsIdle before := .ended .start hopen rfl
  obtain ⟨h, laws⟩ := (window_laws 150).2.2.2 before moves first third hidle rfl
  obtain rfl : h = ⟨1⟩ := ((Answer.handle.injEq _ _).mp laws.opened).symm
  exact ⟨hidle, rfl, laws.delivered (.poll 250 ["early"]) ["early"] rfl⟩

end Debouncer
end Proofreader
