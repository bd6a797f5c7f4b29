import Mathlib.Data.List.Basic
import Proofreader.Proofs.Schedule.Debouncing
import Proofreader.Proofs.Schedule.Runs

/-!
# A scheduler is a debouncer for each document

A scheduler makes a debouncer when work is scheduled for a document that has none, and drops it when
the work has run or is cancelled.  Seen from a document, nothing of this shows: it is served as by
one debouncer of its own that is there all the time.

* `project` — what a history of the scheduler is for one document: its own operations and those that
  concern all documents.  Everything about other documents is left out.
* `alone` — the debouncer of a document: new at first, and used by that projection.
* `Follows` — how the scheduler and such a debouncer stand to each other.  Their handles have
  different numbers; `handles` is the list of those that answer to each other, call by call.
* `Follows.after` — every operation keeps the relation.
* `Serves` — what can be seen of a scheduler, said of debouncers; `RunsAs` is the part on runs, in
  which the state goes from one document to the next.
* `serves_alone` — after every history, the scheduler serves each document as its debouncer does.

This is a simulation between one machine and many, taken one document at a time.  The scheduler
takes a step for every operation, the debouncer of a document only for those that concern it, and so
the projection gives for each operation a list of moves, of which most are empty.

Three things make the two sides differ though a document cannot see it.  The debouncer of a
scheduler is a new one for every window, and the lone one stays; so the relation compares windows
and not debouncers.  Handles are numbered across all documents, so the numbers differ; the relation
has a list of pairs of handles, one for each call, and says that two calls share a handle on the one
side if and only if they do on the other.  And the state on which work runs has gone through the
work of other documents before; the projection brings along the state in which the turn of the
document comes (`turn`), so a run of many documents is for each of them a poll on a state of its
own.

The last point is where the scheduler is not replaced by its debouncers completely: in which state
the turn of a document comes is computed by the scheduler.  `RunsAs` closes the gap, since it says
that the state at the turn is what the debouncers of the documents before have left, in the order of
the run.

`Follows` is kept by an operation in one of three ways, and each has its lemma.  What leaves the
document alone changes neither its window nor the handles of the list (`of_frame`).  What opens its
window, or replaces what is in it, adds a pair of handles (`of_open`).  What closes the window
settles one handle on each side, in the same way (`of_close`).  The operations differ in which of
the three they are and in how the premises are come by.
-/

set_option autoImplicit false

namespace Proofreader

variable {σ α : Type}

theorem Work.each_append (works more : List (Work σ α)) (state : σ) :
    Work.each (works ++ more) state =
      ((Work.each works state).1 ++ (Work.each more (Work.each works state).2).1,
        (Work.each more (Work.each works state).2).2) := by
  induction works generalizing state with
  | nil => rfl
  | cons work works ih => simp only [List.cons_append, Work.each, ih]

namespace Scheduler

/-! ## Histories

A run brings along the state on which the work runs, and what it leaves of the state is not kept:
between two runs the owner may do with it what it likes. -/

/-- What can be done with a scheduler.  A run brings along the state that the work is to run on. -/
inductive Move (σ α : Type) where
  /-- Work is scheduled for a document. -/
  | schedule (now : Instant) (id : DocumentId) (work : Work σ α)
  /-- Another delay counts from then on. -/
  | setDelay (delay : Duration)
  /-- What is due is run. -/
  | runDue (now : Instant) (state : σ)
  /-- Everything is run. -/
  | runAll (state : σ)
  /-- The work of a document is dropped. -/
  | cancel (id : DocumentId)
  /-- All work is dropped. -/
  | dropAll

/-- What a move leaves. -/
def after (s : Scheduler σ α) : Move σ α → Scheduler σ α
  | .schedule now id work => (s.schedule now id work).2
  | .setDelay delay => s.setDelay delay
  | .runDue now state => (s.runDue now state).scheduler
  | .runAll state => (s.runAll state).scheduler
  | .cancel id => (s.cancel id).2
  | .dropAll => s.dropAll

/-- A scheduler, without work at first, after a history. -/
def ofHistory (delay : Duration) (history : List (Move σ α)) : Scheduler σ α :=
  history.foldl after (withDelay delay)

/-! ## What a history is for one document

The delay that counts for a trigger is that of the scheduler at the time, so the projection goes
along with the delay.  It also goes along with the scheduler, but only to find out in which state
the turn of the document comes. -/

/-- The state in which the turn of a document comes, when documents are run one after the other. -/
def turn (deliver : Debouncer σ α → Slots α → σ → Debouncer.Delivery σ α)
    (ids : List DocumentId) (s : Scheduler σ α) (state : σ) (id : DocumentId) : σ :=
  (runEach deliver (ids.takeWhile (· != id)) s state).state

/-- The poll that a run of what is due is for a document. -/
def pollOf (s : Scheduler σ α) (now : Instant) (state : σ) (id : DocumentId) :
    Debouncer.Move σ α :=
  .poll now (turn (fun d slots state => d.poll slots now state) (s.due now) s state id)

/-- The delivery that a run of everything is for a document. -/
def deliveryOf (s : Scheduler σ α) (state : σ) (id : DocumentId) : Debouncer.Move σ α :=
  .deliverNow
    (turn (fun d slots state => d.deliverNow slots state) s.pending.sortedNames s state id)

/-- The delay that counts after a move. -/
def Move.delay (delay : Duration) : Move σ α → Duration
  | setDelay delay => delay
  | _ => delay

/-- What a move is for a document, when a delay counts: scheduling is a trigger, a run is a poll or
a delivery on the state in which the turn of the document comes, and what concerns other documents
is nothing. -/
def Move.on (id : DocumentId) (delay : Duration) (s : Scheduler σ α) :
    Move σ α → List (Debouncer.Move σ α)
  | schedule now other work => if other = id then [.trigger ⟨now, delay, work⟩] else []
  | setDelay _ => []
  | runDue now state => [s.pollOf now state id]
  | runAll state => [s.deliveryOf state id]
  | cancel other => if other = id then [.cancel] else []
  | dropAll => [.cancel]

/-- What a history is for a document. -/
def project (id : DocumentId) : Duration → Scheduler σ α → List (Move σ α) →
    List (Debouncer.Move σ α)
  | _, _, [] => []
  | delay, s, m :: history =>
    m.on id delay s ++ project id (m.delay delay) (s.after m) history

/-- The debouncer of a document by itself: new at first, and used by what a history is for the
document. -/
def alone (delay : Duration) (history : List (Move σ α)) (id : DocumentId) : Debouncer.InUse σ α :=
  .ofHistory delay (project id delay (withDelay delay) history)

/-- The handles that a move gives out for a document: by the scheduler, and by its debouncer. -/
def Move.handles (id : DocumentId) (delay : Duration) (s : Scheduler σ α)
    (d : Debouncer.InUse σ α) : Move σ α → List (Handle × Handle)
  | schedule now other work =>
    if other = id then
      [((s.schedule now id work).1, (d.debouncer.trigger d.slots now delay work).1)]
    else []
  | _ => []

/-- The handles that a history gives out for a document, call by call. -/
def handlesFrom (id : DocumentId) : Duration → Scheduler σ α → Debouncer.InUse σ α →
    List (Move σ α) → List (Handle × Handle)
  | _, _, _, [] => []
  | delay, s, d, m :: history =>
    m.handles id delay s d ++
      handlesFrom id (m.delay delay) (s.after m) (d.afterAll (m.on id delay s)) history

/-- The handles that were given out for a document in a history, call by call: those of the
scheduler, and those of the debouncer that it would have alone. -/
def handles (delay : Duration) (history : List (Move σ α)) (id : DocumentId) :
    List (Handle × Handle) := handlesFrom id delay (withDelay delay) (.new delay) history

/-! ## The relation

No other document waits on a handle of the list: without this field, running another document could
settle a handle that this one was given. -/

/-- The debouncer `d` stands as the scheduler `s` does for a document, when the handles `pairs` have
been given out for it. -/
structure Follows (s : Scheduler σ α) (id : DocumentId) (d : Debouncer.InUse σ α)
    (pairs : List (Handle × Handle)) : Prop where
  /-- Neither has a window, -/
  idle : s.window? id = none → d.debouncer.window = none
  /-- or both have one: with the same work at the same time, and with handles that answer to each
  other. -/
  armed : ∀ w, s.window? id = some w → ∃ h,
    d.debouncer.window = some ⟨w.deadline, w.work, h⟩ ∧ (w.handle, h) ∈ pairs
  /-- Calls share a handle here if they share one there. -/
  shared : ∀ p ∈ pairs, ∀ q ∈ pairs, p.1 = q.1 ↔ p.2 = q.2
  /-- The handles show the same. -/
  same : ∀ p ∈ pairs, s.slots.get p.1 = d.slots.get p.2
  /-- They are handles of the tables. -/
  known : ∀ p ∈ pairs,
    p.1.index < s.slots.states.length ∧ p.2.index < d.slots.states.length
  /-- No other document waits on one of them. -/
  apart : ∀ other w, s.window? other = some w → other ≠ id → ∀ p ∈ pairs, p.1 ≠ w.handle

variable {s s' : Scheduler σ α} {id : DocumentId} {d d' : Debouncer.InUse σ α}
  {pairs : List (Handle × Handle)} {w : Window σ α} {h : Handle}

theorem follows_withDelay (delay : Duration) (id : DocumentId) :
    (withDelay delay : Scheduler σ α).Follows id (.new delay) [] where
  idle _ := rfl
  armed w hw := by simp [window?, withDelay] at hw
  shared p hp := by simp at hp
  same p hp := by simp at hp
  known p hp := by simp at hp
  apart other w hw := by simp [window?, withDelay] at hw

/-- A window of the document is the window of its debouncer, and waits there. -/
theorem Follows.waits (hf : s.Follows id d pairs) (hs : s.Sound) (hw : s.window? id = some w) :
    ∃ h, Debouncer.Waits d ⟨w.deadline, 0, w.work⟩ h ∧ (w.handle, h) ∈ pairs := by
  obtain ⟨h, hd, hmem⟩ := hf.armed w hw
  exact ⟨h, ⟨hd, by rw [← hf.same _ hmem]; exact hs.waits id w hw⟩, hmem⟩

/-- What leaves the document alone keeps the relation. -/
theorem Follows.of_frame (hf : s.Follows id d pairs) (hwindow : s'.window? id = s.window? id)
    (hget : ∀ p ∈ pairs, s'.slots.get p.1 = s.slots.get p.1)
    (hlength : s.slots.states.length ≤ s'.slots.states.length)
    (hapart : ∀ other w, s'.window? other = some w → other ≠ id → ∀ p ∈ pairs, p.1 ≠ w.handle) :
    s'.Follows id d pairs where
  idle hw := hf.idle (hwindow ▸ hw)
  armed w hw := hf.armed w (hwindow ▸ hw)
  shared := hf.shared
  same p hp := (hget p hp).trans (hf.same p hp)
  known p hp := ⟨Nat.lt_of_lt_of_le (hf.known p hp).1 hlength, (hf.known p hp).2⟩
  apart := hapart

/-- When the window of the document closes on both sides, and its handles settle in the same way,
the relation is kept. -/
theorem Follows.of_close (hf : s.Follows id d pairs) {last : Debouncer.Trigger σ α}
    (hwaits : Debouncer.Waits d last h) (hmem : (w.handle, h) ∈ pairs) {o : HandleState α}
    (hwindow : s'.window? id = none) (hself : s'.slots.get w.handle = o)
    (hget : ∀ p ∈ pairs, w.handle ≠ p.1 → s'.slots.get p.1 = s.slots.get p.1)
    (hlength : s.slots.states.length ≤ s'.slots.states.length)
    (hapart : ∀ other w, s'.window? other = some w → other ≠ id → ∀ p ∈ pairs, p.1 ≠ w.handle)
    (hidle : d'.debouncer.window = none) (hslots : d'.slots = d.slots.set h o) :
    s'.Follows id d' pairs where
  idle _ := hidle
  armed w hw := by simp [hwindow] at hw
  shared := hf.shared
  same p hp := by
    rw [hslots, Slots.get_set_of_pending hwaits.pending]
    have hiff := hf.shared _ hmem p hp
    by_cases heq : w.handle = p.1
    · rw [if_pos (hiff.1 heq), ← heq, hself]
    · rw [if_neg fun h => heq (hiff.2 h), hget p hp heq, hf.same p hp]
  known p hp := by
    rw [hslots, Slots.length_set]
    exact ⟨Nat.lt_of_lt_of_le (hf.known p hp).1 hlength, (hf.known p hp).2⟩
  apart := hapart

/-! ## Scheduling -/

/-- Work for another document. -/
theorem Follows.schedule_of_ne (hf : s.Follows id d pairs) (now : Instant) {other : DocumentId}
    (work : Work σ α) (hne : other ≠ id) : (s.schedule now other work).2.Follows id d pairs := by
  refine hf.of_frame ?_ (fun p hp => ?_) ?_ (fun another w hw hid p hp => ?_)
  · rw [window?_schedule, if_neg hne]
  · rw [slots_schedule, get_slotsFor_of_index_lt _ (hf.known p hp).1]
  · rw [slots_schedule]
    exact s.length_slotsFor other
  · rw [window?_schedule] at hw
    split at hw
    · -- the handle that was given out is new, or the other document waited on it already
      rw [← Option.some_inj.1 hw, handleFor]
      cases hother : s.window? other with
      | none => exact Slots.ne_new_of_index_lt (hf.known p hp).1
      | some v => exact hf.apart other v hother hne p hp
    · exact hf.apart another w hw hid p hp

/-- When the window of the document is opened on both sides, or opened anew, its two handles answer
to each other from then on. -/
theorem Follows.of_open (hf : s.Follows id d pairs) (hs' : s'.Sound)
    {last : Debouncer.Trigger σ α} {a b : Handle}
    (hwindow : s'.window? id = some ⟨last.due, last.work, a⟩) (hwaits : Debouncer.Waits d' last b)
    (hshared : ∀ p ∈ pairs, p.1 = a ↔ p.2 = b)
    (hget : ∀ p ∈ pairs, s'.slots.get p.1 = s.slots.get p.1)
    (hget' : ∀ p ∈ pairs, d'.slots.get p.2 = d.slots.get p.2)
    (hlength : s.slots.states.length ≤ s'.slots.states.length)
    (hlength' : d.slots.states.length ≤ d'.slots.states.length)
    (hapart : ∀ other w, s'.window? other = some w → other ≠ id → ∀ p ∈ pairs, p.1 ≠ w.handle) :
    s'.Follows id d' (pairs ++ [(a, b)]) := by
  have ha : s'.slots.get a = .pending := hs'.waits id _ hwindow
  refine ⟨fun hw => ?_, fun w hw => ?_, fun p hp q hq => ?_, fun p hp => ?_, fun p hp => ?_,
    fun other w hw hne p hp => ?_⟩
  · simp [hwindow] at hw
  · rw [hwindow, Option.some_inj] at hw
    subst hw
    exact ⟨b, hwaits.window, List.mem_append_right _ List.mem_cons_self⟩
  · rw [List.mem_append, List.mem_singleton] at hp hq
    rcases hp with hp | rfl <;> rcases hq with hq | rfl
    · exact hf.shared p hp q hq
    · exact hshared p hp
    · exact ⟨fun h => ((hshared q hq).1 h.symm).symm, fun h => ((hshared q hq).2 h.symm).symm⟩
    · exact ⟨fun _ => rfl, fun _ => rfl⟩
  · rw [List.mem_append, List.mem_singleton] at hp
    rcases hp with hp | rfl
    · rw [hget p hp, hget' p hp, hf.same p hp]
    · exact ha.trans hwaits.pending.symm
  · rw [List.mem_append, List.mem_singleton] at hp
    rcases hp with hp | rfl
    · obtain ⟨h₁, h₂⟩ := hf.known p hp
      exact ⟨Nat.lt_of_lt_of_le h₁ hlength, Nat.lt_of_lt_of_le h₂ hlength'⟩
    · exact ⟨Slots.index_lt_of_get_eq_pending ha,
        Slots.index_lt_of_get_eq_pending hwaits.pending⟩
  · rw [List.mem_append, List.mem_singleton] at hp
    rcases hp with hp | rfl
    · exact hapart other w hw hne p hp
    · exact fun heq => hne (hs'.distinct other id w _ hw hwindow heq.symm)

/-- Work for the document itself. -/
theorem Follows.schedule_self (hf : s.Follows id d pairs) (hs : s.Sound)
    (t : Debouncer.Trigger σ α) (hdelay : t.delay = s.delay) :
    (s.schedule t.now id t.work).2.Follows id (d.after (.trigger t))
      (pairs ++ [((s.schedule t.now id t.work).1,
        (d.debouncer.trigger d.slots t.now t.delay t.work).1)]) := by
  have hs' := hs.schedule t.now id t.work
  have hwindow : (s.schedule t.now id t.work).2.window? id =
      some ⟨t.due, t.work, s.handleFor id⟩ := by
    rw [window?_schedule, if_pos rfl, Debouncer.Trigger.due, hdelay]
  have hhandle : (s.schedule t.now id t.work).1 = s.handleFor id := by
    obtain ⟨delay, heq⟩ := s.schedule_eq t.now id t.work
    rw [heq]
  have hget : ∀ p ∈ pairs, (s.schedule t.now id t.work).2.slots.get p.1 = s.slots.get p.1 :=
    fun p hp => by rw [slots_schedule, get_slotsFor_of_index_lt _ (hf.known p hp).1]
  have hlength : s.slots.states.length ≤ (s.schedule t.now id t.work).2.slots.states.length := by
    rw [slots_schedule]
    exact s.length_slotsFor id
  have hapart : ∀ other w, (s.schedule t.now id t.work).2.window? other = some w → other ≠ id →
      ∀ p ∈ pairs, p.1 ≠ w.handle := by
    intro other w hw hne
    rw [window?_schedule, if_neg hne.symm] at hw
    exact hf.apart other w hw hne
  have hanswer : d.answer (.trigger t) =
      .handle (d.debouncer.trigger d.slots t.now t.delay t.work).1 := rfl
  rw [hhandle]
  cases hw : s.window? id with
  | some w =>
    obtain ⟨h, hwaits, hmem⟩ := hf.waits hs hw
    rw [hwaits.answer_trigger, Debouncer.Answer.handle.injEq] at hanswer
    have hslots : (d.after (.trigger t)).slots = d.slots := by
      simp only [Debouncer.InUse.after, Debouncer.trigger, hwaits.window]
    have hself : s.handleFor id = w.handle := by rw [handleFor, hw]
    rw [← hanswer]
    exact hf.of_open hs' hwindow (hwaits.after rfl)
      (fun p hp => hself ▸ hf.shared p hp _ hmem) hget (fun p _ => by rw [hslots]) hlength
      (Nat.le_of_eq (by rw [hslots])) hapart
  | none =>
    have hidle := hf.idle hw
    obtain ⟨hnew, hafter⟩ := Debouncer.trigger_of_window_eq_none hidle t
    rw [hnew, Debouncer.Answer.handle.injEq] at hanswer
    have hself : s.handleFor id = s.slots.new.1 := by rw [handleFor, hw]
    rw [← hanswer]
    refine hf.of_open hs' hwindow (Debouncer.waits_of_trigger hidle _) (fun p hp => ?_) hget
      (fun p hp => ?_) hlength ?_ hapart
    · -- both handles are new
      obtain ⟨h₁, h₂⟩ := hf.known p hp
      exact ⟨fun heq => absurd (heq.trans hself) (Slots.ne_new_of_index_lt h₁),
        fun heq => absurd heq (Slots.ne_new_of_index_lt h₂)⟩
    · rw [hafter, Slots.get_new_of_index_lt (hf.known p hp).2]
    · rw [hafter, Slots.length_new]
      exact Nat.le_succ _

/-! ## Cancelling -/

theorem after_cancel_of_idle (hd : d.debouncer.window = none) : d.after .cancel = d := by
  simp only [Debouncer.InUse.after, Debouncer.cancel, hd]

theorem Follows.cancel_of_ne (hf : s.Follows id d pairs) (hs : s.Sound) {other : DocumentId}
    (hne : other ≠ id) : (s.cancel other).2.Follows id d pairs := by
  refine hf.of_frame ?_ (fun p hp => hs.get_cancel_of_ne fun w hw => ?_)
    (Nat.le_of_eq (hs.length_cancel other).symm) (fun another v hv hid => ?_)
  · rw [hs.window?_cancel, if_neg hne]
  · exact (hf.apart other w hw hne p hp).symm
  · rw [hs.window?_cancel] at hv
    split at hv
    · simp at hv
    · exact hf.apart another v hv hid

theorem Follows.cancel_self (hf : s.Follows id d pairs) (hs : s.Sound) :
    (s.cancel id).2.Follows id (d.after .cancel) pairs := by
  obtain ⟨hw, heq⟩ | ⟨w, hw, heq⟩ := hs.cancel_cases id
  · rw [heq, after_cancel_of_idle (hf.idle hw)]
    exact hf
  · obtain ⟨h, hwaits, hmem⟩ := hf.waits hs hw
    rw [hwaits.after_cancel]
    refine hf.of_close hwaits hmem ?_ ?_ (fun p _ hne => hs.get_cancel_of_ne fun v hv => ?_)
      (Nat.le_of_eq (hs.length_cancel id).symm) (fun other v hv hne => ?_) rfl rfl
    · rw [hs.window?_cancel, if_pos rfl]
    · rw [heq, Slots.cancel, Slots.get_set_of_pending (hs.waits id w hw), if_pos rfl]
    · rw [hw, Option.some_inj] at hv
      exact hv ▸ hne
    · rw [hs.window?_cancel, if_neg hne.symm] at hv
      exact hf.apart other v hv hne

theorem Follows.dropAll (hf : s.Follows id d pairs) (hs : s.Sound) :
    s.dropAll.Follows id (d.after .cancel) pairs := by
  have hapart : ∀ other w, s.dropAll.window? other = some w → other ≠ id →
      ∀ p ∈ pairs, p.1 ≠ w.handle := by
    intro other w hw
    simp [window?_dropAll] at hw
  have hget : ∀ p ∈ pairs, (∀ w, s.window? id = some w → w.handle ≠ p.1) →
      s.dropAll.slots.get p.1 = s.slots.get p.1 := by
    intro p hp hne
    refine get_dropAll_of_ne (hf.known p hp).1 fun other w hw => ?_
    by_cases hother : other = id
    · exact hne w (hother ▸ hw)
    · exact (hf.apart other w hw hother p hp).symm
  have hlength : s.slots.states.length ≤ s.dropAll.slots.states.length :=
    Nat.le_of_eq s.length_dropAll.symm
  cases hw : s.window? id with
  | none =>
    rw [after_cancel_of_idle (hf.idle hw)]
    exact hf.of_frame hw.symm (fun p hp => hget p hp (by simp [hw])) hlength hapart
  | some w =>
    obtain ⟨h, hwaits, hmem⟩ := hf.waits hs hw
    rw [hwaits.after_cancel]
    refine hf.of_close hwaits hmem rfl (hs.get_dropAll hw) (fun p hp hne => ?_) hlength hapart
      rfl rfl
    refine hget p hp fun v hv => ?_
    rw [hw, Option.some_inj] at hv
    exact hv ▸ hne

/-! ## Running

A list of jobs is cut at the job of the document.  What comes before it makes the state, its own
work makes the result, and what comes behind it leaves both alone. -/

/-- The jobs before the turn of a document are run as they are in the whole run. -/
theorem turn_eq {deliver : Debouncer σ α → Slots α → σ → Debouncer.Delivery σ α}
    {before after : List (Job σ α)} (hs : s.Sound)
    (hjobs : s.Jobs (before ++ (id, w) :: after))
    (hdeliver : Delivers deliver (before ++ (id, w) :: after)) (state : σ) :
    turn deliver ((before ++ (id, w) :: after).map (·.1)) s state id =
      (Work.each (before.map (·.2.work)) state).2 := by
  have hnodup := hjobs.nodup
  rw [List.map_append, List.map_cons, List.nodup_append] at hnodup
  have htake : ((before ++ (id, w) :: after).map (·.1)).takeWhile (· != id) =
      before.map (·.1) := by
    rw [List.map_append, List.map_cons, List.takeWhile_append_of_pos, List.takeWhile_cons_of_neg,
      List.append_nil]
    · simp
    · intro other hother
      exact bne_iff_ne.2 fun heq => hnodup.2.2 other hother id List.mem_cons_self heq
  have hbefore : s.Jobs before :=
    ⟨hnodup.1, fun j hj => hjobs.window? j (List.mem_append_left _ hj)⟩
  obtain ⟨s', hrun, -⟩ := runEach_spec deliver before s state hs hbefore
    fun j hj => hdeliver j (List.mem_append_left _ hj)
  rw [turn, htake, hrun]

/-- The result of a job is that of its work, in the state in which its turn comes. -/
theorem Ran.get_of_job {before after : List (Job σ α)} {state : σ}
    (hran : s.Ran (before ++ (id, w) :: after)
      (Work.each ((before ++ (id, w) :: after).map (·.2.work)) state).1 s') :
    s'.slots.get w.handle =
      .resolved (some (w.work (Work.each (before.map (·.2.work)) state).2).1) := by
  have hsettled := hran.settled
  rw [List.map_append, List.map_append, Work.each_append, List.map_append] at hsettled
  have hlength : (before.map fun j => s'.slots.get j.2.handle).length =
      ((Work.each (before.map (·.2.work)) state).1.map
        fun a => HandleState.resolved (some a)).length := by
    simp [Work.length_each]
  exact (List.cons.inj (List.append_inj hsettled hlength).2).1

/-- What a run of some jobs is for the debouncer of a document: the move `m`.  If the document is
one of them, it delivers in the state in which the turn of the document comes, and else it does
nothing. -/
structure IsTurn (deliver : Debouncer σ α → Slots α → σ → Debouncer.Delivery σ α)
    (jobs : List (Job σ α)) (s : Scheduler σ α) (state : σ) (id : DocumentId)
    (d : Debouncer.InUse σ α) (m : Debouncer.Move σ α) : Prop where
  /-- The work of the document is delivered when its turn comes, -/
  mine : ∀ w, (id, w) ∈ jobs → m.deliveredOn ⟨w.deadline, 0, w.work⟩ =
    some (turn deliver (jobs.map (·.1)) s state id)
  /-- and nothing happens without a turn. -/
  other : id ∉ jobs.map (·.1) → d.after m = d ∧
    d.answer m = .delivery none (turn deliver (jobs.map (·.1)) s state id)

section Runs

variable {deliver : Debouncer σ α → Slots α → σ → Debouncer.Delivery σ α} {jobs : List (Job σ α)}
  {state : σ}

/-- The work of a document runs on both sides in the same state, and the handles answer to each
other. -/
theorem Follows.answer_of_job {m : Debouncer.Move σ α} (hf : s.Follows id d pairs) (hs : s.Sound)
    (hjobs : s.Jobs jobs) (hm : IsTurn deliver jobs s state id d m) (hj : (id, w) ∈ jobs) :
    ∃ h, d.answer m = .delivery (some h)
        (w.work (turn deliver (jobs.map (·.1)) s state id)).2 ∧ (w.handle, h) ∈ pairs := by
  obtain ⟨h, hwaits, hmem⟩ := hf.waits hs (hjobs.window? _ hj)
  exact ⟨h, (hwaits.delivery (hm.mine w hj)).1, hmem⟩

/-- **A run** keeps the relation. -/
theorem Follows.runEach (hf : s.Follows id d pairs) (hs : s.Sound) (hjobs : s.Jobs jobs)
    (hdeliver : Delivers deliver jobs)
    (hlength : ∀ d slots state, (deliver d slots state).slots.states.length = slots.states.length)
    {m : Debouncer.Move σ α} (hm : IsTurn deliver jobs s state id d m) :
    (Scheduler.runEach deliver (jobs.map (·.1)) s state).scheduler.Follows id (d.after m)
      pairs := by
  obtain ⟨s', hrun, hran⟩ := runEach_spec deliver jobs s state hs hjobs hdeliver
  have hkept := length_runEach hlength (jobs.map (·.1)) s state
  rw [hrun] at hkept ⊢
  have hapart : ∀ other w, s'.window? other = some w → other ≠ id →
      ∀ p ∈ pairs, p.1 ≠ w.handle := by
    intro other w hw
    rw [hran.window?] at hw
    split at hw
    · simp at hw
    · exact hf.apart other w hw
  -- the other jobs are of other documents, so their handles are none of these
  have hget : ∀ p ∈ pairs, (∀ w, (id, w) ∈ jobs → w.handle ≠ p.1) →
      s'.slots.get p.1 = s.slots.get p.1 := by
    intro p hp hne
    refine hran.others p.1 fun j hj => ?_
    by_cases hid : j.1 = id
    · exact hne j.2 (hid ▸ hj)
    · exact (hf.apart j.1 j.2 (hjobs.window? j hj) hid p hp).symm
  by_cases hid : id ∈ jobs.map (·.1)
  · obtain ⟨w, hj⟩ : ∃ w, (id, w) ∈ jobs := by
      obtain ⟨⟨_, w⟩, hj, rfl⟩ := List.mem_map.1 hid
      exact ⟨w, hj⟩
    have hw : s.window? id = some w := hjobs.window? _ hj
    obtain ⟨h, hwaits, hmem⟩ := hf.waits hs hw
    rw [(hwaits.delivery (hm.mine w hj)).2]
    refine hf.of_close hwaits hmem ?_ ?_ (fun p hp hne => hget p hp fun v hv => ?_)
      (Nat.le_of_eq hkept.symm) hapart rfl rfl
    · rw [hran.window?, if_pos hid]
    · obtain ⟨before, after, rfl⟩ := List.append_of_mem hj
      rw [turn_eq hs hjobs hdeliver]
      exact hran.get_of_job
    · have hsame : s.window? id = some v := hjobs.window? _ hv
      rw [hw, Option.some_inj] at hsame
      exact hsame ▸ hne
  · rw [(hm.other hid).1]
    refine hf.of_frame ?_ (fun p hp => hget p hp fun w hj => ?_) (Nat.le_of_eq hkept.symm) hapart
    · rw [hran.window?, if_neg hid]
    · exact absurd (List.mem_map_of_mem hj) hid

end Runs

/-- A poll before the work is due does nothing. -/
theorem poll_of_lt {now : Instant} (hd : ∀ w, d.debouncer.window = some w → now < w.deadline)
    (state : σ) :
    d.after (.poll now state) = d ∧ d.answer (.poll now state) = .delivery none state := by
  simp only [Debouncer.InUse.after, Debouncer.InUse.answer, Debouncer.poll]
  cases hw : d.debouncer.window with
  | none => simp only [and_self]
  | some w => simp only [if_pos (hd w hw), and_self]

theorem deliverNow_of_idle (hd : d.debouncer.window = none) (state : σ) :
    d.after (.deliverNow state) = d ∧ d.answer (.deliverNow state) = .delivery none state := by
  simp only [Debouncer.InUse.after, Debouncer.InUse.answer, Debouncer.deliverNow, hd, and_self]

theorem isTurn_poll {jobs : List (Job σ α)} {now : Instant} (hjobs : s.Jobs jobs)
    (hids : jobs.map (·.1) = s.due now) (hf : s.Follows id d pairs) (hs : s.Sound) (state : σ) :
    IsTurn (fun d slots state => d.poll slots now state) jobs s state id d
      (s.pollOf now state id) := by
  refine ⟨fun w hj => ?_, fun hid => ?_⟩
  · obtain ⟨v, hv, hle⟩ := mem_due.1 (hids ▸ List.mem_map_of_mem hj : id ∈ s.due now)
    have hsame := hjobs.window? _ hj
    rw [hv, Option.some_inj] at hsame
    subst hsame
    rw [hids]
    exact if_pos hle
  · rw [hids] at hid ⊢
    refine poll_of_lt (fun w hw => ?_) _
    cases hv : s.window? id with
    | none => simp [hf.idle hv] at hw
    | some v =>
      obtain ⟨h, hwaits, -⟩ := hf.waits hs hv
      rw [hwaits.window, Option.some_inj] at hw
      subst hw
      exact Nat.not_le.1 fun hle => hid (mem_due.2 ⟨v, hv, hle⟩)

theorem isTurn_delivery {jobs : List (Job σ α)} (hids : jobs.map (·.1) = s.pending.sortedNames)
    (hf : s.Follows id d pairs) (hs : s.Sound) (state : σ) :
    IsTurn (fun d slots state => d.deliverNow slots state) jobs s state id d
      (s.deliveryOf state id) := by
  refine ⟨fun w hj => ?_, fun hid => ?_⟩
  · rw [hids]
    rfl
  · rw [hids] at hid ⊢
    refine deliverNow_of_idle (hf.idle ?_) _
    rw [Registry.mem_sortedNames, hs.find?_isSome_iff] at hid
    exact Option.not_isSome_iff_eq_none.1 hid

theorem Follows.runDue (hf : s.Follows id d pairs) (hs : s.Sound) (now : Instant) (state : σ) :
    (s.runDue now state).scheduler.Follows id (d.after (s.pollOf now state id)) pairs := by
  obtain ⟨jobs, hids, hjobs, hdeliver⟩ := s.exists_jobs_runDue now
  rw [Scheduler.runDue, ← hids]
  exact hf.runEach hs hjobs hdeliver (fun d slots state => length_poll d slots now state)
    (isTurn_poll hjobs hids hf hs state)

theorem Follows.runAll (hf : s.Follows id d pairs) (hs : s.Sound) (state : σ) :
    (s.runAll state).scheduler.Follows id (d.after (s.deliveryOf state id)) pairs := by
  obtain ⟨jobs, hids, hjobs, hdeliver⟩ := exists_jobs_runAll hs
  rw [Scheduler.runAll, ← hids]
  exact hf.runEach hs hjobs hdeliver length_deliverNow (isTurn_delivery hids hf hs state)

/-! ## Every history

The relation holds of a new scheduler and a new debouncer, and is kept by every operation with the
moves and the handles that the operation comes to; along a history these are put one behind the
other. -/

theorem Sound.after (hs : s.Sound) (m : Move σ α) : (s.after m).Sound := by
  cases m with
  | schedule now id work => exact hs.schedule now id work
  | setDelay delay => exact hs.setDelay delay
  | runDue now state =>
    obtain ⟨jobs, s', -, -, hrun, hran⟩ := runDue_spec hs now state
    rw [Scheduler.after, hrun]
    exact hran.sound
  | runAll state =>
    obtain ⟨jobs, s', -, -, hrun, hran⟩ := runAll_spec hs state
    rw [Scheduler.after, hrun]
    exact hran.sound
  | cancel id => exact hs.cancel id
  | dropAll => exact sound_dropAll s

theorem sound_ofHistory (delay : Duration) (history : List (Move σ α)) :
    (ofHistory delay history).Sound := by
  suffices ∀ s : Scheduler σ α, s.Sound → (history.foldl Scheduler.after s).Sound from
    this _ (sound_withDelay delay)
  induction history with
  | nil => exact fun s hs => hs
  | cons m history ih => exact fun s hs => ih _ (hs.after m)

theorem delay_after (hs : s.Sound) (m : Move σ α) : (s.after m).delay = m.delay s.delay := by
  cases m with
  | schedule now id work => exact s.delay_schedule now id work
  | setDelay delay => rfl
  | runDue now state =>
    obtain ⟨jobs, s', -, -, hrun, hran⟩ := runDue_spec hs now state
    rw [Scheduler.after, hrun]
    exact hran.delay
  | runAll state =>
    obtain ⟨jobs, s', -, -, hrun, hran⟩ := runAll_spec hs state
    rw [Scheduler.after, hrun]
    exact hran.delay
  | cancel id => exact s.delay_cancel id
  | dropAll => rfl

/-- **Every operation** on the scheduler is, for the document, what `Move.on` says. -/
theorem Follows.after (hf : s.Follows id d pairs) (hs : s.Sound) (m : Move σ α) :
    (s.after m).Follows id (d.afterAll (m.on id s.delay s))
      (pairs ++ m.handles id s.delay s d) := by
  cases m with
  | schedule now other work =>
    by_cases hid : other = id
    · subst hid
      simp only [Move.on, Move.handles, if_pos]
      exact hf.schedule_self hs ⟨now, s.delay, work⟩ rfl
    · simp only [Move.on, Move.handles, if_neg hid, List.append_nil]
      exact hf.schedule_of_ne now work hid
  | setDelay delay =>
    simp only [Move.handles, List.append_nil]
    exact ⟨hf.idle, hf.armed, hf.shared, hf.same, hf.known, hf.apart⟩
  | runDue now state =>
    simp only [Move.handles, List.append_nil]
    exact hf.runDue hs now state
  | runAll state =>
    simp only [Move.handles, List.append_nil]
    exact hf.runAll hs state
  | cancel other =>
    simp only [Move.handles, List.append_nil]
    by_cases hid : other = id
    · subst hid
      simp only [Move.on, if_pos]
      exact hf.cancel_self hs
    · simp only [Move.on, if_neg hid]
      exact hf.cancel_of_ne hs hid
  | dropAll =>
    simp only [Move.handles, List.append_nil]
    exact hf.dropAll hs

theorem Follows.afterAll (hf : s.Follows id d pairs) (hs : s.Sound) (history : List (Move σ α)) :
    (history.foldl Scheduler.after s).Follows id (d.afterAll (project id s.delay s history))
      (pairs ++ handlesFrom id s.delay s d history) := by
  induction history generalizing s d pairs with
  | nil =>
    rw [handlesFrom, List.append_nil]
    exact hf
  | cons m history ih =>
    have hrest := ih (hf.after hs m) (hs.after m)
    rw [delay_after hs] at hrest
    rw [project, handlesFrom, Debouncer.InUse.afterAll_append, ← List.append_assoc]
    exact hrest

/-! ## What can be seen

Nothing here mentions the entries of the scheduler or its table of handles, except where it is said
what can be seen of them: which documents have an entry, and what a handle shows. -/

/-- Documents run one after the other, each by its debouncer: on the move `m` in the state `turn` in
which its turn comes, which is the one that the document before it left.  The handles of the two
sides answer to each other. -/
inductive RunsInTurn (ds : DocumentId → Debouncer.InUse σ α)
    (pairs : DocumentId → List (Handle × Handle)) (m : σ → Debouncer.Move σ α)
    (turn : DocumentId → σ) : List (DocumentId × Handle) → σ → σ → Prop
  /-- Nothing is left to be run. -/
  | done (state : σ) : RunsInTurn ds pairs m turn [] state state
  /-- A document runs before the others. -/
  | next {id : DocumentId} {a h : Handle} {rest : List (DocumentId × Handle)} {state last : σ} :
      (ds id).answer (m (turn id)) = .delivery (some h) state → (a, h) ∈ pairs id →
      RunsInTurn ds pairs m turn rest state last →
      RunsInTurn ds pairs m turn ((id, a) :: rest) (turn id) last

/-- A run of the scheduler is what the debouncers of the documents do on the move `m`, each when its
turn comes. -/
structure RunsAs (ds : DocumentId → Debouncer.InUse σ α)
    (pairs : DocumentId → List (Handle × Handle)) (m : σ → Debouncer.Move σ α)
    (turn : DocumentId → σ) (state : σ) (run : Run σ α) : Prop where
  /-- No document runs twice. -/
  once : (run.completed.map (·.1)).Nodup
  /-- Those that run are delivered by their debouncers. -/
  inTurn : RunsInTurn ds pairs m turn run.completed state run.state
  /-- The debouncers of the others run nothing. -/
  others : ∀ id, id ∉ run.completed.map (·.1) →
    (ds id).answer (m (turn id)) = .delivery none (turn id)

/-- What can be seen of a scheduler is what can be seen of debouncers, one for each document. -/
structure Serves (s : Scheduler σ α) (ds : DocumentId → Debouncer.InUse σ α)
    (pairs : DocumentId → List (Handle × Handle)) : Prop where
  /-- There is an entry for a document exactly when its debouncer is armed, -/
  entry : ∀ id, (s.pending.find? id).isSome = (ds id).debouncer.isArmed
  /-- so that is what it means that work waits for it, -/
  waiting : ∀ id, s.isWaiting id = (ds id).debouncer.isArmed
  /-- and that there is work to be cancelled. -/
  cancelled : ∀ id, (s.cancel id).1 = (ds id).debouncer.isArmed
  /-- The same work is due at the same time. -/
  due : ∀ id, (s.window? id).map (fun w => (w.deadline, w.work)) =
    (ds id).debouncer.window.map fun w => (w.deadline, w.work)
  /-- The number of documents and the earliest time are those of the debouncers that are armed. -/
  armed : ∃ ids : List DocumentId, ids.Nodup ∧
    (∀ id, id ∈ ids ↔ (ds id).debouncer.isArmed = true) ∧
    s.size = ids.length ∧ s.isEmpty = ids.isEmpty ∧
    s.nextDue = (ids.filterMap fun id => (ds id).debouncer.deadline).min?
  /-- Calls for a document share a handle if they share one there. -/
  shared : ∀ id, ∀ p ∈ pairs id, ∀ q ∈ pairs id, p.1 = q.1 ↔ p.2 = q.2
  /-- The handles show the same. -/
  shown : ∀ id, ∀ p ∈ pairs id, s.slots.get p.1 = (ds id).slots.get p.2
  /-- What is due runs as the debouncers run it on a poll, -/
  polled : ∀ now state, RunsAs ds pairs (.poll now)
    (turn (fun d slots state => d.poll slots now state) (s.due now) s state) state
    (s.runDue now state)
  /-- and everything runs as they run it when they deliver at once. -/
  flushed : ∀ state, RunsAs ds pairs .deliverNow
    (turn (fun d slots state => d.deliverNow slots state) s.pending.sortedNames s state) state
    (s.runAll state)

section Serves

variable {ds : DocumentId → Debouncer.InUse σ α} {pairs : DocumentId → List (Handle × Handle)}
  {deliver : Debouncer σ α → Slots α → σ → Debouncer.Delivery σ α} {m : σ → Debouncer.Move σ α}
  {jobs : List (Job σ α)} {state : σ}

/-- By induction on the jobs that are left: the state in which they begin is the one that the jobs
before them left. -/
theorem runsInTurn_of_jobs (hf : ∀ id, s.Follows id (ds id) (pairs id)) (hs : s.Sound)
    (hdeliver : Delivers deliver jobs) (hjobs : s.Jobs jobs)
    (hm : ∀ id, IsTurn deliver jobs s state id (ds id)
      (m (turn deliver (jobs.map (·.1)) s state id))) :
    ∀ before after, jobs = before ++ after →
      RunsInTurn ds pairs m (turn deliver (jobs.map (·.1)) s state)
        (after.map fun j => (j.1, j.2.handle)) (Work.each (before.map (·.2.work)) state).2
        (Work.each (jobs.map (·.2.work)) state).2
  | before, [], heq => by
    rw [heq, List.append_nil]
    exact .done _
  | before, (id, w) :: after, heq => by
    have hturn : turn deliver (jobs.map (·.1)) s state id =
        (Work.each (before.map (·.2.work)) state).2 := by
      subst heq
      exact turn_eq hs hjobs hdeliver state
    obtain ⟨h, hanswer, hmem⟩ := (hf id).answer_of_job hs hjobs (hm id)
      (heq ▸ List.mem_append_right _ List.mem_cons_self)
    have hrest := runsInTurn_of_jobs hf hs hdeliver hjobs hm (before ++ [(id, w)]) after
      (by rw [heq, List.append_assoc, List.singleton_append])
    rw [List.map_append, Work.each_append] at hrest
    rw [← hturn] at hrest ⊢
    exact .next hanswer hmem hrest

theorem runsAs_of_jobs (hf : ∀ id, s.Follows id (ds id) (pairs id)) (hs : s.Sound)
    (hdeliver : Delivers deliver jobs) (hjobs : s.Jobs jobs)
    (hm : ∀ id, IsTurn deliver jobs s state id (ds id)
      (m (turn deliver (jobs.map (·.1)) s state id))) :
    RunsAs ds pairs m (turn deliver (jobs.map (·.1)) s state) state
      (runEach deliver (jobs.map (·.1)) s state) := by
  obtain ⟨s', hrun, -⟩ := runEach_spec deliver jobs s state hs hjobs hdeliver
  have hids : (jobs.map fun j => (j.1, j.2.handle)).map (·.1) = jobs.map (·.1) := List.map_map
  rw [hrun]
  refine ⟨?_, runsInTurn_of_jobs hf hs hdeliver hjobs hm [] jobs rfl, fun id hid => ?_⟩
  · rw [hids]
    exact hjobs.nodup
  · exact ((hm id).other (hids ▸ hid)).2

/-- The window of a document is that of its debouncer. -/
theorem Follows.map_window? {d : Debouncer.InUse σ α} {pairs : List (Handle × Handle)}
    (hf : s.Follows id d pairs) {β : Type} (f : Window σ α → β)
    (hfix : ∀ t work a h, f ⟨t, work, a⟩ = f ⟨t, work, h⟩) :
    (s.window? id).map f = d.debouncer.window.map f := by
  cases hw : s.window? id with
  | none => rw [hf.idle hw]
  | some w =>
    obtain ⟨h, hd, -⟩ := hf.armed w hw
    rw [hd, Option.map_some, Option.map_some, hfix _ _ h w.handle]

theorem isSome_window? (hs : s.Sound) (id : DocumentId) :
    (s.window? id).isSome = (s.pending.find? id).isSome :=
  Bool.eq_iff_iff.2 hs.find?_isSome_iff.symm

/-- The times at which work is due, by document. -/
theorem map_deadlines (s : Scheduler σ α) :
    s.deadlines.map (·.1) =
      s.pending.names.filterMap fun id => (s.window? id).map (·.deadline) := by
  rw [deadlines, Registry.names, List.map_filterMap, List.filterMap_map]
  refine List.filterMap_congr fun entry hentry => ?_
  obtain ⟨id, d⟩ := entry
  have hd : s.pending.find? id = some d := s.pending.find?_eq_some_iff.2 hentry
  simp only [Function.comp_apply, window?, hd, Option.bind_some, Debouncer.deadline,
    Option.map_map]
  rfl

theorem Sound.serves (hs : s.Sound) (hf : ∀ id, s.Follows id (ds id) (pairs id)) :
    s.Serves ds pairs := by
  have hentry : ∀ id, (s.pending.find? id).isSome = (ds id).debouncer.isArmed := by
    intro id
    have hwindow := (hf id).map_window? (fun _ => ()) fun _ _ _ _ => rfl
    rw [← isSome_window? hs, Debouncer.isArmed, ← Option.isSome_map (f := fun _ => ()), hwindow,
      Option.isSome_map]
  refine ⟨hentry, fun id => ?_, fun id => ?_, fun id => ?_, ⟨s.pending.names, s.pending.nodup,
    fun id => ?_, ?_, ?_, ?_⟩, fun id => (hf id).shared, fun id => (hf id).same,
    fun now state => ?_, fun state => ?_⟩
  · rw [isWaiting_eq, isSome_window? hs, hentry]
  · rw [← hentry, Scheduler.cancel]
    cases s.pending.find? id <;> rfl
  · exact (hf id).map_window? _ fun _ _ _ _ => rfl
  · rw [Registry.mem_names, hentry]
  · rw [size, Registry.size, Registry.names, List.length_map]
  · rw [isEmpty, Registry.isEmpty, Registry.names, List.isEmpty_map]
  · rw [nextDue, map_deadlines]
    refine congrArg List.min? (List.filterMap_congr fun id _ => ?_)
    exact (hf id).map_window? _ fun _ _ _ _ => rfl
  · obtain ⟨jobs, hids, hjobs, hdeliver⟩ := s.exists_jobs_runDue now
    rw [runDue, ← hids]
    refine runsAs_of_jobs hf hs hdeliver hjobs fun id => ?_
    rw [hids]
    exact isTurn_poll hjobs hids (hf id) hs state
  · obtain ⟨jobs, hids, hjobs, hdeliver⟩ := exists_jobs_runAll hs
    rw [runAll, ← hids]
    refine runsAs_of_jobs hf hs hdeliver hjobs fun id => ?_
    rw [hids]
    exact isTurn_delivery hids (hf id) hs state

end Serves

/-- **A scheduler is a debouncer for each document.**  After every history, what can be seen of a
document is what can be seen of a debouncer that is used by the projection of the history on the
document. -/
theorem serves_alone (delay : Duration) (history : List (Move σ α)) :
    (ofHistory delay history).Serves (alone delay history) (handles delay history) := by
  refine (sound_ofHistory delay history).serves fun id => ?_
  exact (follows_withDelay delay id).afterAll (sound_withDelay delay) history

end Scheduler
end Proofreader
