import Proofreader.Proofs.Registry
import Proofreader.Schedule.Scheduler

/-!
# The windows of a scheduler

All that a scheduler knows of a document is the window that is open for it, `Scheduler.window?`.
`Scheduler.Sound` is the invariant: a document that is kept has an open window, the handle of a
window waits, and no two windows share a handle.  Every operation keeps it, and the lemmas
`window?_…` say what each does to the windows.

A scheduler keeps debouncers, and a debouncer may have no window; but a scheduler drops the
debouncer of a document together with its window, so such an entry never comes about.  This is the
first field of the invariant.  It is what makes "is kept", "waits" and "has a window" the same
(`find?_isSome_iff`, `isWaiting_eq`), and with it the number of entries is the number of documents
that wait.

The other two fields are about the table of handles, which all documents share.  That the handle of
a window is pending makes it a handle of the table, and different from every new one and from every
one that was settled; that no two windows share a handle lets one document be settled while the
others wait.  Both together are needed where a document is taken out (`Sound.erase`): its handle is
written, and what the other windows show must not change.

All lemmas on an operation come in the same three kinds: the invariant is kept, what the windows are
afterwards, and what the handles show.  Later modules use these and the invariant, and do not open
an operation.  To schedule is the only one that has two cases, a window that is there and one that
is not; `handleFor` and `slotsFor` are the handle and the table in both of them, so that
`window?_schedule` is one equation.
-/

set_option autoImplicit false

namespace Proofreader

/-! ## Handles

A table of handles is a list that grows at its end and is written in place.  A handle that was never
given out shows that it is cancelled, so a pending handle is always one of the table. -/

namespace Slots

variable {α : Type} {s : Slots α} {h other : Handle}

/-- A handle that waits is one of the table. -/
theorem index_lt_of_get_eq_pending (hs : s.get h = .pending) : h.index < s.states.length := by
  rw [get] at hs
  rcases Nat.lt_or_ge h.index s.states.length with hlt | hge
  · exact hlt
  · rw [List.getElem?_eq_none hge] at hs
    simp at hs

theorem get_set_of_pending (hs : s.get h = .pending) (o : HandleState α) :
    (s.set h o).get other = if h = other then o else s.get other :=
  s.get_set h other o (index_lt_of_get_eq_pending hs)

theorem get_set_of_ne (o : HandleState α) (hne : h ≠ other) :
    (s.set h o).get other = s.get other := by
  have hi : h.index ≠ other.index := fun heq => hne (by cases h; cases other; simp_all)
  rw [get, set, List.getElem?_set_ne hi, get]

@[simp] theorem length_set (s : Slots α) (h : Handle) (o : HandleState α) :
    (s.set h o).states.length = s.states.length := List.length_set

@[simp] theorem length_new (s : Slots α) : s.new.2.states.length = s.states.length + 1 := by
  rw [new, List.length_append, List.length_singleton]

@[simp] theorem length_take (s : Slots α) (h : Handle) :
    (s.take h).2.states.length = s.states.length := by
  rw [take]
  split
  · exact length_set s h _
  · rfl

/-- A handle of the table is not the next one. -/
theorem ne_new_of_index_lt (hlt : h.index < s.states.length) : h ≠ s.new.1 := by
  rintro rfl
  exact Nat.lt_irrefl _ hlt

/-- A new handle is not one that waits already. -/
theorem ne_new_of_get_eq_pending (hs : s.get h = .pending) : h ≠ s.new.1 :=
  ne_new_of_index_lt (index_lt_of_get_eq_pending hs)

theorem get_new_of_index_lt (hlt : h.index < s.states.length) : s.new.2.get h = s.get h := by
  rw [get_new, if_neg (ne_new_of_index_lt hlt)]

theorem take_of_resolved {value : Option α} (hs : s.get h = .resolved value) :
    s.take h = (value, s.set h (.resolved none)) := by
  rw [take, hs]

/-- Taking the result of a handle changes no other. -/
theorem get_take_of_ne (s : Slots α) (hne : h ≠ other) : (s.take h).2.get other = s.get other := by
  rw [take]
  split
  · exact get_set_of_ne _ hne
  · rfl

/-- What waits has no result to be taken. -/
theorem get_take_of_pending (hs : s.get other = .pending) : (s.take h).2.get other = .pending := by
  by_cases heq : h = other
  · rw [take, heq, hs]
    exact hs
  · rw [get_take_of_ne s heq, hs]

end Slots

namespace Scheduler

variable {σ α : Type}

/-- The window that is open for a document, if one is. -/
def window? (s : Scheduler σ α) (id : DocumentId) : Option (Window σ α) :=
  (s.pending.find? id).bind Debouncer.window

/-- What holds of a scheduler between operations. -/
structure Sound (s : Scheduler σ α) : Prop where
  /-- A document that is kept has an open window. -/
  armed : ∀ id, (s.pending.find? id).isSome = true → (s.window? id).isSome = true
  /-- The handle of a window waits. -/
  waits : ∀ id w, s.window? id = some w → s.slots.get w.handle = .pending
  /-- No two windows share a handle. -/
  distinct : ∀ id id' w w', s.window? id = some w → s.window? id' = some w' →
    w.handle = w'.handle → id = id'

variable {s : Scheduler σ α}

theorem window?_eq_some_iff {id : DocumentId} {w : Window σ α} :
    s.window? id = some w ↔ ∃ d, s.pending.find? id = some d ∧ d.window = some w := by
  rw [window?, Option.bind_eq_some_iff]

theorem Sound.find?_isSome_iff (hs : s.Sound) {id : DocumentId} :
    (s.pending.find? id).isSome = true ↔ (s.window? id).isSome = true := by
  refine ⟨hs.armed id, fun h => ?_⟩
  obtain ⟨w, hw⟩ := Option.isSome_iff_exists.1 h
  obtain ⟨d, hd, -⟩ := window?_eq_some_iff.1 hw
  rw [hd]
  rfl

/-- Work waits for the documents that have a window. -/
theorem isWaiting_eq (s : Scheduler σ α) (id : DocumentId) :
    s.isWaiting id = (s.window? id).isSome := by
  rw [isWaiting, window?]
  cases s.pending.find? id <;> rfl

/-- Where nothing is kept, all is well. -/
theorem sound_of_pending_eq_empty (h : s.pending = .empty) : s.Sound := by
  have hnone : ∀ id, s.window? id = none := fun id => by rw [window?, h]; rfl
  refine ⟨fun id hid => ?_, fun id w hw => ?_, fun id id' w w' hw => ?_⟩
  · rw [h] at hid
    simp at hid
  · rw [hnone] at hw
    simp at hw
  · rw [hnone] at hw
    simp at hw

theorem sound_withDelay (delay : Duration) : (withDelay delay : Scheduler σ α).Sound :=
  sound_of_pending_eq_empty rfl

theorem Sound.setDelay (hs : s.Sound) (delay : Duration) : (s.setDelay delay).Sound :=
  ⟨hs.armed, hs.waits, hs.distinct⟩

/-! ## Scheduling

The window of another document is untouched, its handle included: a new handle is not one that
waits (`Slots.ne_new_of_get_eq_pending`), and an old one belongs to the document that it is
scheduled for. -/

/-- The handle of the window that is open for a document or would be opened for it. -/
def handleFor (s : Scheduler σ α) (id : DocumentId) : Handle :=
  match s.window? id with
  | some w => w.handle
  | none => s.slots.new.1

/-- The handles after a window was opened for a document that has none. -/
def slotsFor (s : Scheduler σ α) (id : DocumentId) : Slots α :=
  match s.window? id with
  | some _ => s.slots
  | none => s.slots.new.2

/-- Scheduling opens the window of a document, or replaces what is in it. -/
theorem schedule_eq (s : Scheduler σ α) (now : Instant) (id : DocumentId) (work : Work σ α) :
    ∃ delay, s.schedule now id work = (s.handleFor id,
      { s with
        pending := s.pending.insert id ⟨delay, some ⟨now + s.delay, work, s.handleFor id⟩⟩
        slots := s.slotsFor id }) := by
  rw [schedule, Debouncer.trigger, handleFor, slotsFor, window?]
  cases hd : s.pending.find? id with
  | none => exact ⟨_, rfl⟩
  | some d =>
    rw [Option.getD_some, Option.bind_some]
    cases hw : d.window with
    | none => exact ⟨_, rfl⟩
    | some w => exact ⟨_, rfl⟩

theorem window?_schedule (s : Scheduler σ α) (now : Instant) (id other : DocumentId)
    (work : Work σ α) :
    (s.schedule now id work).2.window? other =
      if id = other then some ⟨now + s.delay, work, s.handleFor id⟩ else s.window? other := by
  obtain ⟨delay, heq⟩ := s.schedule_eq now id work
  rw [heq, window?, Registry.find?_insert]
  split <;> rfl

@[simp] theorem delay_schedule (s : Scheduler σ α) (now : Instant) (id : DocumentId)
    (work : Work σ α) : (s.schedule now id work).2.delay = s.delay := by
  obtain ⟨delay, heq⟩ := s.schedule_eq now id work
  rw [heq]

theorem slots_schedule (s : Scheduler σ α) (now : Instant) (id : DocumentId) (work : Work σ α) :
    (s.schedule now id work).2.slots = s.slotsFor id := by
  obtain ⟨delay, heq⟩ := s.schedule_eq now id work
  rw [heq]

theorem length_slotsFor (s : Scheduler σ α) (id : DocumentId) :
    s.slots.states.length ≤ (s.slotsFor id).states.length := by
  rw [slotsFor]
  split
  · exact Nat.le_refl _
  · rw [Slots.length_new]
    exact Nat.le_succ _

/-- A handle of the table shows the same after another one was added. -/
theorem get_slotsFor_of_index_lt (id : DocumentId) {h : Handle}
    (hlt : h.index < s.slots.states.length) : (s.slotsFor id).get h = s.slots.get h := by
  rw [slotsFor]
  split
  · rfl
  · exact Slots.get_new_of_index_lt hlt

theorem Sound.get_slotsFor (hs : s.Sound) (id : DocumentId) {h : Handle}
    (hh : h = s.handleFor id ∨ s.slots.get h = .pending) :
    (s.slotsFor id).get h = .pending := by
  rw [slotsFor, handleFor] at *
  cases hw : s.window? id with
  | none =>
    rw [hw] at hh
    dsimp only at hh ⊢
    rw [Slots.get_new]
    grind
  | some w =>
    rw [hw] at hh
    rcases hh with rfl | hh
    · exact hs.waits id w hw
    · exact hh

/-- The handle of another document is not the one that is given out. -/
theorem Sound.handleFor_ne (hs : s.Sound) {id other : DocumentId} {w : Window σ α}
    (hw : s.window? other = some w) (hne : id ≠ other) : s.handleFor id ≠ w.handle := by
  rw [handleFor]
  cases hid : s.window? id with
  | none => exact (Slots.ne_new_of_get_eq_pending (hs.waits other w hw)).symm
  | some v => exact fun heq => hne (hs.distinct id other v w hid hw heq)

theorem Sound.schedule (hs : s.Sound) (now : Instant) (id : DocumentId) (work : Work σ α) :
    (s.schedule now id work).2.Sound where
  armed other hother := by
    obtain ⟨delay, heq⟩ := s.schedule_eq now id work
    rw [heq, Registry.find?_insert] at hother
    rw [window?_schedule]
    split
    · rfl
    · rename_i hne
      rw [if_neg hne] at hother
      exact hs.armed other hother
  waits other w hw := by
    rw [slots_schedule]
    rw [window?_schedule] at hw
    refine hs.get_slotsFor id ?_
    split at hw
    · rw [← Option.some_inj.1 hw]
      exact .inl rfl
    · exact .inr (hs.waits other w hw)
  distinct a b v w hv hw heq := by
    rw [window?_schedule] at hv hw
    split at hv <;> split at hw
    · simp_all
    · rename_i ha hb
      rw [← Option.some_inj.1 hv] at heq
      exact absurd heq (hs.handleFor_ne hw hb)
    · rename_i ha hb
      rw [← Option.some_inj.1 hw] at heq
      exact absurd heq.symm (hs.handleFor_ne hv ha)
    · exact hs.distinct a b v w hv hw heq

/-! ## Taking out a document

Cancelling and running both take a document out and settle its handle, with different words.
`Sound.of_subset` is what they have in common with every operation that only removes. -/

/-- A scheduler that keeps what another keeps, except for some documents, and has changed the
handles of these alone, is sound if the other is. -/
theorem Sound.of_subset {s' : Scheduler σ α} (hs : s.Sound)
    (hpending : ∀ id, (s'.pending.find? id).isSome = true →
      s'.pending.find? id = s.pending.find? id)
    (hslots : ∀ id w, s'.window? id = some w → s'.slots.get w.handle = s.slots.get w.handle) :
    s'.Sound := by
  have hwindow : ∀ id w, s'.window? id = some w → s.window? id = some w := by
    intro id w hw
    obtain ⟨d, hd, hdw⟩ := window?_eq_some_iff.1 hw
    refine window?_eq_some_iff.2 ⟨d, ?_, hdw⟩
    rw [← hpending id (by rw [hd]; rfl), hd]
  refine ⟨fun id hid => ?_, fun id w hw => ?_, fun id id' w w' hw hw' => ?_⟩
  · have := hs.armed id (by rw [← hpending id hid]; exact hid)
    rw [window?, hpending id hid]
    exact this
  · rw [hslots id w hw]
    exact hs.waits id w (hwindow id w hw)
  · exact hs.distinct id id' w w' (hwindow id w hw) (hwindow id' w' hw')

/-- Taking out a document whose handle is settled. -/
theorem Sound.erase (hs : s.Sound) {id : DocumentId} {w : Window σ α} (hw : s.window? id = some w)
    (o : HandleState α) :
    ({ s with pending := s.pending.erase id, slots := s.slots.set w.handle o } :
      Scheduler σ α).Sound := by
  refine hs.of_subset (fun other hother => ?_) (fun other v hv => ?_)
  · rw [Registry.find?_erase] at hother ⊢
    split at hother
    · simp at hother
    · rename_i hne
      rw [if_neg hne]
  · have hne : id ≠ other ∧ s.window? other = some v := by
      rw [window?, Registry.find?_erase] at hv
      split at hv
      · simp at hv
      · rename_i hne
        exact ⟨hne, hv⟩
    refine Slots.get_set_of_ne o fun heq => hne.1 ?_
    exact hs.distinct id other w v hw hne.2 heq

/-- Cancelling takes out the document and settles its handle, if work waits for it. -/
theorem Sound.cancel_cases (hs : s.Sound) (id : DocumentId) :
    (s.window? id = none ∧ s.cancel id = (false, s)) ∨
      ∃ w, s.window? id = some w ∧ s.cancel id = (true,
        { s with pending := s.pending.erase id, slots := s.slots.cancel w.handle }) := by
  cases hd : s.pending.find? id with
  | none => exact .inl ⟨by rw [window?, hd, Option.bind_none], by rw [Scheduler.cancel, hd]⟩
  | some d =>
    obtain ⟨w, hw⟩ := Option.isSome_iff_exists.1 (hs.armed id (by rw [hd]; rfl))
    obtain ⟨d', hd', hdw⟩ := window?_eq_some_iff.1 hw
    refine .inr ⟨w, hw, ?_⟩
    rw [Scheduler.cancel, hd']
    simp only [Debouncer.cancel, hdw]

@[simp] theorem delay_cancel (s : Scheduler σ α) (id : DocumentId) :
    (s.cancel id).2.delay = s.delay := by
  rw [cancel]
  split <;> rfl

theorem Sound.cancel (hs : s.Sound) (id : DocumentId) : (s.cancel id).2.Sound := by
  obtain ⟨-, heq⟩ | ⟨w, hw, heq⟩ := hs.cancel_cases id <;> rw [heq]
  · exact hs
  · exact hs.erase hw .cancelled

theorem Sound.window?_cancel (hs : s.Sound) (id other : DocumentId) :
    (s.cancel id).2.window? other = if id = other then none else s.window? other := by
  obtain ⟨hw, heq⟩ | ⟨w, hw, heq⟩ := hs.cancel_cases id <;> rw [heq]
  · split
    · rename_i heq
      rw [← heq, hw]
    · rfl
  · rw [window?, Registry.find?_erase]
    split <;> rfl

/-- A handle on which the document does not wait shows what it did. -/
theorem Sound.get_cancel_of_ne (hs : s.Sound) {id : DocumentId} {h : Handle}
    (hne : ∀ w, s.window? id = some w → w.handle ≠ h) :
    (s.cancel id).2.slots.get h = s.slots.get h := by
  obtain ⟨-, heq⟩ | ⟨w, hw, heq⟩ := hs.cancel_cases id <;> rw [heq]
  exact Slots.get_set_of_ne _ (hne w hw)

theorem Sound.length_cancel (hs : s.Sound) (id : DocumentId) :
    (s.cancel id).2.slots.states.length = s.slots.states.length := by
  obtain ⟨-, heq⟩ | ⟨w, -, heq⟩ := hs.cancel_cases id <;> rw [heq]
  exact Slots.length_set _ _ _

theorem sound_dropAll (s : Scheduler σ α) : s.dropAll.Sound := sound_of_pending_eq_empty rfl

@[simp] theorem window?_dropAll (s : Scheduler σ α) (id : DocumentId) :
    s.dropAll.window? id = none := rfl

/-! ## Dropping everything

Handles are cancelled one after the other along the entries.  What a handle shows in the end is told
at once: it is cancelled if some entry waits on it. -/

theorem length_cancelEach (slots : Slots α) (entries : List (DocumentId × Debouncer σ α)) :
    (cancelEach slots entries).states.length = slots.states.length := by
  induction entries generalizing slots with
  | nil => rfl
  | cons entry entries ih =>
    rw [cancelEach, ih, Debouncer.cancel]
    split
    · exact Slots.length_set _ _ _
    · rfl

/-- Of the handles of a table, those on which a debouncer waits are cancelled, and no other. -/
theorem get_cancelEach {h : Handle} (slots : Slots α) (entries : List (DocumentId × Debouncer σ α))
    (hlt : h.index < slots.states.length) :
    (cancelEach slots entries).get h =
      if entries.any (fun entry => entry.2.window.any (·.handle == h)) then .cancelled
      else slots.get h := by
  induction entries generalizing slots with
  | nil => rfl
  | cons entry entries ih =>
    rw [cancelEach, List.any_cons]
    cases hw : entry.2.window with
    | none =>
      simp only [Debouncer.cancel, hw, Option.any_none, Bool.false_or]
      exact ih slots hlt
    | some w =>
      simp only [Debouncer.cancel, hw, Option.any_some]
      rw [ih _ (by rw [Slots.cancel, Slots.length_set]; exact hlt)]
      by_cases heq : w.handle = h
      · subst heq
        simp [Slots.cancel, Slots.get_set _ _ _ _ hlt]
      · simp only [beq_false_of_ne heq, Bool.false_or, Slots.cancel, Slots.get_set_of_ne _ heq]

/-- Dropping everything cancels the handles of the windows. -/
theorem Sound.get_dropAll (hs : s.Sound) {id : DocumentId} {w : Window σ α}
    (hw : s.window? id = some w) : s.dropAll.slots.get w.handle = .cancelled := by
  obtain ⟨d, hd, hdw⟩ := window?_eq_some_iff.1 hw
  have hlt := Slots.index_lt_of_get_eq_pending (hs.waits id w hw)
  rw [dropAll, get_cancelEach _ _ hlt, if_pos]
  refine List.any_eq_true.2 ⟨(id, d), (Registry.find?_eq_some_iff _).1 hd, ?_⟩
  simp [hdw]

/-- All other handles show what they did. -/
theorem get_dropAll_of_ne {h : Handle} (hlt : h.index < s.slots.states.length)
    (hne : ∀ id w, s.window? id = some w → w.handle ≠ h) :
    s.dropAll.slots.get h = s.slots.get h := by
  rw [dropAll, get_cancelEach _ _ hlt, if_neg]
  intro hany
  obtain ⟨⟨id, d⟩, hmem, hw⟩ := List.any_eq_true.1 hany
  obtain ⟨w, hdw, heq⟩ := (Option.any_eq_true _ _).1 hw
  have hd := (Registry.find?_eq_some_iff _).2 hmem
  exact hne id w (window?_eq_some_iff.2 ⟨d, hd, hdw⟩) (beq_iff_eq.1 heq)

@[simp] theorem length_dropAll (s : Scheduler σ α) :
    s.dropAll.slots.states.length = s.slots.states.length := length_cancelEach _ _

/-! ## Taking results -/

theorem Sound.take (hs : s.Sound) (h : Handle) : (s.take h).2.Sound :=
  ⟨hs.armed, fun id w hw => Slots.get_take_of_pending (hs.waits id w hw), hs.distinct⟩

end Scheduler
end Proofreader
