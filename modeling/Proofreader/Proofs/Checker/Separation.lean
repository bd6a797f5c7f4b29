import Proofreader.Proofs.Checker.Publication

/-!
# Documents do not interfere

The documents of a checker share its scheduler, its record, its rules and the one place for the
document that is shown.  Still, what is seen of a document depends only on the events that concern
it: those that name it, those that name none, and that the editor shows another one.  All other
events can come in any number, or stay away.

* `Checker.sight`, `Checker.answer`, `Checker.trace` — what is seen of a document: in a state, of an
  event, and along a run.
* `Checker.Alike` — two checkers cannot be told apart by what is seen of the document, now or later.
* `Checker.alike_after_of_ne` — an event that does not concern the document leaves it as it is.
* `Checker.Alike.after` — an event that does keeps checkers alike.
* `Checker.trace_eq_of_filter_eq` — so two runs with the same events for the document show the same
  of it, step by step.

This is a statement about two runs, and it is proved as such statements are: by a relation between
the states of the two that is kept by the events of both.  The relation has to be finer than what is
seen.  The delay is not seen of a document, nor whether the checker is active or edits are admitted,
but all of them decide what a later event will show.  On the other hand it must not say too much.
Two checkers that are alike may differ in all that belongs to other documents: their texts, their
findings, the entries of the scheduler and the number of handles that were ever given out.  So a
handle itself is not a part of what is seen, only whether a check waits and until when; handles are
numbered across all documents.

With the relation there are two kinds of steps.  An event about another document happens on one side
only, and must leave the checker alike to what it was (`alike_after_of_ne`); an event that concerns
the document happens on both sides and must keep them alike (`Alike.after`).  The induction in
`Alike.filter` compares a run with the same run from which the events of the first kind were left
out.  Two runs with the same events for a document have the same run left over, so they are compared
through it, and no induction ever goes along two lists at once.

Runs of checks are the events in which documents meet.  What is due on one side need not be due on
the other, the lists have different lengths, and the checks come in an order in which the document
stands somewhere.  It counts only whether the document is in the list, as checks of others leave the
state alike and its own check reads nothing else (`checkEach_of_mem`, `checkEach_of_not_mem`).

`Event.concerns` calls an event of the document all that is not about another one alone.  That the
editor shows another document is one of them: it takes the place from this one, and a later save of
this one is then not followed by a check.
-/

set_option autoImplicit false

namespace Proofreader

variable {id other : DocumentId}

/-! ## Workspaces

The workspace hands out one document at a time, and publishes for one at a time.  Only what it
refuses is common to all. -/

namespace Workspace

variable {w w' : Workspace}

/-- An edit of a document looks at no other: it is refused for the same reason, or puts the same
text in its place. -/
theorem edit_alike (hbuffer : w.documents.find? id = w'.documents.find? id)
    (hreadOnly : w.readOnly = w'.readOnly) (r : TextRange) (text : String) :
    (∃ fault, w.edit id r text = .error fault ∧ w'.edit id r text = .error fault) ∨
      ∃ b, w.edit id r text = .ok { w with documents := w.documents.insert id b } ∧
        w'.edit id r text = .ok { w' with documents := w'.documents.insert id b } := by
  rw [edit, edit, hbuffer, hreadOnly]
  split
  · exact .inl ⟨_, rfl, rfl⟩
  · cases w'.documents.find? id with
    | none => exact .inl ⟨_, rfl, rfl⟩
    | some buffer =>
      cases hb : buffer.replace? r text with
      | none => exact .inl ⟨.outside r, by simp only [hb], by simp only [hb]⟩
      | some b => exact .inr ⟨b, by simp only [hb], by simp only [hb]⟩

/-- Taking back lists touches no document. -/
theorem foldl_unpublish_frame (ids : List DocumentId) (w : Workspace) :
    (ids.foldl unpublish w).documents = w.documents ∧
      (ids.foldl unpublish w).readOnly = w.readOnly := by
  induction ids generalizing w with
  | nil => exact ⟨rfl, rfl⟩
  | cons first ids ih => exact ih (w.unpublish first)

end Workspace

/-! ## Checks

The relation between states of checks, without the scheduler.  For a check of the document there is
one lemma with two states, and for a check of another document one lemma with a state before and
after; the lemmas on lists of checks put the two together. -/

namespace CheckState

/-- Two states have the same of a document, and the same rules. -/
structure Alike (id : DocumentId) (s s' : CheckState) : Prop where
  /-- The document is open in both with the same text, or in neither. -/
  buffer : s.workspace.documents.find? id = s'.workspace.documents.find? id
  /-- Both admit edits, or neither does. -/
  readOnly : s.workspace.readOnly = s'.workspace.readOnly
  /-- The rules are the same. -/
  rules : s.rules = s'.rules
  /-- The same is recorded. -/
  recorded : s.store.records.find? id = s'.store.records.find? id
  /-- The same is published. -/
  published : s.workspace.published? id = s'.workspace.published? id

variable {s s' s'' : CheckState}

theorem Alike.refl (id : DocumentId) (s : CheckState) : Alike id s s := ⟨rfl, rfl, rfl, rfl, rfl⟩

theorem Alike.symm (h : Alike id s s') : Alike id s' s :=
  ⟨h.buffer.symm, h.readOnly.symm, h.rules.symm, h.recorded.symm, h.published.symm⟩

theorem Alike.trans (h : Alike id s s') (h' : Alike id s' s'') : Alike id s s'' :=
  ⟨h.buffer.trans h'.buffer, h.readOnly.trans h'.readOnly, h.rules.trans h'.rules,
    h.recorded.trans h'.recorded, h.published.trans h'.published⟩

theorem Alike.recorded_self (h : Alike id s s') (diagnostics : List Diagnostic) :
    Alike id (s.recorded id diagnostics) (s'.recorded id diagnostics) where
  buffer := h.buffer
  readOnly := h.readOnly
  rules := h.rules
  recorded := by
    rw [CheckState.recorded, CheckState.recorded, Store.set, Store.set, Registry.find?_insert_self,
      Registry.find?_insert_self]
  published := by
    rw [CheckState.recorded, CheckState.recorded, Workspace.published?, Workspace.published?,
      Workspace.publish, Workspace.publish, Registry.find?_insert_self, Registry.find?_insert_self]

theorem alike_recorded_of_ne (hne : other ≠ id) (s : CheckState) (diagnostics : List Diagnostic) :
    Alike id (s.recorded other diagnostics) s where
  buffer := rfl
  readOnly := rfl
  rules := rfl
  recorded := Registry.find?_insert_of_ne _ hne _
  published := Registry.find?_insert_of_ne _ hne _

/-- A check of the document reads nothing else. -/
theorem Alike.run_self (h : Alike id s s') :
    (run id s).1 = (run id s').1 ∧ Alike id (run id s).2 (run id s').2 := by
  have htext : s.workspace.text? id = s'.workspace.text? id := congrArg (Option.map _) h.buffer
  cases ht : s'.workspace.text? id with
  | none =>
    rw [ht] at htext
    simpa only [run, htext, ht, true_and] using h
  | some text =>
    rw [ht] at htext
    cases hcheck : check text s'.rules with
    | error e =>
      simpa only [run, htext, ht, h.rules, hcheck, true_and] using h
    | ok diagnostics =>
      rw [run_of_check htext (h.rules ▸ hcheck), run_of_check ht hcheck]
      exact ⟨rfl, h.recorded_self diagnostics⟩

/-- A check of another document changes nothing for it. -/
theorem alike_run_of_ne (hne : other ≠ id) (s : CheckState) : Alike id (run other s).2 s := by
  obtain ⟨e, hrun⟩ | ⟨text, diagnostics, -, -, hrun⟩ := run_cases other s
  · rw [hrun]
    exact .refl id s
  · rw [hrun]
    exact alike_recorded_of_ne hne s diagnostics

end CheckState

namespace Checker

/-- The reports on a document among those of checks. -/
def reportsOn (id : DocumentId) (reports : List Report) : List Report :=
  reports.filter fun r => r.document == id

theorem checkEach_of_not_mem {ids : List DocumentId} (hid : id ∉ ids) (s : CheckState) :
    reportsOn id (List.zipWith Report.mk ids (checkEach ids s).1) = [] ∧
      CheckState.Alike id (checkEach ids s).2 s := by
  induction ids generalizing s with
  | nil => exact ⟨rfl, .refl id s⟩
  | cons first ids ih =>
    rw [List.mem_cons, not_or] at hid
    obtain ⟨hreports, halike⟩ := ih hid.2 (CheckState.run first s).2
    refine ⟨?_, halike.trans (CheckState.alike_run_of_ne (Ne.symm hid.1) s)⟩
    have hskip : (first == id) = false := beq_eq_false_iff_ne.2 (Ne.symm hid.1)
    exact (List.filter_cons_of_neg (by simp [hskip])).trans hreports

/-- Of checks of several documents, that of the document itself counts for it, in whatever place it
comes. -/
theorem checkEach_of_mem {ids : List DocumentId} (hnodup : ids.Nodup) (hid : id ∈ ids)
    (s : CheckState) :
    reportsOn id (List.zipWith Report.mk ids (checkEach ids s).1) =
        [⟨id, (CheckState.run id s).1⟩] ∧
      CheckState.Alike id (checkEach ids s).2 (CheckState.run id s).2 := by
  induction ids generalizing s with
  | nil => simp at hid
  | cons first ids ih =>
    rw [List.nodup_cons] at hnodup
    by_cases hfirst : first = id
    · subst hfirst
      obtain ⟨hreports, halike⟩ := checkEach_of_not_mem hnodup.1 (CheckState.run first s).2
      refine ⟨?_, halike⟩
      exact (List.filter_cons_of_pos (by simp)).trans (congrArg _ hreports)
    · obtain ⟨hreports, halike⟩ :=
        ih hnodup.2 (List.mem_of_ne_of_mem (Ne.symm hfirst) hid) (CheckState.run first s).2
      obtain ⟨hsame, hrun⟩ := (CheckState.alike_run_of_ne hfirst s).run_self
      refine ⟨?_, halike.trans hrun⟩
      rw [← hsame]
      have hskip : (first == id) = false := beq_eq_false_iff_ne.2 hfirst
      exact (List.filter_cons_of_neg (by simp [hskip])).trans hreports

/-! ## What is seen of a document

What is seen is data: a sight can be compared, and a trace printed.  The fixes that are offered are
a function of findings, since a finding need not be recorded to be asked about. -/

/-- What is seen of a document in a state. -/
structure Sight where
  /-- Its text, if it is open. -/
  text : Option String
  /-- The findings that are recorded for it. -/
  recorded : Option (List Diagnostic)
  /-- The findings that are published for it. -/
  published : Option (List Diagnostic)
  /-- Whether a check of it waits. -/
  waiting : Bool
  /-- When that is due. -/
  due : Option Instant
  /-- The fixes that are offered for findings. -/
  offers : Diagnostic → Option Fix

/-- What is seen of a document. -/
def sight (c : Checker) (id : DocumentId) : Sight where
  text := c.workspace.text? id
  recorded := c.state.store.records.find? id
  published := c.workspace.published? id
  waiting := c.isWaiting id
  due := (c.scheduler.window? id).map (·.deadline)
  offers := c.fixFor? id

/-- What an event answers for a document. -/
structure Answer where
  /-- The reports on checks of it. -/
  reports : List Report
  /-- What became of a fix of a finding in it. -/
  fixed : Option (Except FixFault Unit)

/-- What an event answers for a document. -/
def answer (c : Checker) (id : DocumentId) : Event → Answer
  | .runDue now => ⟨reportsOn id (c.runDue now).1, none⟩
  | .runAll => ⟨reportsOn id c.runAll.1, none⟩
  | .fix other d => ⟨[], if other = id then some (c.fix id d).1 else none⟩
  | _ => ⟨[], none⟩

/-- The document that an event is about, if it is about one alone.  That the editor shows a document
is about all others too, which are not shown any more. -/
def Event.subject? : Event → Option DocumentId
  | saved _ id => some id
  | closed id => some id
  | request _ id => some id
  | fix id _ => some id
  | openDocument id _ => some id
  | closeDocument id => some id
  | setText id _ => some id
  | edit id _ _ => some id
  | _ => none

/-- Whether an event concerns a document: it is about no other document alone. -/
def Event.concerns (id : DocumentId) (e : Event) : Bool := e.subject?.all (· == id)

/-- What is seen of a document along a run: for each event that concerns it, the answer and what is
seen afterwards. -/
def trace (id : DocumentId) : Checker → List Event → List (Answer × Sight)
  | _, [] => []
  | c, e :: events =>
    if e.concerns id then (c.answer id e, (c.after e).sight id) :: trace id (c.after e) events
    else trace id (c.after e) events

/-! ## Checkers that are alike for a document

A check waits under a window of the scheduler, with work and a handle.  Of these the deadline is all
that the relation keeps: the work is the check of the document by the invariant, and a handle is not
seen. -/

/-- Two checkers have the same of a document, and the same of all that is not about one. -/
structure Alike (id : DocumentId) (c c' : Checker) : Prop where
  /-- The same is open, recorded and published of it. -/
  state : CheckState.Alike id c.state c'.state
  /-- A check of it is due at the same time, or none waits. -/
  due : (c.scheduler.window? id).map (·.deadline) = (c'.scheduler.window? id).map (·.deadline)
  /-- Checks are scheduled with the same delay. -/
  delay : c.scheduler.delay = c'.scheduler.delay
  /-- Both are active, or neither is. -/
  active : c.active = c'.active
  /-- The editor shows it, or does not. -/
  focused : c.focused = some id ↔ c'.focused = some id

variable {c c' c'' : Checker}

theorem Alike.refl (id : DocumentId) (c : Checker) : Alike id c c :=
  ⟨.refl id _, rfl, rfl, rfl, Iff.rfl⟩

theorem Alike.symm (h : Alike id c c') : Alike id c' c :=
  ⟨h.state.symm, h.due.symm, h.delay.symm, h.active.symm, h.focused.symm⟩

theorem Alike.trans (h : Alike id c c') (h' : Alike id c' c'') : Alike id c c'' :=
  ⟨h.state.trans h'.state, h.due.trans h'.due, h.delay.trans h'.delay, h.active.trans h'.active,
    h.focused.trans h'.focused⟩

theorem Alike.isSome_window? (h : Alike id c c') :
    (c.scheduler.window? id).isSome = (c'.scheduler.window? id).isSome := by
  rw [← Option.isSome_map (f := fun w : Window CheckState CheckResult => w.deadline), h.due,
    Option.isSome_map]

theorem Alike.diagnostics (h : Alike id c c') : c.diagnostics id = c'.diagnostics id :=
  congrArg (Option.getD · []) h.state.recorded

/-- Checkers that are alike show the same. -/
theorem Alike.sight (h : Alike id c c') : c.sight id = c'.sight id := by
  have htext : c.workspace.text? id = c'.workspace.text? id :=
    congrArg (Option.map _) h.state.buffer
  have hoffers : c.fixFor? id = c'.fixFor? id := by
    funext d
    rw [fixFor?, fixFor?, Workspace.textIn?, Workspace.textIn?, workspace, workspace,
      h.state.buffer]
  rw [Checker.sight, Checker.sight, isWaiting, isWaiting, Scheduler.isWaiting_eq,
    Scheduler.isWaiting_eq, htext, h.state.recorded, h.isSome_window?, h.due, hoffers, workspace,
    workspace, h.state.published]

/-- What the workspace does to one document. -/
theorem Alike.withWorkspace (h : Alike id c c') {w w' : Workspace}
    (hbuffer : w.documents.find? id = w'.documents.find? id) (hreadOnly : w.readOnly = w'.readOnly)
    (hpublished : w.published = c.workspace.published)
    (hpublished' : w'.published = c'.workspace.published) :
    Alike id (c.withWorkspace w) (c'.withWorkspace w') where
  state :=
    ⟨hbuffer, hreadOnly, h.state.rules, h.state.recorded, by
      rw [Checker.withWorkspace, Checker.withWorkspace, Workspace.published?,
        Workspace.published?, hpublished, hpublished']
      exact h.state.published⟩
  due := h.due
  delay := h.delay
  active := h.active
  focused := h.focused

theorem alike_withWorkspace {w : Workspace}
    (hbuffer : w.documents.find? id = c.workspace.documents.find? id)
    (hreadOnly : w.readOnly = c.workspace.readOnly)
    (hpublished : w.published = c.workspace.published) : Alike id (c.withWorkspace w) c := by
  have hself : Alike id (c.withWorkspace w) (c.withWorkspace c.workspace) :=
    (Alike.refl id c).withWorkspace hbuffer hreadOnly hpublished rfl
  exact hself

/-! ## Scheduling -/

theorem Alike.schedule_self (h : Alike id c c') (now : Instant) :
    Alike id (c.schedule now id) (c'.schedule now id) where
  state := h.state
  due := by
    rw [schedule, schedule, Scheduler.window?_schedule, Scheduler.window?_schedule, if_pos rfl,
      if_pos rfl, Option.map_some, Option.map_some, h.delay]
  delay := by
    rw [schedule, schedule, Scheduler.delay_schedule, Scheduler.delay_schedule, h.delay]
  active := h.active
  focused := h.focused

theorem alike_schedule_of_ne (hne : other ≠ id) (c : Checker) (now : Instant) :
    Alike id (c.schedule now other) c where
  state := .refl id _
  due := by rw [schedule, Scheduler.window?_schedule, if_neg hne]
  delay := Scheduler.delay_schedule _ _ _ _
  active := rfl
  focused := Iff.rfl

theorem Alike.schedule (h : Alike id c c') (now : Instant) (other : DocumentId) :
    Alike id (c.schedule now other) (c'.schedule now other) := by
  by_cases hother : other = id
  · rw [hother]
    exact h.schedule_self now
  · exact (alike_schedule_of_ne hother c now).trans
      (h.trans (alike_schedule_of_ne hother c' now).symm)

theorem Alike.request (h : Alike id c c') (now : Instant) (other : DocumentId) :
    Alike id (c.request now other).2 (c'.request now other).2 := by
  rw [Checker.request, Checker.request, h.active]
  split
  · exact h.schedule now other
  · exact h

theorem alike_request_of_ne (hne : other ≠ id) (c : Checker) (now : Instant) :
    Alike id (c.request now other).2 c := by
  rw [Checker.request]
  split
  · exact alike_schedule_of_ne hne c now
  · exact .refl id c

theorem alike_requestFocused (hfocused : c.focused ≠ some id) (now : Instant) :
    Alike id (c.requestFocused now).2 c := by
  rw [requestFocused]
  split
  · exact .refl id c
  · rename_i other hother
    have hne : other ≠ id := fun heq => hfocused (heq ▸ hother)
    exact alike_request_of_ne hne c now

/-! ## Runs

The two runs have their own lists of documents, and only membership of this document is compared. -/

/-- A run of documents in which the document comes on both sides, or on neither. -/
theorem Alike.ran (h : Alike id c c') {ids ids' : List DocumentId} {reports reports' : List Report}
    {d d' : Checker} (hran : c.Ran ids reports d) (hran' : c'.Ran ids' reports' d')
    (hnodup : ids.Nodup) (hnodup' : ids'.Nodup) (hids : id ∈ ids ↔ id ∈ ids') :
    reportsOn id reports = reportsOn id reports' ∧ Alike id d d' := by
  have hstate : reportsOn id reports = reportsOn id reports' ∧
      CheckState.Alike id d.state d'.state := by
    rw [hran.reports_eq, hran'.reports_eq, hran.state_eq, hran'.state_eq]
    by_cases hid : id ∈ ids
    · obtain ⟨hreports, hself⟩ := checkEach_of_mem hnodup hid c.state
      obtain ⟨hreports', hself'⟩ := checkEach_of_mem hnodup' (hids.1 hid) c'.state
      obtain ⟨hsame, hrun⟩ := h.state.run_self
      rw [hreports, hreports', hsame]
      exact ⟨rfl, hself.trans (hrun.trans hself'.symm)⟩
    · obtain ⟨hreports, hself⟩ := checkEach_of_not_mem hid c.state
      obtain ⟨hreports', hself'⟩ := checkEach_of_not_mem (fun hid' => hid (hids.2 hid')) c'.state
      rw [hreports, hreports']
      exact ⟨rfl, hself.trans (h.state.trans hself'.symm)⟩
  refine ⟨hstate.1, hstate.2, ?_, ?_, ?_, ?_⟩
  · simp only [hran.window?, hran'.window?, hids]
    split
    · rfl
    · exact h.due
  · rw [hran.delay_eq, hran'.delay_eq, h.delay]
  · rw [hran.active_eq, hran'.active_eq, h.active]
  · rw [hran.focused_eq, hran'.focused_eq, h.focused]

theorem mem_due_iff {now : Instant} :
    id ∈ c.scheduler.due now ↔
      ∃ t, (c.scheduler.window? id).map (·.deadline) = some t ∧ t ≤ now := by
  rw [Scheduler.mem_due]
  simp only [Option.map_eq_some_iff]
  constructor
  · rintro ⟨w, hw, hle⟩
    exact ⟨w.deadline, ⟨w, hw, rfl⟩, hle⟩
  · rintro ⟨t, ⟨w, hw, rfl⟩, hle⟩
    exact ⟨w, hw, hle⟩

theorem Alike.runDue (h : Alike id c c') (hc : c.Sound) (hc' : c'.Sound) (now : Instant) :
    reportsOn id (c.runDue now).1 = reportsOn id (c'.runDue now).1 ∧
      Alike id (c.runDue now).2 (c'.runDue now).2 :=
  h.ran (hc.runDue now) (hc'.runDue now) (c.scheduler.due_nodup now) (c'.scheduler.due_nodup now)
    (by rw [mem_due_iff, mem_due_iff, h.due])

theorem Alike.runAll (h : Alike id c c') (hc : c.Sound) (hc' : c'.Sound) :
    reportsOn id c.runAll.1 = reportsOn id c'.runAll.1 ∧ Alike id c.runAll.2 c'.runAll.2 :=
  h.ran hc.runAll hc'.runAll c.scheduler.pending.sortedNames_nodup
    c'.scheduler.pending.sortedNames_nodup (by
      rw [Registry.mem_sortedNames, Registry.mem_sortedNames, hc.scheduler.find?_isSome_iff,
        hc'.scheduler.find?_isSome_iff, h.isSome_window?])

/-! ## Fixes -/

/-- A fix in the document reads nothing else. -/
theorem Alike.fix (h : Alike id c c') (d : Diagnostic) :
    (c.fix id d).1 = (c'.fix id d).1 ∧ Alike id (c.fix id d).2 (c'.fix id d).2 := by
  by_cases hactive : c'.active = true
  · cases hs : d.suggestion with
    | none =>
      simp only [Checker.fix, h.active, hactive, hs]
      exact ⟨rfl, h⟩
    | some text =>
      by_cases hd : d ∈ c'.diagnostics id
      · have hd' : d ∈ c.diagnostics id := h.diagnostics ▸ hd
        obtain ⟨fault, he, he'⟩ | ⟨b, he, he'⟩ :=
          Workspace.edit_alike h.state.buffer h.state.readOnly d.range text
        · have hfix : c.fix id d = (.error (.refused id fault), c) := by
            simp [Checker.fix, workspace, h.active, hactive, hs, hd', he]
          have hfix' : c'.fix id d = (.error (.refused id fault), c') := by
            simp [Checker.fix, workspace, hactive, hs, hd, he']
          rw [hfix, hfix']
          exact ⟨rfl, h⟩
        · rw [fix_of_edit (h.active.trans hactive) hd' hs he, fix_of_edit hactive hd hs he']
          have hedited : CheckState.Alike id
              { c.state with workspace :=
                { c.workspace with documents := c.workspace.documents.insert id b } }
              { c'.state with workspace :=
                { c'.workspace with documents := c'.workspace.documents.insert id b } } :=
            ⟨by rw [Registry.find?_insert_self, Registry.find?_insert_self],
              h.state.readOnly, h.state.rules, h.state.recorded, h.state.published⟩
          refine ⟨rfl, ?_, h.due, h.delay, h.active, h.focused⟩
          rw [withFixed, withFixed, h.diagnostics]
          exact hedited.recorded_self _
      · have hd' : d ∉ c.diagnostics id := h.diagnostics ▸ hd
        have hfix : c.fix id d = (.error (.state .findingGone), c) := by
          simp [Checker.fix, h.active, hactive, hs, hd']
        have hfix' : c'.fix id d = (.error (.state .findingGone), c') := by
          simp [Checker.fix, hactive, hs, hd]
        rw [hfix, hfix']
        exact ⟨rfl, h⟩
  · simp only [Checker.fix, h.active, hactive]
    exact ⟨rfl, h⟩

/-- A fix in another document changes nothing for it. -/
theorem alike_fix_of_ne (hne : other ≠ id) (c : Checker) (d : Diagnostic) :
    Alike id (c.fix other d).2 c := by
  obtain ⟨fault, hfix⟩ | ⟨-, text, w, hedit, hfix⟩ := c.fix_cases other d
  · rw [hfix]
    exact .refl id c
  · rw [hfix]
    obtain ⟨-, b, -, -, rfl⟩ := Workspace.edit_eq_ok_iff.1 hedit
    have hedited : CheckState.Alike id { c.state with
        workspace := { c.workspace with
          documents := c.workspace.documents.insert other
            ⟨Text.splice b.chars d.range text.toList⟩ } } c.state :=
      ⟨Registry.find?_insert_of_ne _ hne _, rfl, rfl, rfl, rfl⟩
    exact ⟨(CheckState.alike_recorded_of_ne hne _ _).trans hedited, rfl, rfl, rfl, Iff.rfl⟩

/-! ## Events

Both lemmas go through the events themselves and not through `Step`, which forgets too much: two
runs of the same event have to take the same branch. -/

/-- **An event that is about another document** changes nothing for the document. -/
theorem alike_after_of_ne (hc : c.Sound) {e : Event} (he : e.subject? = some other)
    (hne : other ≠ id) : Alike id (c.after e) c := by
  cases e with
  | saved now name =>
    obtain rfl := Option.some_inj.1 he
    rw [Checker.after, saved]
    split
    · exact alike_schedule_of_ne hne c now
    · exact .refl id c
  | closed name =>
    obtain rfl := Option.some_inj.1 he
    refine ⟨⟨rfl, rfl, rfl, Registry.find?_erase_of_ne _ hne, Registry.find?_erase_of_ne _ hne⟩,
      ?_, Scheduler.delay_cancel _ _, rfl, ?_⟩
    · rw [Checker.after, closed, hc.scheduler.window?_cancel, if_neg hne]
    · rw [Checker.after, closed]
      dsimp only
      split
      · rename_i hfocused
        rw [beq_iff_eq] at hfocused
        simp [hfocused, hne]
      · exact Iff.rfl
  | request now name =>
    obtain rfl := Option.some_inj.1 he
    exact alike_request_of_ne hne c now
  | fix name d =>
    obtain rfl := Option.some_inj.1 he
    exact alike_fix_of_ne hne c d
  | openDocument name text =>
    obtain rfl := Option.some_inj.1 he
    exact alike_withWorkspace (Registry.find?_insert_of_ne _ hne _) rfl rfl
  | closeDocument name =>
    obtain rfl := Option.some_inj.1 he
    exact alike_withWorkspace (Registry.find?_erase_of_ne _ hne) rfl rfl
  | setText name text =>
    obtain rfl := Option.some_inj.1 he
    rw [Checker.after, Workspace.setText]
    split
    · exact alike_withWorkspace (Registry.find?_insert_of_ne _ hne _) rfl rfl
    · exact alike_withWorkspace rfl rfl rfl
  | edit name r text =>
    obtain rfl := Option.some_inj.1 he
    rw [Checker.after]
    split
    · rename_i w hedit
      obtain ⟨-, b, -, -, rfl⟩ := Workspace.edit_eq_ok_iff.1 hedit
      exact alike_withWorkspace (Registry.find?_insert_of_ne _ hne _) rfl rfl
    · exact .refl id c
  | _ => simp [Event.subject?] at he

/-- The document that an event concerns is the one that it is about, if it is about one. -/
theorem Event.eq_of_concerns {e : Event} (he : e.concerns id = true)
    (hsubject : e.subject? = some other) : other = id := by
  rw [concerns, hsubject, Option.all_some, beq_iff_eq] at he
  exact he

theorem Alike.stop (h : Alike id c c') : Alike id c.stop c'.stop := by
  obtain ⟨hdocuments, hreadOnly⟩ :=
    Workspace.foldl_unpublish_frame c.state.store.records.names c.state.workspace
  obtain ⟨hdocuments', hreadOnly'⟩ :=
    Workspace.foldl_unpublish_frame c'.state.store.records.names c'.state.workspace
  refine ⟨⟨?_, ?_, rfl, rfl, ?_⟩, rfl, h.delay, rfl, h.focused⟩
  · rw [Checker.stop, Checker.stop, hdocuments, hdocuments', h.state.buffer]
  · rw [Checker.stop, Checker.stop, hreadOnly, hreadOnly', h.state.readOnly]
  · simp only [Checker.stop, Workspace.published?_foldl_unpublish, Registry.mem_names,
      h.state.recorded, h.state.published]

theorem Alike.closed_self (h : Alike id c c') (hc : c.Sound) (hc' : c'.Sound) :
    Alike id (c.closed id) (c'.closed id) := by
  have hunfocused : ∀ focused : Option DocumentId,
      (if focused == some id then none else focused) ≠ some id := by
    intro focused
    split
    · simp
    · rename_i hne
      exact fun heq => hne (beq_iff_eq.2 heq)
  refine ⟨⟨h.state.buffer, h.state.readOnly, h.state.rules, ?_, ?_⟩, ?_, ?_, h.active,
    fun heq => absurd heq (hunfocused _), fun heq => absurd heq (hunfocused _)⟩
  · rw [closed, closed, Store.forget, Store.forget, Registry.find?_erase_self,
      Registry.find?_erase_self]
  · rw [closed, closed, Workspace.published?, Workspace.published?, Workspace.unpublish,
      Workspace.unpublish, Registry.find?_erase_self, Registry.find?_erase_self]
  · rw [closed, closed, hc.scheduler.window?_cancel, hc'.scheduler.window?_cancel, if_pos rfl,
      if_pos rfl]
  · rw [closed, closed, Scheduler.delay_cancel, Scheduler.delay_cancel, h.delay]

theorem Alike.openDocument (h : Alike id c c') (text : String) :
    Alike id (c.withWorkspace (c.workspace.openDocument id text))
      (c'.withWorkspace (c'.workspace.openDocument id text)) :=
  h.withWorkspace (by
    rw [Workspace.openDocument, Workspace.openDocument, Registry.find?_insert_self,
      Registry.find?_insert_self]) h.state.readOnly rfl rfl

/-- **An event that concerns the document** keeps checkers alike. -/
theorem Alike.after (h : Alike id c c') (hc : c.Sound) (hc' : c'.Sound) {e : Event}
    (he : e.concerns id = true) : Alike id (c.after e) (c'.after e) := by
  have hself : ∀ name, e.subject? = some name → name = id :=
    fun _ hsubject => Event.eq_of_concerns he hsubject
  cases e with
  | start rules =>
    exact ⟨⟨h.state.buffer, h.state.readOnly, rfl, h.state.recorded, h.state.published⟩, h.due,
      h.delay, rfl, h.focused⟩
  | stop => exact h.stop
  | setDelay delay => exact ⟨h.state, h.due, rfl, h.active, h.focused⟩
  | focus now name =>
    have hshown : Alike id { c with focused := some name } { c' with focused := some name } :=
      ⟨h.state, h.due, h.delay, h.active, Iff.rfl⟩
    rw [Checker.after, Checker.after, focus, focus]
    dsimp only
    by_cases hactive : c'.active = true
    · rw [if_pos (h.active.trans hactive), if_pos hactive]
      exact hshown.schedule now name
    · rw [if_neg (h.active ▸ hactive), if_neg hactive]
      exact hshown
  | saved now name =>
    obtain rfl := hself _ rfl
    have hfocused : (c.focused == some name) = (c'.focused == some name) :=
      Bool.eq_iff_iff.2 (by rw [beq_iff_eq, beq_iff_eq, h.focused])
    rw [Checker.after, Checker.after, saved, saved, h.active, hfocused]
    split
    · exact h.schedule_self now
    · exact h
  | closed name =>
    obtain rfl := hself _ rfl
    exact h.closed_self hc hc'
  | request now name => exact h.request now name
  | requestFocused now =>
    by_cases hfocused : c.focused = some id
    · rw [Checker.after, Checker.after, requestFocused, requestFocused, hfocused,
        h.focused.1 hfocused]
      exact h.request now id
    · have hfocused' : c'.focused ≠ some id := fun heq => hfocused (h.focused.2 heq)
      exact (alike_requestFocused hfocused now).trans
        (h.trans (alike_requestFocused hfocused' now).symm)
  | runDue now => exact (h.runDue hc hc' now).2
  | runAll => exact (h.runAll hc hc').2
  | fix name d =>
    obtain rfl := hself _ rfl
    exact (h.fix d).2
  | openDocument name text =>
    obtain rfl := hself _ rfl
    exact h.openDocument text
  | closeDocument name =>
    obtain rfl := hself _ rfl
    refine h.withWorkspace ?_ h.state.readOnly rfl rfl
    rw [Workspace.closeDocument, Workspace.closeDocument, Registry.find?_erase_self,
      Registry.find?_erase_self]
  | setText name text =>
    obtain rfl := hself _ rfl
    have hopen : c.workspace.isOpen name = c'.workspace.isOpen name :=
      congrArg Option.isSome h.state.buffer
    rw [Checker.after, Checker.after, Workspace.setText, Workspace.setText, hopen]
    split
    · exact h.openDocument text
    · exact h.withWorkspace h.state.buffer h.state.readOnly rfl rfl
  | setReadOnly on => exact h.withWorkspace h.state.buffer rfl rfl rfl
  | edit name r text =>
    obtain rfl := hself _ rfl
    rw [Checker.after, Checker.after]
    obtain ⟨fault, he, he'⟩ | ⟨b, he, he'⟩ :=
      Workspace.edit_alike h.state.buffer h.state.readOnly r text
    · rw [workspace, he, workspace, he']
      exact h
    · rw [workspace, he, workspace, he']
      refine h.withWorkspace ?_ h.state.readOnly rfl rfl
      rw [Registry.find?_insert_self, Registry.find?_insert_self]

/-- Every event answers the same for the document. -/
theorem Alike.answer (h : Alike id c c') (hc : c.Sound) (hc' : c'.Sound) (e : Event) :
    c.answer id e = c'.answer id e := by
  cases e with
  | runDue now => rw [Checker.answer, Checker.answer, (h.runDue hc hc' now).1]
  | runAll => rw [Checker.answer, Checker.answer, (h.runAll hc hc').1]
  | fix name d =>
    rw [Checker.answer, Checker.answer]
    split
    · rw [(h.fix d).1]
    · rfl
  | _ => rfl

/-! ## Runs side by side

A trace has an entry for each event that concerns the document, so what is left out leaves no gap in
it, and two traces are the same list or differ at some event. -/

/-- A run shows what it shows without the events that do not concern the document.  By induction on
the events: what is left out leaves the checker alike, and what is not keeps it so. -/
theorem Alike.filter (h : Alike id c c') (hc : c.Sound) (hc' : c'.Sound) (events : List Event) :
    c.trace id events = c'.trace id (events.filter (·.concerns id)) ∧
      Alike id (c.afterAll events) (c'.afterAll (events.filter (·.concerns id))) := by
  induction events generalizing c c' with
  | nil => exact ⟨rfl, h⟩
  | cons e events ih =>
    cases he : e.concerns id with
    | true =>
      have hafter := h.after hc hc' he
      obtain ⟨htrace, hrest⟩ := ih hafter (hc.after e) (hc'.after e)
      rw [List.filter_cons_of_pos he, trace, trace, if_pos he, if_pos he, h.answer hc hc' e,
        hafter.sight, htrace]
      exact ⟨rfl, hrest⟩
    | false =>
      obtain ⟨other, hsubject, hne⟩ : ∃ other, e.subject? = some other ∧ other ≠ id := by
        simpa [Event.concerns, Option.all_eq_false] using he
      have hafter := (alike_after_of_ne hc hsubject hne).trans h
      rw [List.filter_cons_of_neg (by simp [he]), trace, if_neg (by simp [he])]
      exact ih hafter (hc.after e) hc'

/-- **Documents do not interfere.**  Two runs from the same state that have the same events for a
document, in the same order, show the same of it: after each of these events, in its answers, and at
the end. -/
theorem trace_eq_of_filter_eq (workspace : Workspace) (delay : Duration)
    (history events events' : List Event) (id : DocumentId)
    (h : events.filter (·.concerns id) = events'.filter (·.concerns id)) :
    let c := (withDelay workspace delay).afterAll history
    c.trace id events = c.trace id events' ∧
      (c.afterAll events).sight id = (c.afterAll events').sight id := by
  intro c
  have hc : c.Sound := (sound_withDelay workspace delay).afterAll history
  obtain ⟨htrace, halike⟩ := (Alike.refl id c).filter hc hc events
  obtain ⟨htrace', halike'⟩ := (Alike.refl id c).filter hc hc events'
  rw [htrace, htrace', halike.sight, halike'.sight, h]
  exact ⟨rfl, rfl⟩

/-- Next to a document, another one is opened, checked and closed: the findings in the document are
the same, and so is all else that is seen of it. -/
theorem trace_eq_of_filter_eq_teh :
    let c := (withDelay .empty defaultDelay).afterAll
      [.start [.everyMatch "teh" .warning "a slip" "the"], .openDocument "a" "teh"]
    let alone : List Event := [.focus 0 "a", .runDue 1000000000]
    let together : List Event := [.openDocument "b" "teh teh", .focus 0 "a", .request 5 "b",
      .runDue 1000000000, .closed "b", .closeDocument "b"]
    alone.filter (·.concerns "a") = together.filter (·.concerns "a") ∧
      c.trace "a" alone = c.trace "a" together ∧
      (c.afterAll alone).sight "a" = (c.afterAll together).sight "a" ∧
      ((c.afterAll together).sight "a").published =
        some [⟨⟨0, 3⟩, .warning, "a slip\nthe"⟩] := by
  intro c alone together
  have hsame : alone.filter (·.concerns "a") = together.filter (·.concerns "a") := by
    simp [alone, together, Event.concerns, Event.subject?]
  obtain ⟨htrace, hsight⟩ := trace_eq_of_filter_eq .empty defaultDelay
    [.start [.everyMatch "teh" .warning "a slip" "the"], .openDocument "a" "teh"]
    alone together "a" hsame
  refine ⟨hsame, htrace, hsight, ?_⟩
  rw [← hsight]
  decide +kernel

end Checker
end Proofreader
