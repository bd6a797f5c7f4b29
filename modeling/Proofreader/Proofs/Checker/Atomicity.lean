import Proofreader.Proofs.Checker.Rest

/-!
# A fix is done as a whole or not at all

A fix passes several guards, then edits a document, and then takes its finding out of the record and
publishes the rest.  The guards stand in different places, the last of them in the workspace that is
asked for the edit.

* `Checker.obstacles` — all that may stand in the way, in the order in which it is told.
* `Checker.fix_of_obstacle` — if something does, the first of it is told and nothing changes.
* `Checker.FixedTo`, `Checker.fixedTo_of_fix` — otherwise the finding is fixed, and nothing else
  changes.
* `Checker.fix_laws` — the two together, with the condition for a fix to be done.

Nothing is assumed of the state: a finding may be recorded twice, its range may come from a text
that is gone, and the document may be closed.

That a fix is atomic has two halves, and they fail in different ways.  One is that no guard stands
behind a change: the edit is the first thing that changes, it is also the last that can be refused,
and taking the finding out of the record cannot fail since the record was asked for it before.  A
program that edited first and then looked for the finding would break this half.  The other is that
what is done is done to all three places, the text, the record and what is published; forgetting one
of them would break the other half.

The order of the guards is a result too, as a caller is told one fault of several.  `obstacles`
lists them with the condition under which each stands in the way, all of them as functions of the
same unchanged state.  That is possible because no guard changes anything; the list therefore says
at once what is told and when nothing is in the way, and `fix_of_obstacle` walks the guards of the
fix and the list side by side, one case for each of them.  The condition of each guard is read where
those before it have been passed, so the cases are not symmetric: the workspace is asked for the
text only when edits are admitted.

`FixedTo` tells texts as concatenations and lists as splittings, `before ++ current ++ after` and
`before ++ d :: after`, instead of with the functions by which the program computes them.  So it can
be read without them, and of a finding that is recorded twice it says which of the two goes.
-/

set_option autoImplicit false

namespace Proofreader
namespace Checker

variable {c c' : Checker} {id : DocumentId} {d : Diagnostic}

/-! ## What may stand in the way

The range is tested as the buffer does it, so that the list of obstacles can be evaluated.  The
document that is not open appears twice: it has no text, and no range lies in its text; the first of
the two is told. -/

/-- What may stand in the way of a fix, first of all what is told first; and whether it does. -/
def obstacles (c : Checker) (id : DocumentId) (d : Diagnostic) : List (Bool × FixFault) :=
  let text := c.workspace.text? id
  [(!c.active, .state .inactive),
    (d.suggestion.isNone, .nothingSuggested),
    (!(c.diagnostics id).contains d, .state .findingGone),
    (c.workspace.readOnly, .refused id .readOnly),
    (text.isNone, .refused id .notOpen),
    (!text.any fun text => d.range.start ≤ d.range.stop && d.range.stop ≤ text.toList.length,
      .refused id (.outside d.range))]

/-- The first obstacle that there is. -/
def obstacle? (c : Checker) (id : DocumentId) (d : Diagnostic) : Option FixFault :=
  ((c.obstacles id d).find? (·.1)).map (·.2)

theorem liesIn_iff {r : TextRange} {n : Nat} : r.LiesIn n ↔ r.start ≤ r.stop ∧ r.stop ≤ n :=
  ⟨fun h => ⟨h.start_le_stop, h.stop_le⟩, fun h => ⟨h.1, h.2⟩⟩

/-- When nothing stands in the way. -/
theorem obstacle?_eq_none_iff :
    c.obstacle? id d = none ↔ c.active = true ∧ d.suggestion.isSome = true ∧
      d ∈ c.diagnostics id ∧ c.workspace.readOnly = false ∧
      ∃ text, c.workspace.text? id = some text ∧ d.range.LiesIn text.toList.length := by
  rw [obstacle?, obstacles]
  cases htext : c.workspace.text? id with
  | none => simp
  | some text => simp [liesIn_iff, Option.isSome_iff_ne_none]

/-- **The first obstacle is told, and nothing changes.**  One case for each guard that a fix
passes. -/
theorem fix_of_obstacle {fault : FixFault} (h : c.obstacle? id d = some fault) :
    c.fix id d = (.error fault, c) := by
  by_cases hactive : c.active = true
  case neg =>
    obtain rfl : fault = .state .inactive := by
      simpa [obstacle?, obstacles, hactive, eq_comm] using h
    exact fix_of_inactive (by simpa using hactive) id d
  cases hs : d.suggestion with
  | none =>
    obtain rfl : fault = .nothingSuggested := by
      simpa [obstacle?, obstacles, hactive, hs, eq_comm] using h
    simp [fix, hactive, hs]
  | some s =>
    by_cases hd : d ∈ c.diagnostics id
    case neg =>
      obtain rfl : fault = .state .findingGone := by
        simpa [obstacle?, obstacles, hactive, hs, hd, eq_comm] using h
      simp [fix, hactive, hs, hd]
    by_cases hreadOnly : c.workspace.readOnly = true
    case pos =>
      obtain rfl : fault = .refused id .readOnly := by
        simpa [obstacle?, obstacles, hactive, hs, hd, hreadOnly, eq_comm] using h
      simp [fix, hactive, hs, hd, Workspace.edit, hreadOnly]
    have hwritable : c.workspace.readOnly = false := by simpa using hreadOnly
    cases htext : c.workspace.text? id with
    | none =>
      obtain rfl : fault = .refused id .notOpen := by
        simpa [obstacle?, obstacles, hactive, hs, hd, hreadOnly, htext, eq_comm] using h
      have hclosed : c.workspace.documents.find? id = none := Option.map_eq_none_iff.1 htext
      simp [fix, hactive, hs, hd, Workspace.edit, hreadOnly, hclosed]
    | some text =>
      by_cases hr : d.range.LiesIn text.toList.length
      case pos =>
        have hnone : c.obstacle? id d = none :=
          obstacle?_eq_none_iff.2 ⟨hactive, by rw [hs]; rfl, hd, hwritable, text, htext, hr⟩
        rw [hnone] at h
        simp at h
      obtain rfl : fault = .refused id (.outside d.range) := by
        rw [liesIn_iff, Decidable.not_and_iff_not_or_not] at hr
        rcases hr with hr | hr
        · simpa [obstacle?, obstacles, hactive, hs, hd, hreadOnly, htext, hr, eq_comm] using h
        · simpa [obstacle?, obstacles, hactive, hs, hd, hreadOnly, htext, hr, eq_comm] using h
      exact fix_of_not_liesIn hactive hwritable htext hd hs hr

/-! ## What a fix does

Frame and effect are one structure.  The fields say of every part of a checker what becomes of it,
so there is nothing left that a fix could change besides. -/

/-- The checker `c'` is what `c` becomes when a finding is fixed. -/
structure FixedTo (c : Checker) (id : DocumentId) (d : Diagnostic) (c' : Checker) : Prop where
  /-- The suggestion stands in the place of the range. -/
  text : ∃ s before current after, d.suggestion = some s ∧
    before.length = d.range.start ∧ (before ++ current).length = d.range.stop ∧
    c.workspace.text? id = some (String.ofList (before ++ current ++ after)) ∧
    c'.workspace.text? id = some (String.ofList (before ++ s.toList ++ after))
  /-- The first finding equal to this one is gone from the record, all others are there in order,
  and the same is published. -/
  findings : ∃ before after, c.diagnostics id = before ++ d :: after ∧ d ∉ before ∧
    c'.state.store.records.find? id = some (before ++ after) ∧
    c'.workspace.published? id = some (before ++ after)
  /-- Other documents have the same text, the same record, and the same is published for them. -/
  elsewhere : ∀ other, other ≠ id →
    c'.workspace.text? other = c.workspace.text? other ∧
      c'.state.store.records.find? other = c.state.store.records.find? other ∧
      c'.workspace.published? other = c.workspace.published? other
  /-- Edits are admitted or refused as before. -/
  readOnly_eq : c'.workspace.readOnly = c.workspace.readOnly
  /-- The rules stay. -/
  rules_eq : c'.rules = c.rules
  /-- The schedule stays. -/
  scheduler_eq : c'.scheduler = c.scheduler
  /-- The checker stays active. -/
  active_eq : c'.active = c.active
  /-- The document that is shown stays. -/
  focused_eq : c'.focused = c.focused

/-- The text of a document around a range that lies in it. -/
theorem text_withFixed {s : String} {w : Workspace}
    (hedit : c.workspace.edit id d.range s = .ok w) :
    ∃ before current after,
      before.length = d.range.start ∧ (before ++ current).length = d.range.stop ∧
      c.workspace.text? id = some (String.ofList (before ++ current ++ after)) ∧
      (c.withFixed id d w).workspace.text? id =
        some (String.ofList (before ++ s.toList ++ after)) := by
  obtain ⟨-, b, hb, hr, -⟩ := Workspace.edit_eq_ok_iff.1 hedit
  have htext : c.workspace.text? id = some (String.ofList b.chars) := by
    rw [Workspace.text?, hb, Option.map_some, Buffer.text]
  have hstart := hr.start_le_stop
  have hstop := hr.stop_le
  have htake := Text.take_append_clampedSlice b.chars hstart
  refine ⟨b.chars.take d.range.start, Text.clampedSlice b.chars d.range,
    b.chars.drop d.range.stop, ?_, ?_, ?_, ?_⟩
  · rw [List.length_take]
    omega
  · rw [htake, List.length_take]
    omega
  · rw [htake, List.take_append_drop, htext]
  · have hedited := Workspace.text?_edit hedit htext
    rw [String.toList_ofList] at hedited
    exact hedited

/-- **A fix that is done** does this and nothing else. -/
theorem fixedTo_of_fix (h : c.fix id d = (.ok (), c')) : c.FixedTo id d c' := by
  obtain ⟨-, hd, s, w, hs, hedit, rfl⟩ := fix_eq_ok_iff.1 h
  have hsame := sameElsewhere_withFixed hedit
  obtain ⟨-, b, -, -, hw⟩ := Workspace.edit_eq_ok_iff.1 hedit
  obtain ⟨before, after, hnot, hsplit, herase⟩ := List.exists_erase_eq hd
  refine ⟨?_, ⟨before, after, hsplit, hnot, ?_, ?_⟩, fun other hne => ⟨?_, ?_, ?_⟩,
    hsame.readOnly_eq, hsame.rules_eq, hsame.scheduler_eq, hsame.active_eq, rfl⟩
  · obtain ⟨front, current, back, hfront, hcurrent, htext, hfixed⟩ := text_withFixed hedit
    exact ⟨s, front, current, back, hs, hfront, hcurrent, htext, hfixed⟩
  · rw [← herase]
    exact Registry.find?_insert_self _ _ _
  · rw [← herase]
    exact Registry.find?_insert_self _ _ _
  · exact hsame.text?_eq other hne.symm
  · exact Registry.find?_insert_of_ne _ hne.symm _
  · rw [hw]
    exact Registry.find?_insert_of_ne _ hne.symm _

/-- **A fix is done as a whole or not at all.**  It is done exactly if the checker is active, the
finding suggests something and is recorded for the document, edits are admitted, and the document is
open with a text in which the range lies.  Then the text, the record and what is published change as
they should, and nothing else does.  Otherwise the first obstacle is told, and nothing changes. -/
theorem fix_laws (c : Checker) (id : DocumentId) (d : Diagnostic) :
    ((c.fix id d).1 = .ok () ↔ c.active = true ∧ d.suggestion.isSome = true ∧
      d ∈ c.diagnostics id ∧ c.workspace.readOnly = false ∧
      ∃ text, c.workspace.text? id = some text ∧
        d.range.start ≤ d.range.stop ∧ d.range.stop ≤ text.toList.length) ∧
    match c.fix id d with
    | (.ok (), c') => c.obstacle? id d = none ∧ c.FixedTo id d c'
    | (.error fault, c') => c.obstacle? id d = some fault ∧ c' = c := by
  simp only [← liesIn_iff]
  rw [← obstacle?_eq_none_iff]
  cases hobstacle : c.obstacle? id d with
  | some fault =>
    rw [fix_of_obstacle hobstacle]
    exact ⟨by simp, rfl, rfl⟩
  | none =>
    obtain ⟨hactive, hs, hd, hwritable, text, htext, hr⟩ := obstacle?_eq_none_iff.1 hobstacle
    obtain ⟨s, hs⟩ := Option.isSome_iff_exists.1 hs
    obtain ⟨w, hedit⟩ := Workspace.exists_edit hwritable htext hr s
    have hfix := fix_of_edit hactive hd hs hedit
    rw [hfix]
    exact ⟨by simp, rfl, fixedTo_of_fix hfix⟩

/-- Two findings are the same, and so are two ranges.  The first fix leaves a text for which the
range of the second one is too long. -/
example :
    let d : Diagnostic := ⟨⟨0, 3⟩, .warning, "a slip\na"⟩
    let rule : Rule := .everyMatch "teh" .warning "a slip" "a"
    let c := (withDelay .empty defaultDelay).afterAll
      [.start [rule, rule], .openDocument "b" "teh", .request 0 "b", .runAll]
    c.diagnostics "b" = [d, d] ∧ (c.after (.fix "b" d)).workspace.text? "b" = some "a" ∧
      (c.after (.fix "b" d)).diagnostics "b" = [d] ∧
      (c.after (.fix "b" d)).obstacle? "b" d = some (.refused "b" (.outside ⟨0, 3⟩)) := by
  decide +kernel

end Checker
end Proofreader
