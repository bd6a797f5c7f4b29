import Proofreader.Proofs.Checker.Runs

/-!
# What is offered is what is done

A reader is shown the fix of a finding before it is applied.  Showing it and applying it go
different ways: `Checker.fixFor?` asks the workspace for the text in a range, and `Checker.fix`
passes its guards and then has the range replaced.  Between the two calls of an editor a text may
change, be closed or become shorter, so it is not for the record to say whether they agree.

* `Workspace.textIn?_eq_some_iff` — text is given out just for a range that lies in a document, and
  there it is what cutting the range to fit gives.
* `Checker.fixFor?_eq_some_iff` — when a fix is offered, and what it shows.
* `Checker.fix_fst_eq_ok_iff` — a fix is done just if it is offered, besides the guards that have
  nothing to do with texts.
* `Checker.Foretells` — how a fix that is offered describes the text before and after.

The two ways meet in one condition: the range lies in the text of an open document, and the finding
suggests something.  Each way is reduced to it by itself, the offer by what the workspace gives out
and the fix by what an edit asks for, and `fix_fst_eq_ok_iff` puts them together.  So a change of
either way shows in one lemma.

There are two readings of a range, and a reader might be shown one while the other is replaced.  The
workspace refuses a range that does not lie in the text; a host that has no better answer cuts it to
fit.  Where a fix is offered at all the two agree, which is a field of `Foretells` for that reason.
The range need not be the one of the check any more, so nothing is said about what stands there.
-/

set_option autoImplicit false

namespace Proofreader

open Text (clampedSlice)

/-! ## The text in a range -/

/-- A workspace gives out the text in a range that lies in an open document, and no other; where it
does, cutting the range to fit makes no difference. -/
theorem Workspace.textIn?_eq_some_iff {w : Workspace} {id : DocumentId} {r : TextRange}
    {s : String} :
    w.textIn? id r = some s ↔ ∃ text, w.text? id = some text ∧ r.LiesIn text.toList.length ∧
      textInClamped (some text) r = some s := by
  rw [textIn?, Option.bind_eq_some_iff]
  constructor
  · rintro ⟨b, hb, hslice⟩
    have hr : r.LiesIn b.chars.length := by
      rw [← Buffer.covers_iff, ← Buffer.slice?_isSome, hslice]
      rfl
    refine ⟨b.text, by rw [text?, hb, Option.map_some], ?_, ?_⟩
    · rw [Buffer.text, String.toList_ofList]
      exact hr
    · rw [Buffer.slice?_of_liesIn hr] at hslice
      rw [textInClamped, Option.map_some, Buffer.text, String.toList_ofList, hslice]
  · rintro ⟨text, htext, hr, hclamped⟩
    exact ⟨_, find?_of_text? htext, (Buffer.slice?_of_liesIn hr).trans hclamped⟩

namespace Checker

variable {c : Checker} {id : DocumentId} {d : Diagnostic}

/-! ## When a fix is offered

An offer does not ask whether the checker is active, whether edits are admitted or whether the
finding is recorded.  These are hypotheses below wherever an offer is compared with a fix. -/

/-- **A fix is offered** exactly for a finding that suggests something and whose range lies in an
open document; it shows the text in the range and the suggestion. -/
theorem fixFor?_eq_some_iff {f : Fix} :
    c.fixFor? id d = some f ↔ ∃ text, c.workspace.text? id = some text ∧
      d.range.LiesIn text.toList.length ∧ f.range = d.range ∧
      textInClamped (some text) d.range = some f.current ∧ d.suggestion = some f.replacement := by
  have hoffer : c.fixFor? id d = some f ↔ ∃ s, d.suggestion = some s ∧
      ∃ current, c.workspace.textIn? id d.range = some current ∧ ⟨d.range, current, s⟩ = f := by
    simp only [fixFor?, Option.bind_eq_bind, Option.bind_eq_some_iff, Option.pure_def,
      Option.some_inj]
  rw [hoffer]
  constructor
  · rintro ⟨s, hs, current, hcurrent, rfl⟩
    obtain ⟨text, htext, hr, hclamped⟩ := Workspace.textIn?_eq_some_iff.1 hcurrent
    exact ⟨text, htext, hr, rfl, hclamped, hs⟩
  · rintro ⟨text, htext, hr, hrange, hclamped, hs⟩
    refine ⟨f.replacement, hs, f.current, ?_, by rw [← hrange]⟩
    exact Workspace.textIn?_eq_some_iff.2 ⟨text, htext, hr, hclamped⟩

/-- **A fix is done** exactly if it is offered, the checker is active, the finding is recorded and
edits are admitted. -/
theorem fix_fst_eq_ok_iff :
    (c.fix id d).1 = .ok () ↔ (c.active = true ∧ d ∈ c.diagnostics id ∧
      c.workspace.readOnly = false) ∧ (c.fixFor? id d).isSome = true := by
  constructor
  · intro h
    obtain ⟨hactive, hd, s, w, hs, hedit, -⟩ := fix_eq_ok_iff.1 (Prod.ext h rfl)
    obtain ⟨hwritable, b, hb, hr, -⟩ := Workspace.edit_eq_ok_iff.1 hedit
    have htext : c.workspace.text? id = some b.text := by
      rw [Workspace.text?, hb, Option.map_some]
    rw [fixFor?_of_liesIn htext hs (by rwa [Buffer.text, String.toList_ofList])]
    exact ⟨⟨hactive, hd, hwritable⟩, rfl⟩
  · rintro ⟨⟨hactive, hd, hwritable⟩, hoffered⟩
    obtain ⟨f, hf⟩ := Option.isSome_iff_exists.1 hoffered
    obtain ⟨text, htext, hr, -, -, hs⟩ := fixFor?_eq_some_iff.1 hf
    obtain ⟨c', hfix, -⟩ := fix_of_liesIn hactive hwritable htext hd hs hr
    rw [hfix]

/-! ## What it says

The texts are strings put together from three parts, and the offer shows the middle one. -/

/-- The fix `f` that is offered for a finding describes what becomes of its document, when the
checker `c` becomes `c'`. -/
structure Foretells (c : Checker) (id : DocumentId) (d : Diagnostic) (f : Fix) (c' : Checker) :
    Prop where
  /-- It names the range of the finding. -/
  range_eq : f.range = d.range
  /-- The text that it shows stands there, and the replacement stands in its place afterwards;
  everything before and behind stays. -/
  texts : ∃ before behind : String, before.length = d.range.start ∧
    c.workspace.text? id = some (before ++ f.current ++ behind) ∧
    c'.workspace.text? id = some (before ++ f.replacement ++ behind)
  /-- Cutting the range to fit shows the same text. -/
  clamped : textInClamped (c.workspace.text? id) d.range = some f.current

/-- **What is offered is what is done.**  In an active checker on a workspace that admits edits, for
a finding that is recorded: a fix is offered exactly if fixing is done, and then it describes the
text before and after. -/
theorem foretells_of_fixFor? (hactive : c.active = true) (hwritable : c.workspace.readOnly = false)
    (hd : d ∈ c.diagnostics id) :
    ((∃ f, c.fixFor? id d = some f) ↔ (c.fix id d).1 = .ok ()) ∧
      ∀ f, c.fixFor? id d = some f → c.Foretells id d f (c.fix id d).2 := by
  refine ⟨?_, fun f hf => ?_⟩
  · rw [fix_fst_eq_ok_iff, Option.isSome_iff_exists]
    exact ⟨fun h => ⟨⟨hactive, hd, hwritable⟩, h⟩, And.right⟩
  · obtain ⟨text, htext, hr, hrange, hclamped, hs⟩ := fixFor?_eq_some_iff.1 hf
    obtain ⟨c', hfix, hfixed, -⟩ := fix_of_liesIn hactive hwritable htext hd hs hr
    have hcurrent : String.ofList (clampedSlice text.toList d.range) = f.current :=
      Option.some_inj.1 hclamped
    have hsplit : text = String.ofList (text.toList.take d.range.start) ++ f.current ++
        String.ofList (text.toList.drop d.range.stop) := by
      rw [← hcurrent, ← String.ofList_append, ← String.ofList_append,
        Text.take_append_clampedSlice _ hr.start_le_stop, List.take_append_drop,
        String.ofList_toList]
    refine ⟨hrange, ⟨_, _, ?_, htext.trans (congrArg some hsplit), ?_⟩,
      by rw [htext]; exact hclamped⟩
    · have hstart := Nat.le_trans hr.start_le_stop hr.stop_le
      rw [String.length_ofList, List.length_take, Nat.min_eq_left hstart]
    · rw [hfix, hfixed, Text.splice, String.ofList_append, String.ofList_append,
        String.ofList_toList]

/-- The text changed after the check, so the range of the finding is that of other characters: these
are shown, and these are replaced. -/
theorem foretells_stale :
    let d : Diagnostic := ⟨⟨0, 3⟩, .warning, "a slip\nthe"⟩
    let c := (withDelay .empty defaultDelay).afterAll
      [.start [.everyMatch "teh" .warning "a slip" "the"], .openDocument "a" "teh",
        .request 0 "a", .runAll, .setText "a" "see teh"]
    c.active = true ∧ c.workspace.readOnly = false ∧ d ∈ c.diagnostics "a" ∧
      c.fixFor? "a" d = some ⟨⟨0, 3⟩, "see", "the"⟩ ∧ (c.fix "a" d).1 = .ok () ∧
      c.Foretells "a" d ⟨⟨0, 3⟩, "see", "the"⟩ (c.fix "a" d).2 := by
  intro d c
  have hactive : c.active = true := rfl
  have hwritable : c.workspace.readOnly = false := by decide +kernel
  have hd : d ∈ c.diagnostics "a" := by decide +kernel
  have hoffered : c.fixFor? "a" d = some ⟨⟨0, 3⟩, "see", "the"⟩ := by decide +kernel
  obtain ⟨hiff, hforetells⟩ := foretells_of_fixFor? hactive hwritable hd
  exact ⟨hactive, hwritable, hd, hoffered, hiff.1 ⟨_, hoffered⟩, hforetells _ hoffered⟩

end Checker
end Proofreader
