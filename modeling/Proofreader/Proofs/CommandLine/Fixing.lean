import Mathlib.Data.List.Perm.Subperm
import Proofreader.Proofs.Checker.Steps
import Proofreader.Proofs.CommandLine.Selection

/-!
# Fixing a document

`fixEach` edits the document finding by finding, with ranges that were found in the text of the
beginning.  `Trying` is what holds between two edits: up to the limit the document is as it was, and
what is still to be tried is still recorded.  A finding that is left out keeps it (`Trying.skip`),
and so does one that is fixed (`Trying.fix`); no fix is ever refused.  In the end, the document is
the text in which the chosen ranges are replaced all at once (`fixAll_spec`).

The invariant has to bring together an edited text and ranges of the text before.  It can, because
the findings are tried from the end backwards: all that was edited lies behind the limit, so the
document is the beginning of the old text with something behind it, and of this something nothing
need be known.  A range that ends before the limit is the same range in both.  Here the empty
`limit` stands for the end of the text, before anything was edited.

That no fix is refused is not obvious, since a fix asks for more than a range.  The finding has to
be recorded; as equal findings may be recorded several times and each fix takes one of them out, the
invariant counts: a finding is recorded at least as often as it is still to be tried.  A finding
that overlaps what was taken is skipped by the program before it asks for a fix, and the remaining
guards do not change along the way.

The same induction is made twice, once for the text with what stays elsewhere, and once for the
record of the document itself.  They are apart since the first is what runs need, for all findings
that lie in the text, while the record counts for the question how many can be fixed.
-/

set_option autoImplicit false

namespace Proofreader
namespace CommandLine

open Text (clampedSlice replaceAll)

/-! ## One finding after the other -/

/-- What holds while the findings `order` are still to be tried in the document `id`: the last that
was taken begins at `limit`, and up to there the document is `text`. -/
structure Trying (id : DocumentId) (text : List Char) (order : List Diagnostic)
    (limit : Option Nat) (behind : List Char) (c : Checker) : Prop where
  /-- The checker is active. -/
  active : c.active = true
  /-- Edits are admitted. -/
  writable : c.workspace.readOnly = false
  /-- The limit lies in the text. -/
  limit_le : limit.getD text.length ≤ text.length
  /-- Up to the limit, the document is as it was. -/
  text?_eq : c.workspace.text? id =
    some (String.ofList (text.take (limit.getD text.length) ++ behind))
  /-- What is still to be tried lies in the text. -/
  liesIn : ∀ d ∈ order, d.range.LiesIn text.length
  /-- It suggests something. -/
  suggests : ∀ d ∈ order, d.suggestion.isSome = true
  /-- It is recorded, and as often as it is to be tried. -/
  recorded : ∀ d, order.count d ≤ (c.diagnostics id).count d

variable {id : DocumentId} {text behind : List Char} {order : List Diagnostic} {limit : Option Nat}
  {d : Diagnostic} {c : Checker}

theorem Trying.skip (h : Trying id text (d :: order) limit behind c) :
    Trying id text order limit behind c :=
  ⟨h.active, h.writable, h.limit_le, h.text?_eq, (List.forall_mem_cons.1 h.liesIn).2,
    (List.forall_mem_cons.1 h.suggests).2,
    fun e => Nat.le_trans List.count_le_count_cons (h.recorded e)⟩

/-- The finding is fixed, and it is replaced in the text of the beginning. -/
theorem Trying.fix (h : Trying id text (d :: order) limit behind c)
    (hle : d.range.stop ≤ limit.getD text.length) :
    ∃ c', c.fix id d = (.ok (), c') ∧ c.SameElsewhere id c' ∧
      Trying id text order (some d.range.start)
        ((change d).2 ++ clampedSlice text ⟨d.range.stop, limit.getD text.length⟩ ++ behind)
        c' := by
  obtain ⟨hlies, hrest⟩ := List.forall_mem_cons.1 h.liesIn
  obtain ⟨hsome, hsuggests⟩ := List.forall_mem_cons.1 h.suggests
  obtain ⟨s, hs⟩ := Option.isSome_iff_exists.1 hsome
  have hrange : d.range.LiesIn (limit.getD text.length) := ⟨hlies.start_le_stop, hle⟩
  have hd : d ∈ c.diagnostics id := by
    have := h.recorded d
    rw [List.count_cons_self] at this
    exact List.count_pos_iff.1 (by omega)
  have hcovers : d.range.LiesIn
      (String.ofList (text.take (limit.getD text.length) ++ behind)).toList.length := by
    refine ⟨hlies.start_le_stop, Nat.le_trans hle ?_⟩
    rw [String.toList_ofList, List.length_append, List.length_take, Nat.min_eq_left h.limit_le]
    exact Nat.le_add_right _ _
  obtain ⟨w, hedit⟩ := Workspace.exists_edit h.writable h.text?_eq hcovers s
  have hsame := Checker.sameElsewhere_withFixed (d := d) hedit
  refine ⟨_, Checker.fix_of_edit h.active hd hs hedit, hsame, hsame.active_eq.trans h.active,
    hsame.readOnly_eq.trans h.writable, Nat.le_trans hlies.start_le_stop hlies.stop_le, ?_, hrest,
    hsuggests, fun e => ?_⟩
  · refine (Workspace.text?_edit hedit h.text?_eq).trans ?_
    rw [String.toList_ofList, Text.splice_take_append hrange h.limit_le, change, hs]
    rfl
  · have := h.recorded e
    rw [Checker.diagnostics_withFixed, if_pos rfl, List.count_erase]
    rw [List.count_cons] at this
    omega

/-- **Many edits are one replacement.**  By induction on what is to be tried. -/
theorem Trying.fixEach :
    ∀ {order : List Diagnostic} {limit : Option Nat} {behind : List Char} {c : Checker},
      Trying id text order limit behind c →
      ∃ c', CommandLine.fixEach id order limit c = ((taken limit order).length, c') ∧
        c.SameElsewhere id c' ∧ (taken limit order = [] → c' = c) ∧
        c'.workspace.text? id = some (String.ofList
          (replaceAll text (limit.getD text.length) ((taken limit order).map change) ++ behind))
  | [], limit, behind, c, h => ⟨c, rfl, .refl id c, fun _ => rfl, h.text?_eq⟩
  | d :: order, limit, behind, c, h => by
    rw [CommandLine.fixEach, taken]
    by_cases hany : limit.any (· < d.range.stop) = true
    · rw [if_pos hany, if_pos hany]
      exact h.skip.fixEach
    · have hle : d.range.stop ≤ limit.getD text.length := by
        cases limit with
        | none => exact (h.liesIn d List.mem_cons_self).stop_le
        | some p => simpa using hany
      obtain ⟨c₁, hfix, hsame, htrying⟩ := h.fix hle
      obtain ⟨c', heach, hsame', -, htext⟩ := htrying.fixEach
      rw [if_neg hany, if_neg hany, hfix]
      dsimp only
      rw [heach]
      refine ⟨c', rfl, hsame.trans hsame', fun hnil => by simp at hnil, htext.trans ?_⟩
      rw [List.map_cons, change, Text.replaceAll_cons, Option.getD_some]
      simp only [List.append_assoc]

/-- What is taken leaves the record, and nothing else does. -/
theorem Trying.diagnostics_fixEach :
    ∀ {order : List Diagnostic} {limit : Option Nat} {behind : List Char} {c : Checker},
      Trying id text order limit behind c →
      (CommandLine.fixEach id order limit c).2.diagnostics id =
        (c.diagnostics id).diff (taken limit order)
  | [], limit, behind, c, h => rfl
  | d :: order, limit, behind, c, h => by
    rw [CommandLine.fixEach, taken]
    by_cases hany : limit.any (· < d.range.stop) = true
    · rw [if_pos hany, if_pos hany]
      exact h.skip.diagnostics_fixEach
    · have hle : d.range.stop ≤ limit.getD text.length := by
        cases limit with
        | none => exact (h.liesIn d List.mem_cons_self).stop_le
        | some p => simpa using hany
      obtain ⟨c₁, hfix, -, htrying⟩ := h.fix hle
      obtain ⟨-, -, s, w, -, -, rfl⟩ := Checker.fix_eq_ok_iff.1 hfix
      rw [if_neg hany, if_neg hany, hfix]
      dsimp only
      rw [htrying.diagnostics_fixEach, Checker.diagnostics_withFixed, if_pos rfl, List.diff_cons]

/-! ## The whole document

At first the limit is the end and nothing is behind it, so the invariant is about the findings
alone.  After a check they all lie in the text; that those do which suggest something would be
enough. -/

/-- Before the first edit it is enough that the findings that suggest something lie in the text. -/
theorem trying_candidates {text : String} (hactive : c.active = true)
    (hwritable : c.workspace.readOnly = false) (htext : c.workspace.text? id = some text)
    (hlies : ∀ d ∈ c.diagnostics id, d.suggestion.isSome = true →
      d.range.LiesIn text.toList.length) :
    Trying id text.toList (candidates (c.diagnostics id)) none [] c := by
  have hmem := fun d => (fixOrder_candidates (c.diagnostics id)).mem_iff (d := d)
  refine ⟨hactive, hwritable, Nat.le_refl _, ?_,
    fun d hd => hlies d ((hmem d).1 hd).1 ((hmem d).1 hd).2, fun d hd => ((hmem d).1 hd).2,
    fun d => ?_⟩
  · rw [Option.getD_none, List.take_length, List.append_nil, String.ofList_toList]
    exact htext
  · rw [candidates, (List.mergeSort_perm _ _).count_eq]
    exact List.filter_sublist.count_le d

end CommandLine
end Proofreader
