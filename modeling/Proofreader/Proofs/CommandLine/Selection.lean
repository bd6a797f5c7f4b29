import Proofreader.CommandLine.Fixing
import Proofreader.Proofs.Text.Replacement

/-!
# Which findings are fixed

Findings may overlap, so not all suggestions can be applied.  They are tried from the end of the
document backwards, and one is taken if it ends before the last that was taken begins.

* `FixOrder` says in which order findings are tried, without saying how to sort: the later a finding
  begins the earlier it is tried, and findings that begin together are tried as they are recorded.
  There is one such order (`FixOrder.unique`), and the program finds it (`fixOrder_candidates`).
* `taken` is the greedy choice along an order.
* `Fixed` is the text in which the ranges of a greedy choice are replaced all at once.

The order of findings that begin together decides which of them is taken, so it may not be left
open.  The program sorts by a stable algorithm; here this is told by the filters `ties`, one for
each place, which keep what begins there in the order of the record.  Two lists that are sorted by
places and agree at each place are equal (`eq_of_filter_start_eq`, by induction on both at once), so
the two fields of `FixOrder` leave no freedom.  The proof for the program uses that a sublist that
is sorted already is kept by sorting.

`taken` repeats the loop of the program without the document.  Its limit is the start of what was
taken last, and this is enough to know that nothing overlaps: what was taken earlier begins later
still.
-/

set_option autoImplicit false

namespace Proofreader
namespace CommandLine

/-! ## The order -/

/-- The findings of a list that suggest something, in the order in which they are tried. -/
structure FixOrder (diagnostics order : List Diagnostic) : Prop where
  /-- What begins later is tried earlier. -/
  starts : order.Pairwise fun a b => b.range.start ≤ a.range.start
  /-- At every place, the findings that suggest something are tried as they are recorded. -/
  ties : ∀ n, order.filter (fun d => d.range.start == n) =
    diagnostics.filter fun d => d.suggestion.isSome && d.range.start == n

variable {diagnostics order : List Diagnostic}

theorem FixOrder.mem_iff (h : FixOrder diagnostics order) {d : Diagnostic} :
    d ∈ order ↔ d ∈ diagnostics ∧ d.suggestion.isSome = true := by
  have hd : d ∈ order ↔ d ∈ order.filter (fun e => e.range.start == d.range.start) := by simp
  rw [hd, h.ties]
  simp

theorem mem_iff_of_filter_start_eq {as bs : List Diagnostic}
    (h : ∀ n, as.filter (fun d => d.range.start == n) = bs.filter fun d => d.range.start == n)
    (d : Diagnostic) : d ∈ as ↔ d ∈ bs := by
  have hself : ∀ ds : List Diagnostic,
      d ∈ ds ↔ d ∈ ds.filter (fun e => e.range.start == d.range.start) := by simp
  rw [hself as, h, ← hself bs]

/-- Sorted lists are equal if they agree at every place: the head of each is in the other, so both
begin at one place, and there they agree. -/
theorem eq_of_filter_start_eq {as bs : List Diagnostic}
    (has : as.Pairwise fun a b => b.range.start ≤ a.range.start)
    (hbs : bs.Pairwise fun a b => b.range.start ≤ a.range.start)
    (h : ∀ n, as.filter (fun d => d.range.start == n) = bs.filter fun d => d.range.start == n) :
    as = bs := by
  have hmem := mem_iff_of_filter_start_eq h
  induction as generalizing bs with
  | nil => exact (List.eq_nil_iff_forall_not_mem.2 fun d hd => by simpa using (hmem d).2 hd).symm
  | cons a as ih =>
    cases bs with
    | nil => simpa using (hmem a).1 List.mem_cons_self
    | cons b bs =>
      have hle : ∀ {x y : Diagnostic} {ys : List Diagnostic}, x ∈ y :: ys →
          (y :: ys).Pairwise (fun a b => b.range.start ≤ a.range.start) →
          x.range.start ≤ y.range.start := by
        intro x y ys hx hys
        rcases List.mem_cons.1 hx with rfl | hx
        · exact Nat.le_refl _
        · exact (List.pairwise_cons.1 hys).1 x hx
      have hstart : a.range.start = b.range.start :=
        Nat.le_antisymm (hle ((hmem a).1 List.mem_cons_self) hbs)
          (hle ((hmem b).2 List.mem_cons_self) has)
      have hab := h b.range.start
      rw [List.filter_cons_of_pos (by simpa using hstart), List.filter_cons_of_pos (by simp),
        List.cons.injEq] at hab
      obtain ⟨rfl, -⟩ := hab
      have htails : ∀ n, as.filter (fun d => d.range.start == n) =
          bs.filter fun d => d.range.start == n := by
        intro n
        have hn := h n
        rw [List.filter_cons, List.filter_cons] at hn
        split at hn
        · exact (List.cons.inj hn).2
        · exact hn
      rw [ih (List.pairwise_cons.1 has).2 (List.pairwise_cons.1 hbs).2 htails
        (mem_iff_of_filter_start_eq htails)]

/-- There is only one order. -/
theorem FixOrder.unique {order' : List Diagnostic} (h : FixOrder diagnostics order)
    (h' : FixOrder diagnostics order') : order = order' :=
  eq_of_filter_start_eq h.starts h'.starts fun n => (h.ties n).trans (h'.ties n).symm

theorem laterFirst_trans (a b c : Diagnostic) (hab : decide (b.range.start ≤ a.range.start) = true)
    (hbc : decide (c.range.start ≤ b.range.start) = true) :
    decide (c.range.start ≤ a.range.start) = true :=
  decide_eq_true (Nat.le_trans (of_decide_eq_true hbc) (of_decide_eq_true hab))

theorem laterFirst_total (a b : Diagnostic) : (decide (b.range.start ≤ a.range.start) ||
    decide (a.range.start ≤ b.range.start)) = true := by
  simp only [Bool.or_eq_true, decide_eq_true_eq]
  exact Nat.le_total _ _

/-- Sorting keeps what begins at one place in its order: it is sorted already, so it is a sublist of
the sorted list, and it is all of what begins there. -/
theorem filter_mergeSort_start (ds : List Diagnostic) (n : Nat) :
    (ds.mergeSort fun a b => decide (b.range.start ≤ a.range.start)).filter
        (fun d => d.range.start == n) = ds.filter fun d => d.range.start == n := by
  have hsorted : (ds.filter fun d => d.range.start == n).Pairwise fun a b =>
      decide (b.range.start ≤ a.range.start) = true := by
    refine List.pairwise_of_forall_mem_list fun a ha b hb => ?_
    simp only [List.mem_filter, beq_iff_eq] at ha hb
    rw [ha.2, hb.2]
    exact decide_eq_true (Nat.le_refl n)
  have hsub := (List.sublist_mergeSort laterFirst_trans laterFirst_total hsorted
    List.filter_sublist).filter fun d => d.range.start == n
  rw [List.filter_filter] at hsub
  simp only [Bool.and_self] at hsub
  refine (hsub.eq_of_length ?_).symm
  exact ((List.mergeSort_perm ds _).filter _).length_eq.symm

theorem fixOrder_candidates (diagnostics : List Diagnostic) :
    FixOrder diagnostics (candidates diagnostics) where
  starts := (List.pairwise_mergeSort laterFirst_trans laterFirst_total _).imp of_decide_eq_true
  ties n := by
    rw [candidates, filter_mergeSort_start, List.filter_filter]
    exact List.filter_congr fun d _ => Bool.and_comm _ _

/-! ## The choice

Each lemma is an induction along the order with the limit left general, as taking a finding sets
another limit for the rest. -/

/-- The findings that are taken along an order: those that do not end behind `limit`, the start of
the last that was taken. -/
def taken : (limit : Option Nat) → (order : List Diagnostic) → List Diagnostic
  | _, [] => []
  | limit, d :: order =>
    if limit.any (· < d.range.stop) then taken limit order
    else d :: taken (some d.range.start) order

theorem taken_sublist (limit : Option Nat) (order : List Diagnostic) :
    (taken limit order).Sublist order := by
  induction order generalizing limit with
  | nil => exact List.Sublist.slnil
  | cons d order ih =>
    rw [taken]
    split
    · exact (ih limit).cons d
    · exact (ih _).cons_cons d

/-- What is taken ends before what was taken before. -/
theorem stop_le_of_mem_taken {limit : Nat} {d : Diagnostic}
    (horder : ∀ d ∈ order, d.range.start ≤ d.range.stop) (hd : d ∈ taken (some limit) order) :
    d.range.stop ≤ limit := by
  induction order generalizing limit with
  | nil => simp [taken] at hd
  | cons e order ih =>
    obtain ⟨he, horder⟩ := List.forall_mem_cons.1 horder
    rw [taken] at hd
    split at hd
    · exact ih horder hd
    · rename_i hle
      simp only [Option.any_some, decide_eq_true_eq, Nat.not_lt] at hle
      rcases List.mem_cons.1 hd with rfl | hd
      · exact hle
      · have := ih horder hd
        omega

/-- The ranges that are taken do not overlap, and come from the end of the text backwards. -/
theorem taken_apart {limit : Option Nat} (horder : ∀ d ∈ order, d.range.start ≤ d.range.stop) :
    (taken limit order).Pairwise fun a b => b.range.stop ≤ a.range.start := by
  induction order generalizing limit with
  | nil => exact List.Pairwise.nil
  | cons d order ih =>
    obtain ⟨-, horder⟩ := List.forall_mem_cons.1 horder
    rw [taken]
    split
    · exact ih horder
    · exact List.pairwise_cons.2 ⟨fun e he => stop_le_of_mem_taken horder he, ih horder⟩

/-! ## The fixed text

The replaced ranges are given all at once and in terms of the text before, so that `Fixed` says what
is fixed and nothing of the edits in between. -/

/-- The replacement that a finding asks for. -/
def change (d : Diagnostic) : TextRange × List Char := (d.range, (d.suggestion.getD "").toList)

/-- The text `fixed` is `text` with the suggestions of some of its findings applied, all at once. -/
structure Fixed (text : String) (diagnostics chosen : List Diagnostic) (fixed : String) : Prop where
  /-- The choice is the greedy one. -/
  greedy : ∃ order, FixOrder diagnostics order ∧ chosen = taken none order
  /-- Only findings that are recorded and suggest something are chosen. -/
  recorded : ∀ d ∈ chosen, d ∈ diagnostics ∧ d.suggestion.isSome = true
  /-- They lie in the text. -/
  liesIn : ∀ d ∈ chosen, d.range.LiesIn text.toList.length
  /-- Their ranges do not overlap. -/
  apart : chosen.Pairwise fun a b => b.range.stop ≤ a.range.start
  /-- Their ranges are replaced, and everything else is kept. -/
  text_eq : fixed.toList = Text.replaceAll text.toList text.toList.length (chosen.map change)

end CommandLine
end Proofreader
