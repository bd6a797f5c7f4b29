import Mathlib.Order.Bounds.Basic
import Proofreader.Proofs.Checker.Runs
import Proofreader.Proofs.CommandLine.Fixing

/-!
# As many findings as possible are fixed

Findings that overlap cannot be fixed together, so fixing a document is a choice, and the choice is
made in one pass that never takes anything back.  As long as no range is empty, no choice is larger.

The reason is an exchange.  Of what is still to be tried, the finding that begins last is taken.
Whatever does not end before its beginning holds the character there, so of such findings any choice
has one at most, and giving it up for the one that is taken costs nothing
(`length_le_length_taken`).  For the same reason, what is left out overlaps what was taken before it
(`exists_overlaps_of_mem`).

An empty range holds no character, so it overlaps nothing; yet once it is taken, the ranges around
its place are left out.  With empty ranges the choice need not be a largest one.

A choice is a list of findings of which each is recorded as often as it is chosen: equal findings
are different entries of the record, but they overlap, so no choice has two of them unless their
range is empty.  The choice of the program has to be compared with any other, and the other is in no
particular order.  So the induction is on what is to be tried, for every choice among it, and a
choice is split at a character, not at a place in the list.

The limit is a part of the induction hypothesis.  It is what the taken findings leave of the text:
only choices within it are compared, and the finding that is taken sets it to its own start, so what
of a choice does not hold the character there is within the new limit.
-/

set_option autoImplicit false

namespace Proofreader

/-! ## Ranges that overlap

To overlap is to have a character in common.  The program compares ends with starts instead; that
the two come to the same for ranges that are not empty is used in both directions, and it is where
empty ranges are excluded. -/

namespace TextRange

/-- The character behind `n` others is in the range. -/
def Holds (r : TextRange) (n : Nat) : Prop := r.start ≤ n ∧ n < r.stop

/-- Some character is in both ranges. -/
def Overlaps (r r' : TextRange) : Prop := ∃ n, r.Holds n ∧ r'.Holds n

variable {r r' : TextRange}

theorem overlaps_iff : r.Overlaps r' ↔ max r.start r'.start < min r.stop r'.stop := by
  constructor
  · rintro ⟨n, ⟨hstart, hstop⟩, hstart', hstop'⟩
    exact Nat.lt_of_le_of_lt (Nat.max_le.2 ⟨hstart, hstart'⟩) (Nat.lt_min.2 ⟨hstop, hstop'⟩)
  · intro h
    obtain ⟨hstop, hstop'⟩ := Nat.lt_min.1 h
    exact ⟨_, ⟨Nat.le_max_left _ _, hstop⟩, Nat.le_max_right _ _, hstop'⟩

instance (r r' : TextRange) : Decidable (r.Overlaps r') := decidable_of_iff _ overlaps_iff.symm

/-- What ends before another range begins does not overlap it. -/
theorem not_overlaps_of_stop_le (h : r'.stop ≤ r.start) : ¬r.Overlaps r' := by
  rintro ⟨n, ⟨hstart, -⟩, -, hstop⟩
  omega

end TextRange

namespace CommandLine

/-! ## Choices -/

/-- Some of the recorded findings that can be fixed together: all of them suggest something, and no
two overlap. -/
structure Choice (diagnostics choice : List Diagnostic) : Prop where
  /-- They are recorded, each at least as often as it is chosen. -/
  recorded : choice.Subperm diagnostics
  /-- They suggest something. -/
  suggests : ∀ d ∈ choice, d.suggestion.isSome = true
  /-- No two of them overlap. -/
  apart : choice.Pairwise fun a b => ¬a.range.Overlaps b.range

variable {diagnostics order choice : List Diagnostic} {limit : Option Nat}

/-- Of findings that all hold one character, at most one is in a choice. -/
theorem length_le_one_of_holds {n : Nat}
    (hapart : choice.Pairwise fun a b => ¬a.range.Overlaps b.range)
    (hholds : ∀ d ∈ choice, d.range.Holds n) : choice.length ≤ 1 := by
  match choice with
  | [] => exact Nat.zero_le 1
  | [_] => exact Nat.le_refl 1
  | a :: b :: rest =>
    have hb : b ∈ a :: b :: rest := List.mem_cons_of_mem a List.mem_cons_self
    exact absurd ⟨n, hholds a List.mem_cons_self, hholds b hb⟩
      ((List.pairwise_cons.1 hapart).1 b List.mem_cons_self)

/-- **The exchange.**  No choice among what is still to be tried is larger than what is taken of it.
By induction on what is to be tried: what of a choice does not end before the finding that is taken
holds its first character, and all else is still to be tried after it. -/
theorem length_le_length_taken
    (hstarts : order.Pairwise fun a b => b.range.start ≤ a.range.start)
    (hproper : ∀ d ∈ order, d.range.start < d.range.stop) (hsub : choice ⊆ order)
    (hapart : choice.Pairwise fun a b => ¬a.range.Overlaps b.range)
    (hlimit : ∀ d ∈ choice, ¬limit.any (· < d.range.stop) = true) :
    choice.length ≤ (taken limit order).length := by
  induction order generalizing limit choice with
  | nil =>
    rw [List.subset_nil.1 hsub]
    exact Nat.zero_le _
  | cons d order ih =>
    obtain ⟨hd, hstarts⟩ := List.pairwise_cons.1 hstarts
    obtain ⟨hdproper, hproper⟩ := List.forall_mem_cons.1 hproper
    rw [taken]
    split
    · -- what is left out is in no choice
      rename_i hskip
      refine ih hstarts hproper (fun e he => ?_) hapart hlimit
      refine (List.mem_cons.1 (hsub he)).resolve_left ?_
      rintro rfl
      exact hlimit e he hskip
    · have hsplit :=
        choice.length_eq_length_filter_add fun e => decide (e.range.stop ≤ d.range.start)
      have hbefore : (choice.filter fun e => decide (e.range.stop ≤ d.range.start)).length ≤
          (taken (some d.range.start) order).length := by
        refine ih hstarts hproper (fun e he => ?_) (hapart.sublist List.filter_sublist)
          fun e he => ?_
        · obtain ⟨he, hstop⟩ := List.mem_filter.1 he
          refine (List.mem_cons.1 (hsub he)).resolve_left ?_
          rintro rfl
          exact Nat.not_le.2 hdproper (of_decide_eq_true hstop)
        · have hstop := of_decide_eq_true (List.mem_filter.1 he).2
          simpa using hstop
      have hhold : (choice.filter fun e => !decide (e.range.stop ≤ d.range.start)).length ≤ 1 := by
        refine length_le_one_of_holds (hapart.sublist List.filter_sublist) (n := d.range.start)
          fun e he => ?_
        obtain ⟨he, hstop⟩ := List.mem_filter.1 he
        refine ⟨?_, by simpa using hstop⟩
        rcases List.mem_cons.1 (hsub he) with rfl | he
        · exact Nat.le_refl _
        · exact hd e he
      rw [List.length_cons]
      omega

/-- The empty range is tried first, as it begins later, and the range around it is left out. -/
example :
    let empty : Diagnostic := ⟨⟨1, 1⟩, .hint, "here\nx"⟩
    let around : Diagnostic := ⟨⟨0, 2⟩, .hint, "there\ny"⟩
    ¬empty.range.Overlaps around.range ∧ taken none [empty, around] = [empty] := by
  decide

/-- **What is left out** overlaps what is taken, or it ends behind the limit from which on the
findings were tried. -/
theorem exists_overlaps_of_mem
    (hstarts : order.Pairwise fun a b => b.range.start ≤ a.range.start)
    (hproper : ∀ d ∈ order, d.range.start < d.range.stop) {d : Diagnostic} (hd : d ∈ order) :
    (∃ e ∈ taken limit order, d.range.Overlaps e.range) ∨
      limit.any (· < d.range.stop) = true := by
  induction order generalizing limit with
  | nil => simp at hd
  | cons a order ih =>
    obtain ⟨ha, hstarts⟩ := List.pairwise_cons.1 hstarts
    obtain ⟨haproper, hproper⟩ := List.forall_mem_cons.1 hproper
    have hfirst : a.range.Holds a.range.start := ⟨Nat.le_refl _, haproper⟩
    rw [taken]
    split
    · rename_i hskip
      rcases List.mem_cons.1 hd with rfl | hd
      · exact .inr hskip
      · exact ih hstarts hproper hd
    · refine .inl ?_
      rcases List.mem_cons.1 hd with rfl | hd
      · exact ⟨d, List.mem_cons_self, _, hfirst, hfirst⟩
      · have hrest : (∃ e ∈ taken (some a.range.start) order, d.range.Overlaps e.range) ∨
            (some a.range.start).any (· < d.range.stop) = true := ih hstarts hproper hd
        rcases hrest with ⟨e, he, hover⟩ | hbehind
        · exact ⟨e, List.mem_cons_of_mem a he, hover⟩
        · exact ⟨a, List.mem_cons_self, _, ⟨ha d hd, by simpa using hbehind⟩, hfirst⟩

/-! ## The document

What is taken leaves the record and becomes the text (`Trying.fixEach`,
`Trying.diagnostics_fixEach`), so what remains in the record is what was not taken, besides what
suggests nothing. -/

/-- What is taken along the order is a choice. -/
theorem choice_taken (horder : FixOrder diagnostics order) (hsub : order.Subperm diagnostics)
    (hproper : ∀ d ∈ order, d.range.start < d.range.stop) :
    Choice diagnostics (taken limit order) where
  recorded := (taken_sublist limit order).subperm.trans hsub
  suggests _ hd := (horder.mem_iff.1 ((taken_sublist limit order).subset hd)).2
  apart := (taken_apart fun d hd => Nat.le_of_lt (hproper d hd)).imp
    TextRange.not_overlaps_of_stop_le

theorem candidates_subperm (diagnostics : List Diagnostic) :
    (candidates diagnostics).Subperm diagnostics :=
  (List.mergeSort_perm _ _).subperm.trans List.filter_sublist.subperm

/-- **As many findings as possible are fixed.**  In an active checker on a workspace that admits
edits, for an open document in which the findings that suggest something have ranges that are not
empty and lie in its text: the number that is told is the largest size of a choice.  Fixed are the
findings of such a choice: their ranges are replaced all at once, and they are what the record
loses.  What suggests something and stays in the record overlaps one of them. -/
theorem fixAll_isGreatest {c : Checker} {id : DocumentId} {text : String}
    (hactive : c.active = true) (hwritable : c.workspace.readOnly = false)
    (htext : c.workspace.text? id = some text)
    (hproper : ∀ d ∈ c.diagnostics id, d.suggestion.isSome = true →
      d.range.start < d.range.stop ∧ d.range.stop ≤ text.toList.length) :
    IsGreatest {n | ∃ choice, Choice (c.diagnostics id) choice ∧ choice.length = n}
        (fixAll c id).1 ∧
      ∃ applied, Choice (c.diagnostics id) applied ∧ applied.length = (fixAll c id).1 ∧
        (fixAll c id).2.workspace.text? id = some (String.ofList
          (Text.replaceAll text.toList text.toList.length (applied.map change))) ∧
        (applied ++ (fixAll c id).2.diagnostics id).Perm (c.diagnostics id) ∧
        ∀ d ∈ (fixAll c id).2.diagnostics id, d.suggestion.isSome = true →
          ∃ e ∈ applied, d.range.Overlaps e.range := by
  have horder := fixOrder_candidates (c.diagnostics id)
  have hsub := candidates_subperm (c.diagnostics id)
  have hlonger : ∀ d ∈ candidates (c.diagnostics id), d.range.start < d.range.stop := fun d hd =>
    (hproper d (horder.mem_iff.1 hd).1 (horder.mem_iff.1 hd).2).1
  have htrying := trying_candidates hactive hwritable htext fun d hd hsuggests =>
    have h := hproper d hd hsuggests
    ⟨Nat.le_of_lt h.1, h.2⟩
  obtain ⟨c', heach, -, -, htext'⟩ := htrying.fixEach
  have hrecord := htrying.diagnostics_fixEach
  rw [heach] at hrecord
  rw [fixAll, heach]
  have hchoice : Choice (c.diagnostics id) (taken none (candidates (c.diagnostics id))) :=
    choice_taken horder hsub hlonger
  refine ⟨⟨⟨_, hchoice, rfl⟩, ?_⟩, _, hchoice, rfl, ?_, ?_, fun d hd hsuggests => ?_⟩
  · rintro n ⟨choice, h, rfl⟩
    refine length_le_length_taken horder.starts hlonger (fun d hd => ?_) h.apart fun _ _ => by simp
    exact horder.mem_iff.2 ⟨h.recorded.subset hd, h.suggests d hd⟩
  · rw [Option.getD_none, List.append_nil] at htext'
    exact htext'
  · rw [hrecord]
    exact List.subperm_append_diff_self_of_count_le (List.subperm_ext_iff.1 hchoice.recorded)
  · rw [hrecord] at hd
    have hmem := horder.mem_iff.2 ⟨List.diff_subset _ _ hd, hsuggests⟩
    exact (exists_overlaps_of_mem horder.starts hlonger hmem).resolve_right (by simp)

/-- In `teh cat teh` the range of `eh c` overlaps that of the first `teh`, which begins earlier and
is left out.  Two is the most that can be fixed. -/
theorem fixAll_isGreatest_teh_cat_teh :
    let c := (Checker.withDelay .empty defaultDelay).afterAll
      [.start [.everyMatch "teh" .warning "a slip" "the", .everyMatch "eh c" .info "shout" "EH C"],
        .openDocument "a" "teh cat teh", .focus 0 "a", .runAll]
    c.active = true ∧ c.workspace.readOnly = false ∧ c.workspace.text? "a" = some "teh cat teh" ∧
      (∀ d ∈ c.diagnostics "a", d.suggestion.isSome = true →
        d.range.start < d.range.stop ∧ d.range.stop ≤ "teh cat teh".toList.length) ∧
      (fixAll c "a").1 = 2 ∧
      IsGreatest {n | ∃ choice, Choice (c.diagnostics "a") choice ∧ choice.length = n} 2 ∧
      (fixAll c "a").2.workspace.text? "a" = some "tEH Cat the" := by
  intro c
  have hactive : c.active = true := by decide +kernel
  have hwritable : c.workspace.readOnly = false := by decide +kernel
  have htext : c.workspace.text? "a" = some "teh cat teh" := by decide +kernel
  have hproper : ∀ d ∈ c.diagnostics "a", d.suggestion.isSome = true →
      d.range.start < d.range.stop ∧ d.range.stop ≤ "teh cat teh".toList.length := by
    decide +kernel
  let slip (start : Nat) : Diagnostic := ⟨⟨start, start + 3⟩, .warning, "a slip\nthe"⟩
  let shout : Diagnostic := ⟨⟨1, 5⟩, .info, "shout\nEH C"⟩
  have hfound : c.diagnostics "a" = [slip 0, slip 8, shout] := by decide +kernel
  have hsuggest : [slip 0, slip 8, shout].filter (fun d => d.suggestion.isSome) =
      [slip 0, slip 8, shout] := by decide +kernel
  have horder : candidates [slip 0, slip 8, shout] = [slip 8, shout, slip 0] := by
    rw [candidates, hsuggest]
    simp [List.mergeSort, slip, shout]
  obtain ⟨hcount, hfixed⟩ :
      (fixAll c "a").1 = 2 ∧ (fixAll c "a").2.workspace.text? "a" = some "tEH Cat the" := by
    rw [fixAll, hfound, horder]
    decide +kernel
  obtain ⟨hgreatest, -⟩ := fixAll_isGreatest hactive hwritable htext hproper
  rw [hcount] at hgreatest
  exact ⟨hactive, hwritable, htext, hproper, hcount, hgreatest, hfixed⟩

end CommandLine
end Proofreader
