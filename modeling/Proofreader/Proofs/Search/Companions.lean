import Mathlib.Data.List.TakeWhile
import Mathlib.Order.Bounds.Basic
import Proofreader.Proofs.Search.Ranges

/-!
# Which matches lack a companion

A match of the whole that shares its anchor with a match of the pattern is a *partner* of it.  A
match is meant to be reported if it has no partner, that is `Search.withoutPartner`.  The walk does
less than that: its cursor stands still at a match of the whole that no match is a partner of, and
sees nothing behind it.  Two matches of the whole can be told apart by their anchors, so this is all
that the walk misses:

* `Search.unpaired_eq_withoutPartner` gives the walk in closed form, over the matches of the whole
  that the cursor gets to (`Search.reached`);
* `Search.withoutPartner_reached_eq_iff` says when these are enough;
* `Search.reached_eq_take` counts them: they are the longest beginning of the whole in which every
  match is a partner.

The cursor does stand still: with `aa` and `a?` before it, the first match of the whole in `aaa aa`
ends behind the first match of the pattern, and where none ends.

## How the proof goes

The walk is a recursion with two lists, and its cursor never goes back.  A closed form should not
have a cursor, so the two lists must say on their own what the walk does, and for that their anchors
must grow.  They do, on either side: ranges that ascend have both their starts and their ends in
order (`Search.ascending_of_matchRanges`).

The induction is on the matches of the pattern.  In each case some match has just been dealt with,
or some match of the whole was left behind, and it comes before everything that is to come.  So the
lemmas that end in `_of_lt` are the proof: such a match is a partner of nothing to come, has none to
come, and makes no difference to how far the cursor gets.  The one case that is no step forward is a
cursor without a partner.  There `reached` is cut off, and both sides report all that is left.

Whether the walk reports the right matches is then a question about two filters, and
`withoutPartner_reached_eq_iff` answers it in both directions.  A partner that lies behind the first
match of the whole without one is never seen, and it is not the partner of an earlier match, since
anchors do not repeat.  So one such partner is enough for a match too many to be reported, and there
is no second reason.
-/

set_option autoImplicit false

namespace Proofreader

/-- Whether some range of a list shares its anchor with a range. -/
def Side.hasPartner (side : Side) (rs : List TextRange) (r : TextRange) : Bool :=
  rs.any fun w => side.anchor w == side.anchor r

theorem Side.hasPartner_iff {side : Side} {rs : List TextRange} {r : TextRange} :
    side.hasPartner rs r = true ↔ ∃ w ∈ rs, side.anchor w = side.anchor r := by
  simp [hasPartner]

namespace Search

/-- The matches without a partner, in order. -/
def withoutPartner (side : Side) (found whole : List TextRange) : List TextRange :=
  found.filter fun r => !side.hasPartner whole r

/-- The matches of the whole that the cursor gets beyond: those before the first without partner. -/
def reached (side : Side) (found whole : List TextRange) : List TextRange :=
  whole.takeWhile (side.hasPartner found)

variable {side : Side}

theorem withoutPartner_nil_right (found : List TextRange) :
    withoutPartner side found [] = found := by
  simp [withoutPartner, Side.hasPartner]

theorem mem_withoutPartner {found whole : List TextRange} {r : TextRange} :
    r ∈ withoutPartner side found whole ↔ r ∈ found ∧ side.hasPartner whole r = false := by
  simp [withoutPartner]

/-! ## The walk

First the walk one match at a time, and then what a match does to `withoutPartner` and to `reached`
that comes before all others. -/

theorem unpaired_of_ne {r cursor : TextRange} {found ahead : List TextRange}
    (h : side.anchor r ≠ side.anchor cursor) :
    unpaired side (r :: found) cursor ahead = r :: unpaired side found cursor ahead := by
  rw [unpaired.eq_def]
  exact if_neg h

theorem unpaired_of_eq_last {r cursor : TextRange} {found : List TextRange}
    (h : side.anchor r = side.anchor cursor) :
    unpaired side (r :: found) cursor [] = unpaired side found cursor [] := by
  rw [unpaired.eq_def]
  exact if_pos h

theorem unpaired_of_eq {r cursor next : TextRange} {found ahead : List TextRange}
    (h : side.anchor r = side.anchor cursor) :
    unpaired side (r :: found) cursor (next :: ahead) = unpaired side found next ahead := by
  rw [unpaired.eq_def]
  exact if_pos h

/-- A range whose anchor comes before that of another is no partner of it. -/
theorem hasPartner_cons_of_lt {r w : TextRange} {rs : List TextRange}
    (h : side.anchor r < side.anchor w) :
    side.hasPartner (r :: rs) w = side.hasPartner rs w := by
  have hne : (side.anchor r == side.anchor w) = false := by
    rw [beq_eq_false_iff_ne]
    omega
  rw [Side.hasPartner, List.any_cons, hne, Bool.false_or, Side.hasPartner]

theorem hasPartner_eq_false_of_lt {w : TextRange} {rs : List TextRange}
    (h : ∀ r ∈ rs, side.anchor w < side.anchor r) : side.hasPartner rs w = false := by
  rw [Bool.eq_false_iff, Ne, Side.hasPartner_iff]
  rintro ⟨r, hr, heq⟩
  have := h r hr
  omega

/-- A match that comes before all matches of the whole does not change how far the cursor gets. -/
theorem reached_cons_of_lt {r : TextRange} {whole : List TextRange} (found : List TextRange)
    (h : ∀ w ∈ whole, side.anchor r < side.anchor w) :
    reached side (r :: found) whole = reached side found whole := by
  rw [reached, reached]
  induction whole with
  | nil => rfl
  | cons w whole ih =>
    obtain ⟨hw, hwhole⟩ := List.forall_mem_cons.1 h
    rw [List.takeWhile_cons, List.takeWhile_cons, hasPartner_cons_of_lt hw, ih hwhole]

theorem reached_eq_nil {found ahead : List TextRange} {cursor : TextRange}
    (h : side.hasPartner found cursor = false) : reached side found (cursor :: ahead) = [] :=
  List.takeWhile_cons_of_neg (Bool.eq_false_iff.1 h)

/-- A match of the whole that comes before all matches is a partner of none. -/
theorem withoutPartner_cons_of_lt {w : TextRange} {found : List TextRange}
    (whole : List TextRange) (h : ∀ r ∈ found, side.anchor w < side.anchor r) :
    withoutPartner side found (w :: whole) = withoutPartner side found whole :=
  List.filter_congr fun r hr => by rw [hasPartner_cons_of_lt (h r hr)]

/-- A match that comes before all matches of the whole is without a partner. -/
theorem withoutPartner_cons_left_of_lt {r : TextRange} {found whole : List TextRange}
    (h : ∀ w ∈ whole, side.anchor r < side.anchor w) :
    withoutPartner side (r :: found) whole = r :: withoutPartner side found whole :=
  List.filter_cons_of_pos (by rw [hasPartner_eq_false_of_lt h, Bool.not_false])

/-- A match and its partner, both before all others, go away together. -/
theorem withoutPartner_cons_cons {r w : TextRange} {found whole : List TextRange}
    (h : side.anchor r = side.anchor w) (hr : ∀ s ∈ found, side.anchor r < side.anchor s) :
    withoutPartner side (r :: found) (w :: whole) = withoutPartner side found whole := by
  rw [← withoutPartner_cons_of_lt whole (fun s hs => h ▸ hr s hs)]
  refine List.filter_cons_of_neg ?_
  rw [Bool.not_eq_true', Bool.not_eq_false, Side.hasPartner_iff]
  exact ⟨w, List.mem_cons_self, h.symm⟩

/-- **The walk in closed form.**  By induction on the matches: whatever the cursor has left behind
comes before all matches that are still to come, and can be forgotten. -/
theorem unpaired_eq_withoutPartner :
    ∀ (found : List TextRange) (cursor : TextRange) (ahead : List TextRange),
      found.Pairwise (fun a b => side.anchor a < side.anchor b) →
      (cursor :: ahead).Pairwise (fun a b => side.anchor a < side.anchor b) →
      unpaired side found cursor ahead =
        withoutPartner side found (reached side found (cursor :: ahead))
  | [], _, _, _, _ => rfl
  | r :: found, cursor, ahead, hfound, hwhole => by
    obtain ⟨hr, hfound⟩ := List.pairwise_cons.1 hfound
    obtain ⟨hcursor, hahead⟩ := List.pairwise_cons.1 hwhole
    by_cases heq : side.anchor r = side.anchor cursor
    · -- the cursor is on the partner of `r`, and moves on if it can
      have hreached : reached side (r :: found) (cursor :: ahead) =
          cursor :: reached side found ahead := by
        rw [← reached_cons_of_lt found fun w hw => heq ▸ hcursor w hw]
        exact List.takeWhile_cons_of_pos (Side.hasPartner_iff.2 ⟨r, List.mem_cons_self, heq⟩)
      rw [hreached, withoutPartner_cons_cons heq hr]
      cases ahead with
      | nil =>
        rw [unpaired_of_eq_last heq, unpaired_eq_withoutPartner found cursor [] hfound hwhole,
          reached_eq_nil (hasPartner_eq_false_of_lt fun s hs => heq ▸ hr s hs)]
        rfl
      | cons next ahead =>
        rw [unpaired_of_eq heq, unpaired_eq_withoutPartner found next ahead hfound hahead]
    · rw [unpaired_of_ne heq, unpaired_eq_withoutPartner found cursor ahead hfound hwhole]
      by_cases hpartner : side.hasPartner found cursor = true
      · -- the partner is still to come, so `r` comes before the cursor
        obtain ⟨s, hs, hseq⟩ := Side.hasPartner_iff.1 hpartner
        have hlt : side.anchor r < side.anchor cursor := hseq ▸ hr s hs
        have hall : ∀ w ∈ cursor :: ahead, side.anchor r < side.anchor w :=
          List.forall_mem_cons.2 ⟨hlt, fun w hw => Nat.lt_trans hlt (hcursor w hw)⟩
        rw [reached_cons_of_lt found hall, withoutPartner_cons_left_of_lt]
        exact fun w hw => hall w ((List.takeWhile_sublist _).subset hw)
      · -- the cursor stands still for good
        have hnone : side.hasPartner found cursor = false := Bool.eq_false_iff.2 hpartner
        have hnone' : side.hasPartner (r :: found) cursor = false := by
          rw [Side.hasPartner, List.any_cons, beq_eq_false_iff_ne.2 heq, Bool.false_or]
          exact hnone
        rw [reached_eq_nil hnone, reached_eq_nil hnone', withoutPartner_nil_right,
          withoutPartner_nil_right]

/-! ## When the walk misses nothing

The whole is split where the cursor stops for good, into what it gets beyond and what it misses. -/

/-- What the walk leaves out has a partner. -/
theorem hasPartner_of_not_mem_withoutPartner_reached {found whole : List TextRange} {r : TextRange}
    (hr : r ∈ found) (h : r ∉ withoutPartner side found (reached side found whole)) :
    side.hasPartner whole r = true := by
  rw [mem_withoutPartner, not_and] at h
  obtain ⟨w, hw, heq⟩ := Side.hasPartner_iff.1 (Bool.ne_false_iff.1 (h hr))
  exact Side.hasPartner_iff.2 ⟨w, (List.takeWhile_sublist _).subset hw, heq⟩

/-- The walk reports the matches without a partner and nothing else, exactly if there is no partner
behind the first match of the whole that is none.  Since anchors grow, a partner behind it is that
of no match that was left out before. -/
theorem withoutPartner_reached_eq_iff {found whole : List TextRange}
    (hwhole : whole.Pairwise (fun a b => side.anchor a < side.anchor b)) :
    withoutPartner side found (reached side found whole) = withoutPartner side found whole ↔
      ∀ w ∈ whole.dropWhile (side.hasPartner found), side.hasPartner found w = false := by
  have hsplit : whole = reached side found whole ++ whole.dropWhile (side.hasPartner found) :=
    List.takeWhile_append_dropWhile.symm
  generalize whole.dropWhile (side.hasPartner found) = missed at hsplit ⊢
  generalize reached side found whole = near at hsplit ⊢
  subst hsplit
  have hlt := (List.pairwise_append.1 hwhole).2.2
  constructor
  · intro h w hw
    rw [Bool.eq_false_iff, Ne, Side.hasPartner_iff]
    rintro ⟨r, hr, heq⟩
    -- `r` is reported by the walk, although `w` is its partner
    have hmem : r ∈ withoutPartner side found near := by
      refine mem_withoutPartner.2 ⟨hr, ?_⟩
      rw [Bool.eq_false_iff, Ne, Side.hasPartner_iff]
      rintro ⟨v, hv, hveq⟩
      have := hlt v hv w hw
      omega
    rw [h, mem_withoutPartner] at hmem
    have : side.hasPartner (near ++ missed) r = true :=
      Side.hasPartner_iff.2 ⟨w, List.mem_append_right _ hw, heq.symm⟩
    exact Bool.false_ne_true (hmem.2.symm.trans this)
  · intro h
    refine List.filter_congr fun r hr => ?_
    have hmissed : side.hasPartner missed r = false := by
      rw [Bool.eq_false_iff, Ne, Side.hasPartner_iff]
      rintro ⟨w, hw, heq⟩
      exact Bool.eq_false_iff.1 (h w hw) (Side.hasPartner_iff.2 ⟨r, hr, heq.symm⟩)
    rw [Side.hasPartner, Side.hasPartner, List.any_append]
    rw [Side.hasPartner] at hmissed
    rw [hmissed, Bool.or_false]

/-! ## Searching

If one of the two patterns cannot be compiled there is an error, or the companion is not compiled at
all because the pattern has no match; so the theorems here assume that both can be. -/

theorem pairwise_anchor_of_matchRanges (side : Side) {text pattern : String} {rs : List TextRange}
    (h : matchRanges text pattern = .ok rs) :
    rs.Pairwise (fun a b => side.anchor a < side.anchor b) :=
  (ascending_of_matchRanges h).imp side.anchor_lt

end Search

open Search

/-- What is found if both patterns can be compiled. -/
theorem loneMatches_eq_ok {text pattern companion : String} {side : Side}
    {found whole : List TextRange} (hfound : matchRanges text pattern = .ok found)
    (hwhole : matchRanges text (side.withCompanion pattern companion) = .ok whole) :
    loneMatches text pattern companion side =
      .ok (withoutPartner side found (reached side found whole)) := by
  have hf := pairwise_anchor_of_matchRanges side hfound
  have hw := pairwise_anchor_of_matchRanges side hwhole
  rw [loneMatches, hfound, hwhole]
  cases found with
  | nil => rfl
  | cons r found =>
    cases whole with
    | nil =>
      rw [reached, List.takeWhile_nil, withoutPartner_nil_right]
      rfl
    | cons cursor ahead => exact congrArg Except.ok (unpaired_eq_withoutPartner _ _ _ hf hw)

/-- What is reported are matches of the pattern, in order. -/
theorem sublist_of_loneMatches {text pattern companion : String} {side : Side}
    {lone : List TextRange} (h : loneMatches text pattern companion side = .ok lone) :
    ∃ found, matchRanges text pattern = .ok found ∧ lone.Sublist found := by
  rw [loneMatches, bind_eq_ok_iff] at h
  obtain ⟨found, hfound, h⟩ := h
  refine ⟨found, hfound, ?_⟩
  split at h
  · rw [pure_eq_ok_iff] at h
    exact h ▸ List.nil_sublist found
  · obtain ⟨whole, hwhole, h⟩ := bind_eq_ok_iff.1 h
    split at h
    · rw [pure_eq_ok_iff] at h
      exact h ▸ List.Sublist.refl found
    · rw [pure_eq_ok_iff] at h
      rw [← h, unpaired_eq_withoutPartner _ _ _ (pairwise_anchor_of_matchRanges side hfound)
        (pairwise_anchor_of_matchRanges side hwhole)]
      exact List.filter_sublist

/-- **Which matches lack a companion.**  Reported are the matches that have no partner among those
matches of the whole that come before the first one without a partner; a match that is left out does
have a partner.  So exactly the matches without a partner are reported if, and only if, every match
of the whole behind the first that is no partner is none either. -/
theorem loneMatches_eq_withoutPartner_iff {text pattern companion : String} {side : Side}
    {found whole : List TextRange} (hfound : matchRanges text pattern = .ok found)
    (hwhole : matchRanges text (side.withCompanion pattern companion) = .ok whole) :
    loneMatches text pattern companion side =
        .ok (withoutPartner side found (whole.takeWhile (side.hasPartner found))) ∧
      (∀ lone, loneMatches text pattern companion side = .ok lone →
        ∀ r ∈ found, r ∉ lone → side.hasPartner whole r = true) ∧
      (loneMatches text pattern companion side = .ok (withoutPartner side found whole) ↔
        ∀ w ∈ whole.dropWhile (side.hasPartner found), side.hasPartner found w = false) := by
  have heq := loneMatches_eq_ok hfound hwhole
  refine ⟨heq, fun lone hlone r hr hnot => ?_, ?_⟩
  · rw [heq, Except.ok.injEq] at hlone
    exact hasPartner_of_not_mem_withoutPartner_reached hr (hlone ▸ hnot)
  · rw [heq, Except.ok.injEq]
    exact withoutPartner_reached_eq_iff (pairwise_anchor_of_matchRanges side hwhole)

/-- In `ax ab ax` the one match of `ab` is a partner, and the walk reports the other two matches. -/
theorem loneMatches_ax_ab_ax :
    matchRanges "ax ab ax" "a" = .ok [⟨0, 1⟩, ⟨3, 4⟩, ⟨6, 7⟩] ∧
      matchRanges "ax ab ax" (Side.right.withCompanion "a" "b") = .ok [⟨3, 5⟩] ∧
      loneMatches "ax ab ax" "a" "b" .right =
        .ok (withoutPartner .right [⟨0, 1⟩, ⟨3, 4⟩, ⟨6, 7⟩] [⟨3, 5⟩]) :=
  ⟨rfl, rfl, (loneMatches_eq_withoutPartner_iff rfl rfl).2.2.2 (by decide)⟩

/-- In `aaa aa` the first match of `a?aa` takes up three characters and ends where no match of `aa`
does.  The cursor stays on it, and the second `aa` is reported although it has a partner. -/
theorem loneMatches_ne_withoutPartner :
    matchRanges "aaa aa" "aa" = .ok [⟨0, 2⟩, ⟨4, 6⟩] ∧
      matchRanges "aaa aa" (Side.left.withCompanion "aa" "a?") = .ok [⟨0, 3⟩, ⟨4, 6⟩] ∧
      loneMatches "aaa aa" "aa" "a?" .left = .ok [⟨0, 2⟩, ⟨4, 6⟩] ∧
      withoutPartner .left [⟨0, 2⟩, ⟨4, 6⟩] [⟨0, 3⟩, ⟨4, 6⟩] = [⟨0, 2⟩] :=
  ⟨rfl, rfl, rfl, rfl⟩

/-! ## How far the cursor gets

The same law in other words.  Here partners are told by their anchors alone, and the part of the
whole that the cursor gets beyond is given by its length, as the largest number with a property, so
that nothing in the statement follows a walk. -/

namespace Search

variable {side : Side} {found whole : List TextRange}

/-- A length of a beginning of `whole` in which every match is a partner. -/
def IsShared (side : Side) (found whole : List TextRange) (n : Nat) : Prop :=
  n ≤ whole.length ∧ ∀ w ∈ whole.take n, side.anchor w ∈ found.map side.anchor

theorem hasPartner_iff_mem_map {rs : List TextRange} {r : TextRange} :
    side.hasPartner rs r = true ↔ side.anchor r ∈ rs.map side.anchor :=
  Side.hasPartner_iff.trans List.mem_map.symm

/-- What has no partner, by anchors alone. -/
theorem withoutPartner_eq_filter (found whole : List TextRange) :
    withoutPartner side found whole =
      found.filter fun r => side.anchor r ∉ whole.map side.anchor := by
  refine List.filter_congr fun r _ => ?_
  rw [Bool.eq_iff_iff, decide_eq_true_eq, Bool.not_eq_true', ← hasPartner_iff_mem_map,
    Bool.not_eq_true]

/-- The cursor gets beyond the longest beginning in which every match is a partner. -/
theorem reached_eq_take (side : Side) (found whole : List TextRange) :
    ∃ k, IsGreatest {n | IsShared side found whole n} k ∧
      reached side found whole = whole.take k := by
  have htake : reached side found whole =
      whole.take (whole.findIdx fun w => !side.hasPartner found w) :=
    List.takeWhile_eq_take_findIdx_not
  refine ⟨_, ⟨⟨List.findIdx_le_length, fun w hw => ?_⟩, fun n hn => ?_⟩, htake⟩
  · rw [← htake, reached] at hw
    exact hasPartner_iff_mem_map.1 (List.mem_takeWhile_imp hw)
  · -- the match behind the longest beginning is none of a longer one
    refine Nat.le_of_not_lt fun hlt => ?_
    have hlength := Nat.lt_of_lt_of_le hlt hn.1
    have hstop := List.findIdx_getElem (w := hlength)
    rw [Bool.not_eq_true', Bool.eq_false_iff] at hstop
    exact hstop (hasPartner_iff_mem_map.2 (hn.2 _ (List.mem_take_iff_getElem.2 ⟨_, by omega, rfl⟩)))

/-- If every match of the whole is a partner, the cursor gets beyond all of them. -/
theorem reached_eq_self (h : ∀ w ∈ whole, side.anchor w ∈ found.map side.anchor) :
    reached side found whole = whole :=
  List.takeWhile_eq_self_iff.2 fun w hw => hasPartner_iff_mem_map.2 (h w hw)

end Search

/-- **How far the cursor gets.**  Reported are the matches whose anchor is none of those of the
first `k` matches of the whole, where `k` is the length of the longest beginning in which every
match is a partner.  So a match without a partner is never left out; if every match of the whole is
a partner, just the matches without one are reported; and next to an empty companion every match is
its own partner, and none is reported. -/
theorem loneMatches_eq_filter_take {text pattern companion : String} {side : Side}
    {found whole : List TextRange} (hfound : matchRanges text pattern = .ok found)
    (hwhole : matchRanges text (side.withCompanion pattern companion) = .ok whole) :
    (∃ k, IsGreatest {n | IsShared side found whole n} k ∧
        loneMatches text pattern companion side =
          .ok (found.filter fun r => side.anchor r ∉ (whole.take k).map side.anchor)) ∧
      (∀ lone, loneMatches text pattern companion side = .ok lone →
        ∀ r ∈ found, side.anchor r ∉ whole.map side.anchor → r ∈ lone) ∧
      ((∀ w ∈ whole, side.anchor w ∈ found.map side.anchor) →
        loneMatches text pattern companion side =
          .ok (found.filter fun r => side.anchor r ∉ whole.map side.anchor)) ∧
      loneMatches text pattern "" side = .ok [] := by
  have heq := loneMatches_eq_ok hfound hwhole
  refine ⟨?_, fun lone hlone r hr hnot => ?_, fun hall => ?_, ?_⟩
  · obtain ⟨k, hk, htake⟩ := reached_eq_take side found whole
    exact ⟨k, hk, by rw [heq, htake, withoutPartner_eq_filter]⟩
  · rw [heq, Except.ok.injEq] at hlone
    by_contra hlone'
    exact hnot (hasPartner_iff_mem_map.1
      (hasPartner_of_not_mem_withoutPartner_reached hr (hlone ▸ hlone')))
  · rw [heq, reached_eq_self hall, withoutPartner_eq_filter]
  · have hself : side.withCompanion pattern "" = pattern := by
      cases side with
      | left => exact String.empty_append
      | right => exact String.append_empty
    have hall : ∀ r ∈ found, side.anchor r ∈ found.map side.anchor :=
      fun r hr => List.mem_map_of_mem hr
    rw [loneMatches_eq_ok hfound (hself.symm ▸ hfound), reached_eq_self hall,
      withoutPartner_eq_filter, List.filter_eq_nil_iff.2 fun r hr => by simpa using hall r hr]

/-- In `ab cd ab` the first match of `ab|cd` is a partner and the second is not, so the cursor gets
beyond one of the three, and the second `a` is reported although it has a partner. -/
theorem loneMatches_ab_cd_ab :
    matchRanges "ab cd ab" "a" = .ok [⟨0, 1⟩, ⟨6, 7⟩] ∧
      matchRanges "ab cd ab" (Side.right.withCompanion "a" "b|cd") =
        .ok [⟨0, 2⟩, ⟨3, 5⟩, ⟨6, 8⟩] ∧
      IsGreatest {n | IsShared .right [⟨0, 1⟩, ⟨6, 7⟩] [⟨0, 2⟩, ⟨3, 5⟩, ⟨6, 8⟩] n} 1 ∧
      loneMatches "ab cd ab" "a" "b|cd" .right = .ok [⟨6, 7⟩] := by
  have hfound : matchRanges "ab cd ab" "a" = .ok [⟨0, 1⟩, ⟨6, 7⟩] := rfl
  have hwhole : matchRanges "ab cd ab" (Side.right.withCompanion "a" "b|cd") =
      .ok [⟨0, 2⟩, ⟨3, 5⟩, ⟨6, 8⟩] := rfl
  have hone : IsGreatest {n | IsShared .right [⟨0, 1⟩, ⟨6, 7⟩] [⟨0, 2⟩, ⟨3, 5⟩, ⟨6, 8⟩] n} 1 := by
    refine ⟨⟨by decide, by decide⟩, fun n hn => Nat.le_of_not_lt fun hlt => ?_⟩
    have hsecond : (⟨3, 5⟩ : TextRange) ∈
        ([⟨0, 2⟩, ⟨3, 5⟩, ⟨6, 8⟩] : List TextRange).take n :=
      List.mem_take_iff_getElem.2 ⟨1, Nat.lt_min.2 ⟨hlt, by decide⟩, rfl⟩
    exact absurd (hn.2 _ hsecond) (by decide)
  obtain ⟨⟨k, hk, heq⟩, -⟩ := loneMatches_eq_filter_take hfound hwhole
  obtain rfl := hk.unique hone
  exact ⟨hfound, hwhole, hone, heq⟩

end Proofreader
