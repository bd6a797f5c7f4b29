import Mathlib.Data.List.Forall2
import Proofreader.Proofs.Except
import Proofreader.Proofs.Text.Replacement
import Proofreader.Search

/-!
# The ranges of matches

`Search.ranges` turns the byte spans of matches into ranges of characters.  Since matches begin and
end between characters nothing is lost on the way: the ranges lie in the text, ascend, and each is
exactly the characters of its match (`matchRanges_locates`).

The matcher counts bytes, and so a span could in principle end within a character.  It does not, but
this is a fact about the matcher: the engine moves by whole characters, and
`Program.matchesIn_ranges` says it as the existence of ranges whose bytes are the spans.  Given such
ranges, the table of the text leads from the bytes back to them (`ranges_eq`), so the ranges that
the search computes are those whose existence was known.  This is why the conversion needs no
invariant of its own, and why the table is asked only for offsets at which a character begins.

From then on `ranges_spec` is all that is used.  In particular empty matches are no special case:
ranges ascend in the sense that both their starts and their ends grow strictly, and an empty range
is as good as any other for that.
-/

set_option autoImplicit false

namespace Proofreader

open Text (clampedSlice)

/-! ## The text of a match

To cover some characters is more than to have as many bytes: the text is these characters with
something before and something behind, and the span has the bytes of the part before and the end of
the characters themselves. -/

namespace Pattern

/-- In a text, the bytes of a span are those of some characters. -/
def ByteSpan.Covers (m : ByteSpan) (text chars : List Char) : Prop :=
  ∃ before behind, text = before ++ chars ++ behind ∧ m.start = byteLength before ∧
    m.stop = byteLength (before ++ chars)

end Pattern

theorem TextRange.bytes_covers {r : TextRange} {text : List Char} (h : r.LiesIn text.length) :
    (r.bytes text).Covers text (clampedSlice text r) := by
  refine ⟨text.take r.start, text.drop r.stop, ?_, rfl, ?_⟩
  · rw [Text.take_append_clampedSlice text h.start_le_stop, List.take_append_drop]
  · rw [Text.take_append_clampedSlice text h.start_le_stop]
    rfl

/-- The range `r` is where the match `m` stands, in characters. -/
structure TextRange.Locates (text : List Char) (r : TextRange) (m : Pattern.ByteSpan) : Prop where
  /-- It lies in the text. -/
  liesIn : r.LiesIn text.length
  /-- Before it and before its end there are as many bytes as the match says. -/
  bytes_eq : m = r.bytes text
  /-- Its characters are those of the match. -/
  covers : m.Covers text (clampedSlice text r)

theorem TextRange.locates_bytes {r : TextRange} {text : List Char} (h : r.LiesIn text.length) :
    r.Locates text (r.bytes text) :=
  ⟨h, rfl, bytes_covers h⟩

/-! ## Ranges -/

/-- Behind one another, ranges are told apart by either anchor. -/
theorem Side.anchor_lt (side : Side) {a b : TextRange} (h : a.ComesBefore b) :
    side.anchor a < side.anchor b := by
  cases side with
  | left => exact h.stop_lt
  | right => exact h.start_lt

namespace Search

open Text (Offsets)

variable (prog : Pattern.Program) (text : List Char)

/-- Bytes lead back to the ranges they are those of. -/
theorem ranges_eq {prog : Pattern.Program} {text : List Char} {rs : List TextRange}
    (hrs : prog.matchesIn text = rs.map (TextRange.bytes text))
    (hlies : ∀ r ∈ rs, r.LiesIn text.length) : ranges prog text = rs := by
  have hback : ∀ r ∈ rs, (⟨(Offsets.ofText text).charOffset (r.bytes text).start,
      (Offsets.ofText text).charOffset (r.bytes text).stop⟩ : TextRange) = r := by
    intro r hr
    have h := hlies r hr
    rw [TextRange.bytes, Offsets.charOffset_byteOffset (Nat.le_trans h.start_le_stop h.stop_le),
      Offsets.charOffset_byteOffset h.stop_le]
  rw [ranges, hrs]
  dsimp only
  split
  · rename_i hempty
    exact (by simpa using hempty : rs = []).symm
  · rw [List.map_map]
    exact (List.map_congr_left hback).trans (List.map_id' rs)

/-- The bytes of the ranges are the matches, one by one. -/
theorem ranges_spec : prog.matchesIn text = (ranges prog text).map (TextRange.bytes text) ∧
    (∀ r ∈ ranges prog text, r.LiesIn text.length) ∧ TextRange.Ascending (ranges prog text) := by
  obtain ⟨rs, hrs, hlies, hasc⟩ := prog.matchesIn_ranges text
  rw [ranges_eq hrs hlies]
  exact ⟨hrs, hlies, hasc⟩

theorem matchesIn_eq_map_ranges :
    prog.matchesIn text = (ranges prog text).map (TextRange.bytes text) :=
  (ranges_spec prog text).1

theorem liesIn_of_mem_ranges {r : TextRange} (h : r ∈ ranges prog text) : r.LiesIn text.length :=
  (ranges_spec prog text).2.1 r h

theorem ranges_ascending : TextRange.Ascending (ranges prog text) := (ranges_spec prog text).2.2

end Search

theorem matchRanges_eq_ok_iff {text pattern : String} {rs : List TextRange} :
    matchRanges text pattern = .ok rs ↔
      ∃ prog, Pattern.compile pattern = .ok prog ∧ rs = Search.ranges prog text.toList := by
  rw [matchRanges, bind_eq_ok_iff]
  simp only [pure_eq_ok_iff, eq_comm (a := rs)]

/-- **Searching a text**: the ranges stand for the matches one by one and in their order, each with
the characters of its match, and they ascend, the empty ones too. -/
theorem matchRanges_locates (text : String) {pattern : String} {prog : Pattern.Program}
    (h : Pattern.compile pattern = .ok prog) :
    ∃ rs, matchRanges text pattern = .ok rs ∧
      List.Forall₂ (TextRange.Locates text.toList) rs (prog.matchesIn text.toList) ∧
      TextRange.Ascending rs := by
  refine ⟨_, matchRanges_eq_ok_iff.2 ⟨prog, h, rfl⟩, ?_, Search.ranges_ascending _ _⟩
  rw [Search.matchesIn_eq_map_ranges, List.forall₂_map_right_iff, List.forall₂_same]
  intro r hr
  exact TextRange.locates_bytes (Search.liesIn_of_mem_ranges _ _ hr)

/-- Around an `x` between characters of two and three bytes, `x*` matches three times. -/
theorem matchRanges_locates_stars :
    ∃ prog, Pattern.compile "x*" = .ok prog ∧
      prog.matchesIn "éx€".toList = [⟨0, 0⟩, ⟨2, 3⟩, ⟨6, 6⟩] ∧
      matchRanges "éx€" "x*" = .ok [⟨0, 0⟩, ⟨1, 2⟩, ⟨3, 3⟩] ∧
      List.Forall₂ (TextRange.Locates "éx€".toList) [⟨0, 0⟩, ⟨1, 2⟩, ⟨3, 3⟩]
        (prog.matchesIn "éx€".toList) ∧
      TextRange.Ascending [⟨0, 0⟩, ⟨1, 2⟩, ⟨3, 3⟩] := by
  have hprog : Pattern.compile "x*" = .ok ⟨#[.accept, .split 2 0, .set (.single 'x') 1], 1⟩ := rfl
  have hranges : matchRanges "éx€" "x*" = .ok [⟨0, 0⟩, ⟨1, 2⟩, ⟨3, 3⟩] := by decide +kernel
  obtain ⟨rs, hrs, hlocates, hascending⟩ := matchRanges_locates "éx€" hprog
  obtain rfl := Except.ok.inj (hranges.symm.trans hrs)
  exact ⟨_, hprog, by decide +kernel, hranges, hlocates, hascending⟩

/-- Whatever a pattern matches, its ranges ascend. -/
theorem ascending_of_matchRanges {text pattern : String} {rs : List TextRange}
    (h : matchRanges text pattern = .ok rs) : TextRange.Ascending rs := by
  obtain ⟨prog, -, rfl⟩ := matchRanges_eq_ok_iff.1 h
  exact Search.ranges_ascending prog text.toList

end Proofreader
