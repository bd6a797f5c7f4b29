import Proofreader.Proofs.Pattern.Spans
import Proofreader.Text.Buffer

/-!
# Replacing parts of a text

One edit puts characters in the place of a range (`Text.splice`).  Several ranges can be replaced at
once, by writing the kept parts and the replacements down one behind the other (`Text.replaceAll`);
that never speaks of a text in between.

* Edits one after the other (`Text.EditsTo`) come to the same if they go from the end backwards:
  each finds the text before it as it was in the beginning (`Text.splice_take_append`).
* Of two edits that go the other way, the second has to follow its characters to where they are then
  (`Text.shifted`), or its text has to be one that may stand in either place
  (`Text.Interchangeable`).

`replaceAll` is the specification for all that replaces: fixes of a document, suggestions that are
chosen among many, and comments that are taken out.  It recurses from the last range to the first,
with a limit up to which the text is still to be copied, so that no offset is ever computed from
another one.  The ranges have to be given in this order, and may not overlap; nothing checks that,
and the definition makes sense without it, but then it is not what the edits come to.

The two orders of a pair are compared through the same specification.  From the end backwards each
range is where it was.  From the beginning the second range is at its old place, where other
characters may stand by then.  The characters that were meant are at a shifted place, in general
further behind or further in front according to the lengths; and whether it makes a difference where
the suggestion is put is a question about words: the piece between the ends of the two places has to
stand behind the suggestion as the piece between their starts stands before it
(`splice_eq_splice_iff`).  This is exact, so it also says when two wrong edits cancel out.
-/

set_option autoImplicit false

namespace Proofreader
namespace Text

/-! ## Slices

A slice is taken by its start and its length.  These lemmas put it back together with what stands
before and behind, which is how it is used. -/

theorem clampedSlice_eq (text : List Char) (r : TextRange) :
    clampedSlice text r = (text.take r.stop).drop r.start := by
  rw [clampedSlice, TextRange.length, List.drop_take]

theorem take_append_clampedSlice (text : List Char) {r : TextRange} (h : r.start ≤ r.stop) :
    text.take r.start ++ clampedSlice text r = text.take r.stop := by
  rw [clampedSlice, TextRange.length, ← List.take_add, Nat.add_sub_cancel' h]

theorem clampedSlice_append_drop (text : List Char) {r : TextRange} (h : r.start ≤ r.stop) :
    clampedSlice text r ++ text.drop r.stop = text.drop r.start := by
  have hdrop : text.drop r.stop = (text.drop r.start).drop r.length := by
    rw [List.drop_drop, TextRange.length, Nat.add_sub_cancel' h]
  rw [clampedSlice, hdrop, List.take_append_drop]

theorem length_clampedSlice {text : List Char} {r : TextRange} (h : r.LiesIn text.length) :
    (clampedSlice text r).length = r.length := by
  have hstop := h.stop_le
  rw [clampedSlice, List.length_take, List.length_drop, TextRange.length]
  omega

/-! ## One range -/

/-- A text with the characters in a range replaced. -/
def splice (text : List Char) (r : TextRange) (s : List Char) : List Char :=
  text.take r.start ++ s ++ text.drop r.stop

theorem length_splice {text : List Char} {r : TextRange} (h : r.LiesIn text.length)
    (s : List Char) : (splice text r s).length + r.length = text.length + s.length := by
  have hle := h.start_le_stop
  have hstop := h.stop_le
  rw [splice, List.length_append, List.length_append, List.length_take, List.length_drop,
    TextRange.length]
  omega

/-- An edit in front of `limit` finds the text up to there as it was, whatever comes behind. -/
theorem splice_take_append {text : List Char} {r : TextRange} {limit : Nat}
    (hr : r.LiesIn limit) (hlimit : limit ≤ text.length) (s tail : List Char) :
    splice (text.take limit ++ tail) r s =
      text.take r.start ++ (s ++ clampedSlice text ⟨r.stop, limit⟩ ++ tail) := by
  have hlen : (text.take limit).length = limit := by
    rw [List.length_take, Nat.min_eq_left hlimit]
  have hstart : r.start ≤ limit := Nat.le_trans hr.start_le_stop hr.stop_le
  rw [splice, List.take_append_of_le_length (by omega), List.take_take, Nat.min_eq_left hstart,
    List.drop_append_of_le_length (by rw [hlen]; exact hr.stop_le), clampedSlice_eq,
    List.append_assoc, List.append_assoc]

/-! ## Many ranges at once -/

/-- The first `limit` characters of a text with several ranges replaced.  The ranges are given from
the last to the first; all are ranges of the text as it is. -/
def replaceAll (text : List Char) : (limit : Nat) → List (TextRange × List Char) → List Char
  | limit, [] => text.take limit
  | limit, (r, s) :: changes =>
    replaceAll text r.start changes ++ s ++ clampedSlice text ⟨r.stop, limit⟩

@[simp] theorem replaceAll_nil (text : List Char) (limit : Nat) :
    replaceAll text limit [] = text.take limit := rfl

@[simp] theorem replaceAll_cons (text : List Char) (limit : Nat) (r : TextRange) (s : List Char)
    (changes : List (TextRange × List Char)) :
    replaceAll text limit ((r, s) :: changes) =
      replaceAll text r.start changes ++ s ++ clampedSlice text ⟨r.stop, limit⟩ := rfl

/-- One more range in front of the others changes only what comes before it. -/
theorem exists_replaceAll_concat (text : List Char) {r : TextRange} (s : List Char) :
    ∀ (changes : List (TextRange × List Char)) {limit : Nat},
      (∀ change ∈ changes, r.stop ≤ change.1.start) → r.stop ≤ limit →
      ∃ tail, replaceAll text limit changes = text.take r.stop ++ tail ∧
        replaceAll text limit (changes ++ [(r, s)]) = text.take r.start ++ s ++ tail
  | [], limit, _, hlimit => by
    refine ⟨clampedSlice text ⟨r.stop, limit⟩, ?_, rfl⟩
    rw [replaceAll_nil, take_append_clampedSlice text (r := ⟨r.stop, limit⟩) hlimit]
  | (q, t) :: changes, limit, hchanges, _ => by
    obtain ⟨hq, hchanges⟩ := List.forall_mem_cons.1 hchanges
    obtain ⟨tail, hbefore, hafter⟩ := exists_replaceAll_concat text s changes hchanges hq
    refine ⟨tail ++ t ++ clampedSlice text ⟨q.stop, limit⟩, ?_, ?_⟩
    · rw [replaceAll_cons, hbefore]
      simp only [List.append_assoc]
    · rw [List.cons_append, replaceAll_cons, hafter]
      simp only [List.append_assoc]

/-- An edit finds its characters by what comes before them. -/
theorem splice_append_append (a b c s : List Char) :
    splice (a ++ b ++ c) ⟨a.length, a.length + b.length⟩ s = a ++ s ++ c := by
  rw [splice, List.append_assoc a b c, List.take_left' rfl, ← List.append_assoc a b c,
    List.drop_left' List.length_append]

/-! ## Edits one after the other

A range that does not lie in the text by then is no edit at all, and the relation holds of no
text. -/

/-- Ranges are replaced one after the other, each in the text that the one before has left, and each
has to lie in it. -/
def EditsTo : List Char → List (TextRange × List Char) → List Char → Prop
  | text, [], edited => edited = text
  | text, (r, s) :: changes, edited =>
    r.LiesIn text.length ∧ EditsTo (splice text r s) changes edited

/-! ## Two ranges

The range `q` is behind `r` throughout, and both are ranges of the text as it is at first. -/

variable {text : List Char} {q r : TextRange}

/-- Where a range `q` behind `r` is, once the characters in `r` are replaced by `n` others. -/
def shifted (q r : TextRange) (n : Nat) : TextRange :=
  ⟨q.start + n - r.length, q.stop + n - r.length⟩

theorem replaceAll_pair (text : List Char) (q r : TextRange) (s t : List Char) :
    replaceAll text text.length [(q, t), (r, s)] =
      text.take r.start ++ s ++ clampedSlice text ⟨r.stop, q.start⟩ ++ t ++ text.drop q.stop := by
  have htail : clampedSlice text ⟨q.stop, text.length⟩ = text.drop q.stop := by
    rw [clampedSlice_eq, List.take_length]
  rw [replaceAll_cons, replaceAll_cons, replaceAll_nil, htail]

/-- Two edits, the one behind the other first. -/
theorem splice_splice_of_liesIn (hr : r.LiesIn q.start) (hq : q.LiesIn text.length)
    (s t : List Char) :
    splice (splice text q t) r s = replaceAll text text.length [(q, t), (r, s)] := by
  have hstart := Nat.le_trans hq.start_le_stop hq.stop_le
  rw [replaceAll_pair, splice.eq_def text q t, List.append_assoc _ t, splice_take_append hr hstart]
  simp only [List.append_assoc]

/-- The same with the one in front first, if the other follows its characters to where they are. -/
theorem splice_splice_shifted (hr : r.LiesIn q.start) (hq : q.LiesIn text.length)
    (s t : List Char) :
    splice (splice text r s) (shifted q r s.length) t =
      replaceAll text text.length [(q, t), (r, s)] := by
  have hle := hr.start_le_stop
  have hbetween := hr.stop_le
  have hq' := hq.start_le_stop
  have hlength := hq.stop_le
  have hedited : splice text r s =
      text.take r.start ++ s ++ clampedSlice text ⟨r.stop, q.start⟩ ++ clampedSlice text q ++
        text.drop q.stop := by
    rw [List.append_assoc _ (clampedSlice text q), clampedSlice_append_drop text hq.start_le_stop,
      List.append_assoc _ (clampedSlice text _),
      clampedSlice_append_drop text (r := ⟨r.stop, q.start⟩) hr.stop_le, splice]
  have hbefore : (text.take r.start ++ s ++ clampedSlice text ⟨r.stop, q.start⟩).length =
      q.start + s.length - r.length := by
    rw [List.length_append, List.length_append, List.length_take,
      length_clampedSlice ⟨hbetween, Nat.le_trans hq' hlength⟩, TextRange.length, TextRange.length]
    dsimp only
    omega
  have hshifted : shifted q r s.length =
      ⟨(text.take r.start ++ s ++ clampedSlice text ⟨r.stop, q.start⟩).length,
        (text.take r.start ++ s ++ clampedSlice text ⟨r.stop, q.start⟩).length +
          (clampedSlice text q).length⟩ := by
    rw [shifted, hbefore, length_clampedSlice hq, TextRange.length, TextRange.length,
      TextRange.mk.injEq]
    omega
  rw [hedited, hshifted, splice_append_append, replaceAll_pair]

/-- One text in the place of either of two ranges: what lies between their ends and what lies
between their starts has to be the same on both sides of it. -/
theorem splice_eq_splice_iff (hstart : q.start ≤ r.start) (hstop : q.stop ≤ r.stop)
    (s : List Char) :
    splice text q s = splice text r s ↔
      s ++ clampedSlice text ⟨q.stop, r.stop⟩ = clampedSlice text ⟨q.start, r.start⟩ ++ s := by
  rw [splice, splice, ← take_append_clampedSlice text (r := ⟨q.start, r.start⟩) hstart,
    ← clampedSlice_append_drop text (r := ⟨q.stop, r.stop⟩) hstop]
  simp only [List.append_assoc, List.append_cancel_left_eq]
  rw [← List.append_assoc, ← List.append_assoc, List.append_cancel_right_eq]

/-- What lies between the ends of two ranges stands behind a text just if what lies between their
starts stands before it. -/
def Interchangeable (text : List Char) (q r : TextRange) (s : List Char) : Prop :=
  s ++ clampedSlice text ⟨min q.stop r.stop, max q.stop r.stop⟩ =
    clampedSlice text ⟨min q.start r.start, max q.start r.start⟩ ++ s

theorem interchangeable_self {s : List Char} : Interchangeable text q q s := by
  rw [Interchangeable, Nat.min_self, Nat.max_self, Nat.min_self, Nat.max_self, clampedSlice,
    clampedSlice, TextRange.length, TextRange.length, Nat.sub_self, Nat.sub_self, List.take_zero,
    List.take_zero, List.append_nil, List.nil_append]

/-- **An edit where a range was**, instead of where its characters are after another edit. -/
theorem splice_eq_splice_shifted_iff {n : Nat} (hr : r.length ≤ q.start) (hq : q.start ≤ q.stop)
    (s : List Char) :
    splice text q s = splice text (shifted q r n) s ↔
      Interchangeable text q (shifted q r n) s := by
  have hle : q.start ≤ (shifted q r n).start ∧ q.stop ≤ (shifted q r n).stop ∨
      (shifted q r n).start ≤ q.start ∧ (shifted q r n).stop ≤ q.stop := by
    rw [shifted]
    dsimp only
    omega
  rw [Interchangeable]
  rcases hle with ⟨hstart, hstop⟩ | ⟨hstart, hstop⟩
  · rw [Nat.min_eq_left hstart, Nat.min_eq_left hstop, Nat.max_eq_right hstart,
      Nat.max_eq_right hstop]
    exact splice_eq_splice_iff hstart hstop s
  · rw [Nat.min_eq_right hstart, Nat.min_eq_right hstop, Nat.max_eq_left hstart,
      Nat.max_eq_left hstop, eq_comm]
    exact splice_eq_splice_iff hstart hstop s

/-- Where the characters of a range behind `r` are if as many are put in as are taken out. -/
theorem shifted_length (q r : TextRange) : shifted q r r.length = q := by
  rw [shifted, Nat.add_sub_cancel, Nat.add_sub_cancel]

/-- Two edits from the end backwards. -/
theorem editsTo_pair_of_behind (hr : r.LiesIn q.start) (hq : q.LiesIn text.length)
    {s t edited : List Char} :
    EditsTo text [(q, t), (r, s)] edited ↔
      edited = replaceAll text text.length [(q, t), (r, s)] := by
  have hlength := length_splice hq t
  have hlies : r.LiesIn (splice text q t).length := by
    have hle := hq.start_le_stop
    have hstop := hq.stop_le
    refine ⟨hr.start_le_stop, Nat.le_trans hr.stop_le ?_⟩
    rw [TextRange.length] at hlength
    omega
  rw [EditsTo, EditsTo, EditsTo, splice_splice_of_liesIn hr hq]
  exact ⟨fun h => h.2.2, fun h => ⟨hq, hlies, h⟩⟩

/-- Two edits from the beginning. -/
theorem editsTo_pair_of_front (hr : r.LiesIn q.start) (hq : q.LiesIn text.length)
    {s t edited : List Char} :
    EditsTo text [(r, s), (q, t)] edited ↔
      q.stop ≤ (splice text r s).length ∧ edited = splice (splice text r s) q t := by
  have hlies : r.LiesIn text.length :=
    ⟨hr.start_le_stop, Nat.le_trans hr.stop_le (Nat.le_trans hq.start_le_stop hq.stop_le)⟩
  rw [EditsTo, EditsTo, EditsTo]
  exact ⟨fun h => ⟨h.2.1.stop_le, h.2.2⟩, fun h => ⟨hlies, ⟨hq.start_le_stop, h.1⟩, h.2⟩⟩

/-- From the beginning, the second edit replaces the characters that it was meant for, or it makes
no difference that these are elsewhere. -/
theorem splice_splice_eq_replaceAll_iff (hr : r.LiesIn q.start) (hq : q.LiesIn text.length)
    (s t : List Char) :
    splice (splice text r s) q t = replaceAll text text.length [(q, t), (r, s)] ↔
      Interchangeable (splice text r s) q (shifted q r s.length) t := by
  have hlength : r.length ≤ q.start := Nat.le_trans (Nat.sub_le _ _) hr.stop_le
  rw [← splice_splice_shifted hr hq, splice_eq_splice_shifted_iff hlength hq.start_le_stop]

end Text
end Proofreader
