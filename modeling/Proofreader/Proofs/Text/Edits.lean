import Proofreader.Proofs.Checker.Steps
import Proofreader.Proofs.Text.Positions
import Proofreader.Proofs.Text.Replacement

/-!
# Edits of a buffer

An edit replaces the characters in a range of a buffer, or is refused.  `Buffer.edited` keeps the
buffer with the answer, as its owner does.

* `Text.positionFrom_congr` — what the pass over a text sees up to an offset is the text up to there
  and one character more.  So an edit leaves the positions in front of it alone, even if it makes
  one line end of two or two of one; the offset right before the new text is the first whose
  position may change.
* `Buffer.edit_laws` — an edit of a range in the buffer is done, shows its text in the place of the
  old one, and is undone by the edit that puts the old one back; any other is refused.

The bound for the positions is strict, and cannot be better.  At the offset at which the edit begins
the pass has looked at the first new character already: if a carriage return stands in front of it
and a line feed comes to stand behind, the two become one line end, and the offset between them goes
back to the line before.  The example at the end is such an edit.

That an edit can be undone is said with the range of the new text, whose end is that of the old one
only if the texts are equally long.  All three parts of an edited text are kept apart in the proof,
as what stands before, the new text and what stands behind, and `splice_append_append` finds the
middle by the length of what is before.
-/

set_option autoImplicit false

namespace Proofreader

/-! ## What the pass sees -/

namespace Text

/-- Whether a line ends behind a character is for the character and the next one to say. -/
theorem endsLine_congr {c : Char} {rest rest' : List Char} (h : rest.head? = rest'.head?) :
    endsLine c rest = endsLine c rest' := by
  rw [Bool.eq_iff_iff, endsLine_iff, endsLine_iff, h]

/-- The position of an offset depends on the text up to there and on one character more. -/
theorem positionFrom_congr {p : Position} {n : Nat} {text text' : List Char}
    (h : text.take (n + 1) = text'.take (n + 1)) :
    positionFrom p n text = positionFrom p n text' := by
  induction n generalizing p text text' with
  | zero => rw [positionFrom_zero, positionFrom_zero]
  | succ n ih =>
    cases text with
    | nil =>
      cases text' with
      | nil => rfl
      | cons c text' => simp at h
    | cons c text =>
      cases text' with
      | nil => simp at h
      | cons c' text' =>
        rw [List.take_succ_cons, List.take_succ_cons, List.cons.injEq] at h
        obtain ⟨rfl, hrest⟩ := h
        have hhead : text.head? = text'.head? := by
          simpa only [List.head?_take, if_neg (Nat.succ_ne_zero n)] using congrArg List.head? hrest
        rw [positionFrom_cons_succ, positionFrom_cons_succ, Position.behind, endsLine_congr hhead]
        exact ih hrest

end Text

open Text

namespace Buffer

variable {b : Buffer} {r : TextRange}

theorem replace?_of_liesIn (hr : r.LiesIn b.chars.length) (text : String) :
    b.replace? r text = some ⟨splice b.chars r text.toList⟩ :=
  if_pos (covers_iff.2 hr)

/-- Whether an edit is done, and what is in the buffer then. -/
def edited (b : Buffer) (r : TextRange) (text : String) : Bool × Buffer :=
  match b.replace? r text with
  | some b' => (true, b')
  | none => (false, b)

/-- Where the text of an edit is, once it is done. -/
def insertedAt (r : TextRange) (text : String) : TextRange := ⟨r.start, r.start + text.length⟩

/-- What is said of the edit that replaces the text `old` in the range `r` of a buffer `b` by the
text `new`, and leaves the buffer `b'`. -/
structure EditLaws (b : Buffer) (r : TextRange) (old new : String) (b' : Buffer) : Prop where
  /-- The range holds the old text. -/
  found : b.slice? r = some old
  /-- The edit is done. -/
  done : b.edited r new = (true, b')
  /-- In the place of the old text is the new one. -/
  shown : b'.slice? (insertedAt r new) = some new
  /-- Putting the old text back there undoes the edit. -/
  undone : b'.edited (insertedAt r new) old = (true, b)
  /-- The positions in front of the edit stay. -/
  positions : ∀ offset, offset < r.start → b'.position offset = b.position offset

/-- An edit of a range that lies in the buffer. -/
theorem editLaws_of_liesIn (hr : r.LiesIn b.chars.length) (new : String) :
    EditLaws b r (String.ofList (clampedSlice b.chars r)) new
      ⟨splice b.chars r new.toList⟩ := by
  have hstart : (b.chars.take r.start).length = r.start := by
    rw [List.length_take, Nat.min_eq_left (hr.start_le_stop.trans hr.stop_le)]
  have hinserted : insertedAt r new = ⟨(b.chars.take r.start).length,
      (b.chars.take r.start).length + new.toList.length⟩ := by
    rw [insertedAt, hstart, String.length_toList]
  have hlies : (insertedAt r new).LiesIn (splice b.chars r new.toList).length := by
    rw [hinserted, splice, List.length_append, List.length_append]
    exact ⟨Nat.le_add_right _ _, Nat.le_add_right _ _⟩
  refine ⟨slice?_of_liesIn hr, ?_, ?_, ?_, fun offset hoffset => ?_⟩
  · rw [edited, replace?_of_liesIn hr]
  · rw [slice?_of_liesIn (b := ⟨splice b.chars r new.toList⟩) hlies, clampedSlice,
      TextRange.length, hinserted, Nat.add_sub_cancel_left, splice, List.append_assoc,
      List.drop_left, List.take_left, String.ofList_toList]
  · rw [edited, replace?_of_liesIn (b := ⟨splice b.chars r new.toList⟩) hlies, hinserted,
      splice.eq_def b.chars, splice_append_append, String.toList_ofList,
      take_append_clampedSlice _ hr.start_le_stop, List.take_append_drop]
  · refine positionFrom_congr ?_
    rw [splice, List.append_assoc, List.take_append_of_le_length (by rw [hstart]; exact hoffset),
      List.take_take, Nat.min_eq_left hoffset]

/-- **Edits are local and can be undone.**  An edit of a range that lies in the buffer is done, and
the laws hold of it.  An edit of any other range is refused, there is no text in the range, and the
buffer stays as it is. -/
theorem edit_laws (b : Buffer) (r : TextRange) (new : String) :
    (r.LiesIn b.length → ∃ old b', EditLaws b r old new b') ∧
      (¬r.LiesIn b.length → b.slice? r = none ∧ b.edited r new = (false, b)) := by
  refine ⟨fun hr => ⟨_, _, editLaws_of_liesIn hr new⟩, fun hr => ?_⟩
  have hcovers : ¬b.covers r = true := fun h => hr (covers_iff.1 h)
  have hrefused : b.replace? r new = none := if_neg hcovers
  exact ⟨if_neg hcovers, by rw [edited, hrefused]⟩

/-- A line feed is put in behind a carriage return, so that the two are one line end.  In front of
the edit the positions stay, but its own offset is on the first line now. -/
theorem edit_laws_joining :
    let b := ofText "a\rb"
    let b' := ofText "a\r\nb"
    TextRange.LiesIn ⟨2, 2⟩ b.length ∧ b.edited ⟨2, 2⟩ "\n" = (true, b') ∧
      b'.edited ⟨2, 3⟩ "" = (true, b) ∧ b'.position 1 = b.position 1 ∧
      b.position 2 = ⟨1, 0⟩ ∧ b'.position 2 = ⟨0, 2⟩ ∧
      b.slice? ⟨3, 2⟩ = none ∧ b.edited ⟨3, 2⟩ "\n" = (false, b) := by
  intro b b'
  have hr : TextRange.LiesIn ⟨2, 2⟩ b.length := ⟨by decide, by decide⟩
  have hbackwards : ¬TextRange.LiesIn ⟨3, 2⟩ b.length := fun h =>
    absurd h.start_le_stop (by decide)
  have hdone : b.edited ⟨2, 2⟩ "\n" = (true, b') := by decide
  have hold : b.slice? ⟨2, 2⟩ = some "" := by decide
  obtain ⟨old, b'', laws⟩ := (edit_laws b ⟨2, 2⟩ "\n").1 hr
  obtain rfl : old = "" := Option.some_inj.1 (laws.found.symm.trans hold)
  obtain rfl : b'' = b' := (Prod.ext_iff.1 (laws.done.symm.trans hdone)).2
  obtain ⟨hslice, hrefused⟩ := (edit_laws b ⟨3, 2⟩ "\n").2 hbackwards
  exact ⟨hr, hdone, laws.undone, laws.positions 1 (by decide), rfl, rfl, hslice, hrefused⟩

end Buffer
end Proofreader
