import Proofreader.Proofs.Search.Companions
import Proofreader.Proofs.Text.Rope

/-!
# Every access is in bounds

Nothing in a list or a recursion can be out of bounds, and so the searches and the record of
diagnostics never say what would go wrong.  `Guarded` are the same searches on tables with indices:
reading an entry that is not there, taking away more than there is, or asking a rope for what is not
in the text is a `Misuse`, and ends everything.

* `Guarded.lowerBound_eq` — the search by halving reads between its ends.
* `Guarded.Walk.step_spec`, `Guarded.Walk.run_spec` — the cursor of the walk over the matches of the
  whole is always on a match; it only has to be so in the beginning.
* `Guarded.inBounds_of_lawful` — there is no misuse, whatever is asked, and the answers are those of
  the functions that have no indices.

Each guarded function is the function as a program with indices has it, with a possible failure at
every access.  That it equals the function without indices says two things at once: nothing fails,
and the two compute the same.  So the proofs have one form throughout.  A computation in steps is
given the result of each step (`bind_eq_ok_iff`, from right to left), and the condition of each
access is an inequality between numbers that the function has just compared.

The walk is the one place where that is not enough.  Its cursor is compared with nothing before it
is used.  It is on a match because it was at the beginning, where the walk is not begun unless there
is a match of the whole, and because it goes on only if there is one to go on to.  The lemma on one
step carries this along with what the walk will still report; without the second part, the first
would be true of a cursor that never moves.

The list walk that the rest of the development uses has the match under the cursor and the matches
ahead of it as two arguments instead of an index, and `getElem?_cursor` is the connection between
the two.
-/

set_option autoImplicit false

namespace Proofreader

open Text (Offsets)

namespace Guarded

/-- An entry of a table, which has to be there. -/
def entry {α : Type} : Option α → Except Misuse α
  | some a => .ok a
  | none => .error .index

/-- A list without the entry at an index, which has to be there. -/
def removeAt {α : Type} (xs : List α) (i : Nat) : Except Misuse (List α) :=
  Misuse.index.guard (i < xs.length) (xs.eraseIdx i)

/-! ## Bytes and characters

Halving an interval reads its middle, which lies below its end, which lies within the table. -/

/-- The first index from `lo` on, and not behind `hi`, at which the table is at least `x`. -/
def lowerBound (table : Array Nat) (x : Nat) : (fuel lo hi : Nat) → Except Misuse Nat
  | 0, lo, _ => .ok lo
  | fuel + 1, lo, hi =>
    if lo < hi then do
      let distance ← difference hi lo
      let mid := lo + distance / 2
      let found ← entry table[mid]?
      if found < x then lowerBound table x fuel (mid + 1) hi
      else lowerBound table x fuel lo mid
    else .ok lo

/-- The character offset of a byte offset. -/
def charOffset (offsets : Offsets) (byte : Nat) : Except Misuse Nat :=
  lowerBound offsets.table (min byte offsets.byteLength) offsets.table.size 0 offsets.table.size

/-- **The search by halving reads between its ends.** -/
theorem lowerBound_eq (table : Array Nat) (x : Nat) :
    ∀ fuel lo hi : Nat, hi ≤ table.size →
      lowerBound table x fuel lo hi = .ok (Offsets.lowerBound table x fuel lo hi)
  | 0, _, _, _ => rfl
  | fuel + 1, lo, hi, hsize => by
    rw [lowerBound, Offsets.lowerBound]
    split
    · rename_i hlt
      have hmid : lo + (hi - lo) / 2 < table.size := by omega
      refine bind_eq_ok_iff.2 ⟨_, difference_of_le hlt.le, ?_⟩
      dsimp only
      generalize lo + (hi - lo) / 2 = mid at hmid ⊢
      rw [Array.getD_eq_getD_getElem?, Array.getElem?_eq_getElem hmid, Option.getD_some]
      refine bind_eq_ok_iff.2 ⟨_, rfl, ?_⟩
      split
      · exact lowerBound_eq table x fuel _ hi hsize
      · exact lowerBound_eq table x fuel lo _ hmid.le
    · rfl

theorem charOffset_eq (offsets : Offsets) (byte : Nat) :
    charOffset offsets byte = .ok (offsets.charOffset byte) :=
  lowerBound_eq _ _ _ _ _ (Nat.le_refl _)

/-! ## Searching -/

/-- The ranges of a program's matches in a text. -/
def ranges (prog : Pattern.Program) (text : List Char) : Except Misuse (List TextRange) :=
  let found := prog.matchesIn text
  if found.isEmpty then return []
  else
    let offsets := Offsets.ofText text
    found.mapM fun m => do
      let start ← charOffset offsets m.start
      let stop ← charOffset offsets m.stop
      return ⟨start, stop⟩

/-- Every match of a pattern in a text, from left to right. -/
def matchRanges (text pattern : String) :
    Except Misuse (Except PatternFault (List TextRange)) :=
  match Pattern.compile pattern with
  | .error fault => return .error fault
  | .ok prog => do
    let found ← ranges prog text.toList
    return .ok found

theorem ranges_eq (prog : Pattern.Program) (text : List Char) :
    ranges prog text = .ok (Search.ranges prog text) := by
  rw [ranges, Search.ranges]
  dsimp only
  split
  · rfl
  · simp only [charOffset_eq]
    exact List.mapM_pure

theorem matchRanges_eq (text pattern : String) :
    matchRanges text pattern = .ok (Proofreader.matchRanges text pattern) := by
  rw [matchRanges, Proofreader.matchRanges]
  cases Pattern.compile pattern with
  | error fault => rfl
  | ok prog => exact bind_eq_ok_iff.2 ⟨_, ranges_eq prog text.toList, rfl⟩

/-! ## The walk

A step has three outcomes.  A match whose partner the cursor is on is passed over and the cursor
goes on; at the last match of the whole it stays where it is; and a match without a partner is
reported. -/

/-- How far the walk over the matches has come. -/
structure Walk where
  /-- The index of the match of the whole that the cursor is on. -/
  cursor : Nat
  /-- The matches so far that have no partner. -/
  lone : List TextRange
deriving Repr, DecidableEq

namespace Walk

/-- The walk at its beginning. -/
def start : Walk := ⟨0, []⟩

/-- One match further.  The cursor goes on if the match under it is a partner, and if there is one
to go on to. -/
def step (side : Side) (whole : List TextRange) (w : Walk) (r : TextRange) :
    Except Misuse Walk := do
  let current ← entry whole[w.cursor]?
  if side.anchor r = side.anchor current then
    return if w.cursor + 1 < whole.length then { w with cursor := w.cursor + 1 } else w
  else return { w with lone := w.lone ++ [r] }

/-- The walk over some matches. -/
def run (side : Side) (whole : List TextRange) (w : Walk) (found : List TextRange) :
    Except Misuse Walk :=
  found.foldlM (step side whole) w

variable (side : Side) {whole ahead : List TextRange} {w : Walk} {cursor : TextRange}

theorem getElem?_cursor (h : whole.drop w.cursor = cursor :: ahead) :
    whole[w.cursor]? = some cursor := by
  rw [← List.head?_drop, h, List.head?_cons]

/-- **One step.**  If the cursor is on a match, the step can be made and leaves it on a match, and
what the walk reports in the end is what it would have reported from before the step. -/
theorem step_spec (r : TextRange) (h : whole.drop w.cursor = cursor :: ahead) :
    ∃ w' cursor' ahead', step side whole w r = .ok w' ∧
      whole.drop w'.cursor = cursor' :: ahead' ∧
      ∀ rest, w'.lone ++ Search.unpaired side rest cursor' ahead' =
        w.lone ++ Search.unpaired side (r :: rest) cursor ahead := by
  have hlength := congrArg List.length h
  rw [List.length_drop, List.length_cons] at hlength
  rw [step, getElem?_cursor h]
  by_cases heq : side.anchor r = side.anchor cursor
  · cases ahead with
    | nil =>
      -- the last match of the whole, on which the cursor stays
      have hlast : ¬w.cursor + 1 < whole.length := by
        rw [List.length_nil] at hlength
        omega
      refine ⟨w, cursor, [], ?_, h, fun rest => by rw [Search.unpaired_of_eq_last heq]⟩
      refine bind_eq_ok_iff.2 ⟨cursor, rfl, ?_⟩
      rw [if_pos heq, if_neg hlast]
      rfl
    | cons next ahead =>
      have hmore : w.cursor + 1 < whole.length := by
        rw [List.length_cons] at hlength
        omega
      have hnext : whole.drop (w.cursor + 1) = next :: ahead := by
        rw [← List.drop_drop, h, List.drop_one, List.tail_cons]
      refine ⟨{ w with cursor := w.cursor + 1 }, next, ahead, ?_, hnext,
        fun rest => by rw [Search.unpaired_of_eq heq]⟩
      refine bind_eq_ok_iff.2 ⟨cursor, rfl, ?_⟩
      rw [if_pos heq, if_pos hmore]
      rfl
  · refine ⟨{ w with lone := w.lone ++ [r] }, cursor, ahead, ?_, h, fun rest => ?_⟩
    · refine bind_eq_ok_iff.2 ⟨cursor, rfl, ?_⟩
      rw [if_neg heq]
      rfl
    · rw [Search.unpaired_of_ne heq, List.append_assoc, List.singleton_append]

/-- **A whole walk.**  By induction on the matches. -/
theorem run_spec (found : List TextRange) (h : whole.drop w.cursor = cursor :: ahead) :
    ∃ w', run side whole w found = .ok w' ∧ w'.cursor < whole.length ∧
      w'.lone = w.lone ++ Search.unpaired side found cursor ahead := by
  induction found generalizing w cursor ahead with
  | nil =>
    have hcursor : w.cursor < whole.length := (List.getElem?_eq_some_iff.1 (getElem?_cursor h)).1
    exact ⟨w, rfl, hcursor, (List.append_nil _).symm⟩
  | cons r found ih =>
    obtain ⟨w', cursor', ahead', hstep, hw', hreports⟩ := step_spec side r h
    obtain ⟨w'', hrun, hcursor, hlone⟩ := ih hw'
    refine ⟨w'', ?_, hcursor, hlone.trans (hreports found)⟩
    rw [run, List.foldlM_cons]
    exact bind_eq_ok_iff.2 ⟨w', hstep, hrun⟩

end Walk

/-- The matches of a pattern that lack their companion. -/
def loneMatches (text pattern companion : String) (side : Side) :
    Except Misuse (Except PatternFault (List TextRange)) := do
  match ← matchRanges text pattern with
  | .error fault => return .error fault
  | .ok found =>
    if found.isEmpty then return .ok []
    match ← matchRanges text (side.withCompanion pattern companion) with
    | .error fault => return .error fault
    | .ok whole =>
      if whole.isEmpty then return .ok found
      let w ← Walk.start.run side whole found
      return .ok w.lone

theorem loneMatches_eq (text pattern companion : String) (side : Side) :
    loneMatches text pattern companion side =
      .ok (Proofreader.loneMatches text pattern companion side) := by
  rw [loneMatches, Proofreader.loneMatches, matchRanges_eq, matchRanges_eq]
  cases Proofreader.matchRanges text pattern with
  | error fault => rfl
  | ok found =>
    cases found with
    | nil => rfl
    | cons r found =>
      cases Proofreader.matchRanges text (side.withCompanion pattern companion) with
      | error fault => rfl
      | ok whole =>
        cases whole with
        | nil => rfl
        | cons cursor ahead =>
          have hstart : (cursor :: ahead).drop Walk.start.cursor = cursor :: ahead := rfl
          obtain ⟨w, hrun, -, hlone⟩ := Walk.run_spec side (r :: found) hstart
          refine bind_eq_ok_iff.2 ⟨.ok (r :: found), rfl, bind_eq_ok_iff.2
            ⟨.ok (cursor :: ahead), rfl, bind_eq_ok_iff.2 ⟨w, hrun, ?_⟩⟩⟩
          rw [hlone]
          rfl

/-! ## Removing a finding

The index is where the finding was found, so it is one of the list, and the list without that entry
is the list with the finding erased. -/

/-- Remove the first finding of a document that is equal to a given one, by its index. -/
def removeOne (s : Store) (id : DocumentId) (d : Diagnostic) : Except Misuse (Bool × Store) :=
  match s.records.find? id with
  | none => return (false, s)
  | some diagnostics =>
    match diagnostics.idxOf? d with
    | none => return (false, s)
    | some i => do
      let diagnostics ← removeAt diagnostics i
      return (true, s.set id diagnostics)

theorem removeOne_eq (s : Store) (id : DocumentId) (d : Diagnostic) :
    removeOne s id d = .ok (s.removeOne id d) := by
  rw [removeOne, Store.removeOne]
  cases s.records.find? id with
  | none => rfl
  | some diagnostics =>
    dsimp only
    rw [List.erase_eq_eraseIdx]
    cases hindex : diagnostics.idxOf? d with
    | none =>
      have hnot := List.idxOf?_eq_none_iff.1 hindex
      rw [if_neg fun hcontains => hnot (List.contains_iff_mem.1 hcontains)]
      rfl
    | some i =>
      obtain ⟨hi, hget, -⟩ := List.idxOf?_eq_some_iff.1 hindex
      have hmem : d ∈ diagnostics := hget ▸ List.getElem_mem hi
      rw [if_pos (List.contains_iff_mem.2 hmem)]
      exact bind_eq_ok_iff.2 ⟨_, Misuse.guard_eq_ok_iff.2 ⟨hi, rfl⟩, rfl⟩

/-! ## No misuse -/

/-- Nothing is misused, whatever is asked: the searches, a buffer on top of the rope `R`, and the
record of diagnostics have an answer, and it is that of the functions without indices. -/
structure InBounds (R : Rope) : Prop where
  /-- The table of a text is read between its ends, -/
  charOffset_eq : ∀ text x,
    charOffset (.ofText text) x = .ok ((Offsets.ofText text).charOffset x)
  /-- and the answer is the index of an entry. -/
  charOffset_lt : ∀ text x, (Offsets.ofText text).charOffset x < (Offsets.ofText text).table.size
  /-- After any number of steps the cursor of the walk is on a match of the whole, if there is one.
  -/
  cursor_lt : ∀ side whole found, whole ≠ [] →
    ∃ w, Walk.start.run side whole found = .ok w ∧ w.cursor < whole.length
  /-- The search for lone matches walks only if there is one. -/
  loneMatches_eq : ∀ text pattern companion side,
    loneMatches text pattern companion side =
      .ok (Proofreader.loneMatches text pattern companion side)
  /-- The position of any offset can be looked up; -/
  position_eq : ∀ x offset, R.position x offset = .ok ((R.buffer x).position offset)
  /-- the line that is found does not begin behind the offset. -/
  start_le_of_lineOf : ∀ x n line start, R.lineOf x n = .ok line →
    R.lineStart x line = .ok start → start ≤ n
  /-- Only what is in the text is copied. -/
  slice_eq : ∀ x r, R.slice? x r = .ok ((R.buffer x).slice? r)
  /-- Only what is in the text is removed, and new characters are put in only there; -/
  edited_eq : ∀ x r text, ∃ y, R.edited x r text = .ok (((R.buffer x).edited r text).1, y) ∧
    R.buffer y = ((R.buffer x).edited r text).2
  /-- what is left in between reaches up to where they are put in. -/
  start_le_of_remove : ∀ x r y, R.remove x r = .ok y → r.start ≤ (R.chars y).length
  /-- A finding that is removed is there. -/
  removeOne_eq : ∀ s id d, removeOne s id d = .ok (s.removeOne id d)

/-- **Every access is in bounds**, on whatever rope the texts are kept. -/
theorem inBounds_of_lawful {R : Rope} (hR : R.Lawful) : InBounds R := by
  refine ⟨fun text x => charOffset_eq _ x, fun text x => ?_, fun side whole found hwhole => ?_,
    loneMatches_eq, hR.position_eq, fun _ _ _ _ => hR.start_le_of_lineOf, hR.slice?_eq,
    hR.edited_eq, fun _ _ _ => hR.start_le_of_remove, removeOne_eq⟩
  · rw [Offsets.size_table]
    exact Nat.lt_succ_of_le (Offsets.charOffset_le_length text x)
  · obtain ⟨cursor, ahead, rfl⟩ := List.exists_cons_of_ne_nil hwhole
    have hstart : (cursor :: ahead).drop Walk.start.cursor = cursor :: ahead := rfl
    obtain ⟨w, hrun, hcursor, -⟩ := Walk.run_spec side found hstart
    exact ⟨w, hrun, hcursor⟩

/-- The last characters of a text are replaced: what is left once they are removed ends just where
the new ones are put in.  A range that runs backwards is refused, an offset far behind the text is
taken for its end, the cursor of the walk stays on the last match of the whole, and the last finding
of a record is removed. -/
theorem inBounds_of_lawful_plain :
    let first : Diagnostic := ⟨⟨0, 1⟩, .warning, "a slip"⟩
    let last : Diagnostic := ⟨⟨4, 7⟩, .warning, "a slip\nthe"⟩
    Rope.plain.Lawful ∧
      (∃ y, Rope.plain.edited "see teh".toList ⟨4, 7⟩ "the" = .ok (true, y) ∧
        Rope.plain.buffer y = .ofText "see the") ∧
      Rope.plain.slice? "teh".toList ⟨3, 1⟩ = .ok none ∧
      Rope.plain.position "a\r\nb".toList 99 = .ok ⟨1, 1⟩ ∧
      charOffset (.ofText "é".toList) 1 = .ok 1 ∧
      loneMatches "ax ab ax" "a" "b" .right = .ok (.ok [⟨0, 1⟩, ⟨6, 7⟩]) ∧
      ∃ s, removeOne (Store.empty.set "a" [first, last]) "a" last = .ok (true, s) ∧
        s.get "a" = [first] := by
  intro first last
  have laws := inBounds_of_lawful Rope.plain_lawful
  refine ⟨Rope.plain_lawful, ?_, ?_, ?_, ?_, ?_, ?_⟩
  · obtain ⟨y, hedited, hy⟩ := laws.edited_eq "see teh".toList ⟨4, 7⟩ "the"
    exact ⟨y, hedited, hy.trans rfl⟩
  · exact (laws.slice_eq _ _).trans rfl
  · exact (laws.position_eq _ _).trans rfl
  · exact (laws.charOffset_eq _ _).trans (by decide +kernel)
  · exact (laws.loneMatches_eq _ _ _ _).trans rfl
  · exact ⟨_, (laws.removeOne_eq _ _ _).trans rfl, by decide +kernel⟩

end Guarded
end Proofreader
