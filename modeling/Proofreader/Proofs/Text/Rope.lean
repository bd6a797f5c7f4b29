import Proofreader.Proofs.Except
import Proofreader.Proofs.Text.Edits

/-!
# A text behind partial operations

A `Buffer` cuts offsets to fit and answers for every range.  The store that keeps a large text may
be stricter: a `Rope` looks up lines, copies, removes and inserts only within the text, and anything
else is a `Misuse`.  Its owner has to ask for the right thing every time, between the two halves of
an edit too.

* `Rope.Lawful` — what a rope does, and exactly when.  Nothing else is known of it.
* `Rope.position`, `Rope.slice?`, `Rope.edited` — a buffer on top of a rope.  The lemmas `…_eq` say
  that it never misuses the rope, and answers as a `Buffer` with the same text.
* `Rope.plain` — a rope that is a list.

The laws are equivalences: an operation has an answer exactly if it is asked for something within
the text, and then this is the answer.  A rope that answered for more would satisfy weaker laws, and
so would one on which everything fails; with the equivalences, that there is no misuse is a
statement about what the owner asks and not about how forgiving the rope is.

The owner tests a range once and then does two things with it.  It removes the characters, and puts
others in at the place where they were, in a text that has become shorter in between; the place is
still one of the text because the range did not begin behind its end (`start_le_of_remove`).  The
other place where something could go wrong is the column.  It is the offset less the beginning of
its line, which are the answers to two questions, and it is the laws of the two that make the second
the smaller one (`start_le_of_lineOf`).

`plain` is there to show that the laws can be kept, and runs the same operations on lists, each with
a test of its own.
-/

set_option autoImplicit false

namespace Proofreader

open Text (LineBegins clampedSlice lineEnds splice)

/-! ## A range inside or outside -/

namespace Buffer

variable {b : Buffer} {r : TextRange}

theorem slice?_of_not_liesIn (hr : ¬r.LiesIn b.chars.length) : b.slice? r = none :=
  if_neg fun hcovers => hr (covers_iff.1 hcovers)

theorem edited_of_liesIn (hr : r.LiesIn b.chars.length) (text : String) :
    b.edited r text = (true, ⟨splice b.chars r text.toList⟩) := by
  rw [edited, replace?_of_liesIn hr]

theorem edited_of_not_liesIn (hr : ¬r.LiesIn b.chars.length) (text : String) :
    b.edited r text = (false, b) := by
  have hrefused : b.replace? r text = none := if_neg fun hcovers => hr (covers_iff.1 hcovers)
  rw [edited, hrefused]

end Buffer

/-! ## Operations that are not defined everywhere

Each kind of misuse is a way in which a program would stop at once.  The first is an index into a
table or a list, the second a range of a text, the third a subtraction of numbers without a sign. -/

/-- What is wrong when an operation is used where it is not defined. -/
inductive Misuse where
  /-- There is no such entry or line. -/
  | index
  /-- There are no such characters. -/
  | range
  /-- More is taken away than there is. -/
  | difference
deriving Repr, DecidableEq

/-- The answer of an operation that is defined only if `p` holds. -/
def Misuse.guard {α : Type} (misuse : Misuse) (p : Prop) [Decidable p] (a : α) : Except Misuse α :=
  if p then .ok a else .error misuse

theorem Misuse.guard_eq_ok_iff {α : Type} {misuse : Misuse} {p : Prop} [Decidable p] {a b : α} :
    misuse.guard p a = .ok b ↔ p ∧ a = b := by
  rw [guard]
  split <;> simp_all

theorem Misuse.exists_guard_eq_ok_iff {α : Type} {misuse : Misuse} {p : Prop} [Decidable p]
    {a : α} : (∃ b, misuse.guard p a = .ok b) ↔ p := by
  simp only [guard_eq_ok_iff, exists_and_left, exists_eq', and_true]

/-- The difference of two numbers, of which the second must not be the greater one. -/
def difference (m n : Nat) : Except Misuse Nat := Misuse.difference.guard (n ≤ m) (m - n)

theorem difference_of_le {m n : Nat} (h : n ≤ m) : difference m n = .ok (m - n) :=
  Misuse.guard_eq_ok_iff.2 ⟨h, rfl⟩

/-- A store of texts, with operations that may be misused. -/
structure Rope where
  /-- What it keeps a text in. -/
  Carrier : Type
  /-- The text. -/
  chars : Carrier → List Char
  /-- The number of its characters. -/
  length : Carrier → Nat
  /-- The line of an offset. -/
  lineOf : Carrier → Nat → Except Misuse Nat
  /-- The offset at which a line begins. -/
  lineStart : Carrier → Nat → Except Misuse Nat
  /-- A copy of the text in a range. -/
  slice : Carrier → TextRange → Except Misuse String
  /-- The text without the characters in a range. -/
  remove : Carrier → TextRange → Except Misuse Carrier
  /-- The text with more characters at an offset. -/
  insert : Carrier → Nat → String → Except Misuse Carrier

namespace Rope

/-- What the operations of a rope do where they are defined, and where that is. -/
structure Lawful (R : Rope) : Prop where
  /-- The length is that of the text. -/
  length_eq : ∀ x, R.length x = (R.chars x).length
  /-- Offsets up to the end have a line, which is the number of the line ends that are over. -/
  lineOf_eq_ok_iff : ∀ x n line, R.lineOf x n = .ok line ↔
    n ≤ (R.chars x).length ∧ line = (lineEnds (R.chars x) n).card
  /-- The lines of the text begin somewhere, and the line behind the last one begins at the end. -/
  lineStart_eq_ok_iff : ∀ x line start, R.lineStart x line = .ok start ↔
    LineBegins (R.chars x) line start ∨
      line = (lineEnds (R.chars x) (R.chars x).length).card + 1 ∧ start = (R.chars x).length
  /-- Ranges that lie in the text can be copied, -/
  slice_eq_ok_iff : ∀ x r s, R.slice x r = .ok s ↔
    r.LiesIn (R.chars x).length ∧ s = String.ofList (clampedSlice (R.chars x) r)
  /-- and they can be removed; -/
  remove_isOk_iff : ∀ x r, (∃ y, R.remove x r = .ok y) ↔ r.LiesIn (R.chars x).length
  /-- then the characters in the range are gone. -/
  chars_remove : ∀ x r y, R.remove x r = .ok y → R.chars y = splice (R.chars x) r []
  /-- Characters can be put in anywhere up to the end; -/
  insert_isOk_iff : ∀ x n s, (∃ y, R.insert x n s = .ok y) ↔ n ≤ (R.chars x).length
  /-- then they are there. -/
  chars_insert : ∀ x n s y, R.insert x n s = .ok y →
    R.chars y = splice (R.chars x) ⟨n, n⟩ s.toList

variable (R : Rope)

/-! ## A buffer on top of a rope

The steps are those of a program that looks nothing up twice and trusts its own test. -/

/-- The position of an offset, or of the end if the text is shorter. -/
def position (x : R.Carrier) (offset : Nat) : Except Misuse Position := do
  let offset := min offset (R.length x)
  let line ← R.lineOf x offset
  let start ← R.lineStart x line
  let column ← difference offset start
  return ⟨line, column⟩

/-- The text in a range, if the range lies in the text. -/
def slice? (x : R.Carrier) (r : TextRange) : Except Misuse (Option String) :=
  if r.start > r.stop ∨ r.stop > R.length x then return none
  else do
    let s ← R.slice x r
    return some s

/-- Whether an edit is done, and what is kept then. -/
def edited (x : R.Carrier) (r : TextRange) (text : String) : Except Misuse (Bool × R.Carrier) :=
  if r.start > r.stop ∨ r.stop > R.length x then return (false, x)
  else do
    let y ← R.remove x r
    let z ← R.insert y r.start text
    return (true, z)

/-- The buffer with the text of a rope. -/
def buffer (x : R.Carrier) : Buffer := ⟨R.chars x⟩

variable {R}

/-- What is tested before a range is used. -/
theorem Lawful.outside_iff (hR : R.Lawful) (x : R.Carrier) (r : TextRange) :
    (r.start > r.stop ∨ r.stop > R.length x) ↔ ¬r.LiesIn (R.chars x).length := by
  rw [hR.length_eq]
  constructor
  · rintro (hlt | hlt) h
    · exact Nat.not_le.2 hlt h.start_le_stop
    · exact Nat.not_le.2 hlt h.stop_le
  · intro h
    by_contra hnot
    rw [not_or, Nat.not_lt, Nat.not_lt] at hnot
    exact h ⟨hnot.1, hnot.2⟩

/-- The line of an offset is one that begins: behind the last line end that is over. -/
theorem Lawful.lineStart_of_lineOf (hR : R.Lawful) {x : R.Carrier} {n line : Nat}
    (h : R.lineOf x n = .ok line) : R.lineStart x line = .ok ((lineEnds (R.chars x) n).sup id) := by
  obtain ⟨-, rfl⟩ := (hR.lineOf_eq_ok_iff x n line).1 h
  exact (hR.lineStart_eq_ok_iff x _ _).2 (.inl (Text.lineBegins_sup _ n))

/-- The line of an offset does not begin behind it. -/
theorem Lawful.start_le_of_lineOf (hR : R.Lawful) {x : R.Carrier} {n line start : Nat}
    (hline : R.lineOf x n = .ok line) (hstart : R.lineStart x line = .ok start) : start ≤ n := by
  obtain rfl := Except.ok.inj ((hR.lineStart_of_lineOf hline).symm.trans hstart)
  exact Text.sup_lineEnds_le _ n

/-- **Looking up a position.**  The line of an offset can be looked up, and the column is what is
left from where it begins. -/
theorem Lawful.position_eq (hR : R.Lawful) (x : R.Carrier) (offset : Nat) :
    R.position x offset = .ok ((R.buffer x).position offset) := by
  have hle : min offset (R.chars x).length ≤ (R.chars x).length := Nat.min_le_right _ _
  have hlocated := Text.located_positionFrom hle
  rw [Text.positionFrom_min] at hlocated
  rw [position, hR.length_eq]
  generalize min offset (R.chars x).length = n at hle hlocated ⊢
  have hline : R.lineOf x n = .ok (lineEnds (R.chars x) n).card :=
    (hR.lineOf_eq_ok_iff x n _).2 ⟨hle, rfl⟩
  have hstart := hR.lineStart_of_lineOf hline
  have hcolumn := difference_of_le (hR.start_le_of_lineOf hline hstart)
  refine bind_eq_ok_iff.2 ⟨_, hline, bind_eq_ok_iff.2 ⟨_, hstart, bind_eq_ok_iff.2
    ⟨_, hcolumn, congrArg Except.ok ?_⟩⟩⟩
  rw [← hlocated.line_eq, ← Nat.eq_sub_of_add_eq' hlocated.column_eq]
  rfl

/-- **Copying a range.**  What passes the test can be copied. -/
theorem Lawful.slice?_eq (hR : R.Lawful) (x : R.Carrier) (r : TextRange) :
    R.slice? x r = .ok ((R.buffer x).slice? r) := by
  by_cases hr : r.LiesIn (R.chars x).length
  · have hslice := (hR.slice_eq_ok_iff x r _).2 ⟨hr, rfl⟩
    rw [slice?, if_neg (mt (hR.outside_iff x r).1 (not_not_intro hr)),
      Buffer.slice?_of_liesIn (b := R.buffer x) hr]
    exact bind_eq_ok_iff.2 ⟨_, hslice, rfl⟩
  · rw [slice?, if_pos ((hR.outside_iff x r).2 hr),
      Buffer.slice?_of_not_liesIn (b := R.buffer x) hr]
    rfl

/-- What is left when a range is removed. -/
theorem Lawful.chars_of_remove (hR : R.Lawful) {x y : R.Carrier} {r : TextRange}
    (h : R.remove x r = .ok y) :
    R.chars y = (R.chars x).take r.start ++ (R.chars x).drop r.stop := by
  rw [hR.chars_remove x r y h, splice, List.append_nil]

theorem Lawful.length_take_of_remove (hR : R.Lawful) {x y : R.Carrier} {r : TextRange}
    (h : R.remove x r = .ok y) : ((R.chars x).take r.start).length = r.start := by
  have hr := (hR.remove_isOk_iff x r).1 ⟨y, h⟩
  rw [List.length_take, Nat.min_eq_left (hr.start_le_stop.trans hr.stop_le)]

/-- Once a range is removed, the place where it began is still one of the text. -/
theorem Lawful.start_le_of_remove (hR : R.Lawful) {x y : R.Carrier} {r : TextRange}
    (h : R.remove x r = .ok y) : r.start ≤ (R.chars y).length := by
  rw [hR.chars_of_remove h, List.length_append, hR.length_take_of_remove h]
  exact Nat.le_add_right _ _

/-- What is put in where a removed range began is in the place of its characters. -/
theorem Lawful.chars_of_remove_insert (hR : R.Lawful) {x y z : R.Carrier} {r : TextRange}
    {text : String} (hy : R.remove x r = .ok y) (hz : R.insert y r.start text = .ok z) :
    R.chars z = splice (R.chars x) r text.toList := by
  have hstart := hR.length_take_of_remove hy
  rw [hR.chars_insert y r.start text z hz, hR.chars_of_remove hy, splice, List.take_left' hstart,
    List.drop_left' hstart, splice]

/-- **Editing a range.**  What passes the test can be removed, and then the new characters can be
put in. -/
theorem Lawful.edited_eq (hR : R.Lawful) (x : R.Carrier) (r : TextRange) (text : String) :
    ∃ y, R.edited x r text = .ok (((R.buffer x).edited r text).1, y) ∧
      R.buffer y = ((R.buffer x).edited r text).2 := by
  by_cases hr : r.LiesIn (R.chars x).length
  · obtain ⟨y, hy⟩ := (hR.remove_isOk_iff x r).2 hr
    obtain ⟨z, hz⟩ := (hR.insert_isOk_iff y r.start text).2 (hR.start_le_of_remove hy)
    rw [edited, if_neg (mt (hR.outside_iff x r).1 (not_not_intro hr)),
      Buffer.edited_of_liesIn (b := R.buffer x) hr]
    exact ⟨z, bind_eq_ok_iff.2 ⟨y, hy, bind_eq_ok_iff.2 ⟨z, hz, rfl⟩⟩,
      congrArg Buffer.mk (hR.chars_of_remove_insert hy hz)⟩
  · rw [edited, if_pos ((hR.outside_iff x r).2 hr),
      Buffer.edited_of_not_liesIn (b := R.buffer x) hr]
    exact ⟨x, rfl, rfl⟩

/-! ## A rope that is a list -/

instance (text : List Char) (line start : Nat) : Decidable (LineBegins text line start) :=
  inferInstanceAs (Decidable (_ ∨ _))

/-- A line begins within the text. -/
theorem start_le_of_lineBegins {text : List Char} {line start : Nat}
    (h : LineBegins text line start) : start ≤ text.length := by
  rcases h with ⟨-, rfl⟩ | ⟨⟨before, lineEnd, behind, rfl, -, rfl⟩, -⟩
  · exact Nat.zero_le _
  · exact (List.sublist_append_left _ behind).length_le

/-- Every operation looks whether it is defined. -/
def plain : Rope where
  Carrier := List Char
  chars text := text
  length text := text.length
  lineOf text n := Misuse.range.guard (n ≤ text.length) (lineEnds text n).card
  lineStart text line :=
    if line = (lineEnds text text.length).card + 1 then .ok text.length
    else match (List.range (text.length + 1)).find? fun start => LineBegins text line start with
      | some start => .ok start
      | none => .error .index
  slice text r :=
    Misuse.range.guard ((Buffer.mk text).covers r = true) (String.ofList (clampedSlice text r))
  remove text r := Misuse.range.guard ((Buffer.mk text).covers r = true) (splice text r [])
  insert text n s := Misuse.range.guard (n ≤ text.length) (splice text ⟨n, n⟩ s.toList)

theorem plain_lineStart_eq_ok_iff (text : List Char) (line start : Nat) :
    plain.lineStart text line = .ok start ↔ LineBegins text line start ∨
      line = (lineEnds text text.length).card + 1 ∧ start = text.length := by
  simp only [plain]
  split
  · rename_i hline
    have hnone : ¬LineBegins text line start := fun h =>
      Nat.not_lt.2 (start_le_of_lineBegins h) (hline ▸ h).lt
    rw [or_iff_right hnone, and_iff_right hline, Except.ok.injEq]
    exact eq_comm
  · rename_i hline
    split
    · rename_i s hfound
      have hs : LineBegins text line s := by simpa using List.find?_some hfound
      simp only [Except.ok.injEq, hline, false_and, or_false]
      exact ⟨fun h => h ▸ hs, fun h => hs.unique h⟩
    · rename_i hnone
      simp only [reduceCtorEq, hline, false_and, or_false, false_iff]
      intro h
      have hmem : start ∈ List.range (text.length + 1) :=
        List.mem_range.2 (Nat.lt_succ_of_le (start_le_of_lineBegins h))
      exact List.find?_eq_none.1 hnone start hmem (decide_eq_true h)

theorem plain_lawful : plain.Lawful where
  length_eq _ := rfl
  lineOf_eq_ok_iff _ _ _ := Misuse.guard_eq_ok_iff.trans (and_congr_right fun _ => eq_comm)
  lineStart_eq_ok_iff := plain_lineStart_eq_ok_iff
  slice_eq_ok_iff _ _ _ := Misuse.guard_eq_ok_iff.trans (and_congr Buffer.covers_iff eq_comm)
  remove_isOk_iff _ _ := Misuse.exists_guard_eq_ok_iff.trans Buffer.covers_iff
  chars_remove _ _ _ h := (Misuse.guard_eq_ok_iff.1 h).2.symm
  insert_isOk_iff _ _ _ := Misuse.exists_guard_eq_ok_iff
  chars_insert _ _ _ _ h := (Misuse.guard_eq_ok_iff.1 h).2.symm

end Rope
end Proofreader
