import Mathlib.Data.Finset.Lattice.Fold
import Mathlib.Order.Lattice.Nat
import Proofreader.Workspace

/-!
# Lines and columns

A position is found in one pass over the text (`Text.positionFrom`), character by character and with
one character looked ahead.  What it should be is said here without a pass: `Text.IsLineEnd` says
what a line end is, together with what stands around it, and `Text.lineEnds` are the offsets up to
some offset at which one is over.  The line is their number and the column is the way from the last
of them.

* `Text.lineEndsAt_succ_iff` — the look-ahead of the pass is right: a carriage return is a line end
  of its own unless a line feed follows, and then the two are one, which is over behind the second.
* `Text.positionFrom_spec` — the pass finds the position.
* `Text.LineBegins` — where a line begins, by its number.  Looking up the line of an offset and then
  the beginning of that line never leads behind the offset.
* `Buffer.position_laws` — what this comes to, for every text and every offset.

The specification has the eight line ends written down as an inductive predicate with the text
around them, since two of them depend on it.  The pass decides with one character of look-ahead and
nothing of what came before: a line feed ends a line in any case, and it need not be asked whether a
carriage return stood before it, because that one did not count then.  `lineEndsAt_succ_iff` is
where this is justified, by cases on the line ends in one direction and on the character in the
other; everything else speaks of `LineEndsAt` and no longer of characters.

The pass walks from the front and its induction hypothesis would be about the rest of the text,
while the specification counts from the front as well.  So the pass is first turned around
(`positionFrom_succ`): one more character is one more step at the end.  Then the induction is on the
offset, and a step either adds the offset that it reaches to the set of line ends, where it is the
largest, or adds nothing.

That further on in the text is further on in positions needs no specification.  One step always
leads on, to the next line or within the line, and the order is transitive.
-/

set_option autoImplicit false

namespace Proofreader

/-- The position `p` comes before `q`: on an earlier line, or on the same line further in front. -/
def Position.Before (p q : Position) : Prop :=
  p.line < q.line ∨ p.line = q.line ∧ p.column < q.column

/-- The position behind a character, when `rest` follows it. -/
def Position.behind (p : Position) (c : Char) (rest : List Char) : Position :=
  if Text.endsLine c rest then ⟨p.line + 1, 0⟩ else ⟨p.line, p.column + 1⟩

theorem Position.Before.trans {p q r : Position} (hpq : p.Before q) (hqr : q.Before r) :
    p.Before r := by
  unfold Before at *
  omega

theorem Position.Before.ne {p q : Position} (h : p.Before q) : p ≠ q := by
  rintro rfl
  unfold Before at h
  omega

namespace Text

/-! ## Line ends

An offset at which a line end is over is the offset behind its last character, so between a carriage
return and a line feed nothing is over yet. -/

/-- A line end, with what stands before and behind it in the text. -/
inductive IsLineEnd : (before lineEnd behind : List Char) → Prop
  /-- Carriage return and line feed together. -/
  | pair (before behind : List Char) : IsLineEnd before ['\r', '\n'] behind
  /-- A carriage return by itself. -/
  | carriageReturn {before behind : List Char} :
      behind.head? ≠ some '\n' → IsLineEnd before ['\r'] behind
  /-- A line feed by itself. -/
  | lineFeed {before behind : List Char} :
      before.getLast? ≠ some '\r' → IsLineEnd before ['\n'] behind
  /-- A vertical tab, a form feed, or one of the separators of Unicode. -/
  | separator {before behind : List Char} {c : Char} :
      c ∈ ['\x0B', '\x0C', '\u0085', '\u2028', '\u2029'] → IsLineEnd before [c] behind

/-- A line end of the text is over at an offset. -/
def LineEndsAt (text : List Char) (n : Nat) : Prop :=
  ∃ before lineEnd behind, text = before ++ lineEnd ++ behind ∧
    IsLineEnd before lineEnd behind ∧ n = (before ++ lineEnd).length

variable {text : List Char} {c : Char} {rest : List Char} {m n : Nat} {p : Position}

theorem not_lineEndsAt_zero : ¬LineEndsAt text 0 := by
  rintro ⟨before, lineEnd, behind, -, h, hlength⟩
  cases h <;> simp at hlength

/-- Which characters end a line, and when. -/
theorem endsLine_iff : endsLine c rest = true ↔
    c = '\n' ∨ c = '\r' ∧ rest.head? ≠ some '\n' ∨
      c ∈ ['\x0B', '\x0C', '\u0085', '\u2028', '\u2029'] := by
  unfold endsLine
  split <;> simp_all

/-- A line end is over behind a character just if the pass over the text says so, which looks at
that character and the next one. -/
theorem lineEndsAt_succ_iff : LineEndsAt text (n + 1) ↔
    ∃ c rest, text.drop n = c :: rest ∧ endsLine c rest = true := by
  constructor
  · rintro ⟨before, lineEnd, behind, rfl, h, hlength⟩
    have hlast : ∀ init c, before ++ lineEnd = init ++ [c] →
        (before ++ lineEnd ++ behind).drop n = c :: behind := by
      intro init c heq
      rw [heq, List.length_append, List.length_singleton, Nat.succ_inj] at hlength
      rw [heq, List.append_assoc, hlength, List.drop_left, List.singleton_append]
    cases h with
    | pair => exact ⟨_, _, hlast (before ++ ['\r']) '\n' (by simp), endsLine_iff.2 (.inl rfl)⟩
    | carriageReturn hbehind =>
      exact ⟨_, _, hlast before '\r' rfl, endsLine_iff.2 (.inr (.inl ⟨rfl, hbehind⟩))⟩
    | lineFeed => exact ⟨_, _, hlast before '\n' rfl, endsLine_iff.2 (.inl rfl)⟩
    | separator hc => exact ⟨_, _, hlast before _ rfl, endsLine_iff.2 (.inr (.inr hc))⟩
  · rintro ⟨c, rest, hdrop, hends⟩
    have htext : text = text.take n ++ [c] ++ rest := by
      rw [List.append_assoc, List.singleton_append, ← hdrop, List.take_append_drop]
    have hn : n < text.length := by
      refine Nat.lt_of_not_le fun hle => ?_
      rw [List.drop_eq_nil_of_le hle] at hdrop
      simp at hdrop
    have hlength : n + 1 = (text.take n ++ [c]).length := by
      rw [List.length_append, List.length_take, List.length_singleton, Nat.min_eq_left hn.le]
    rcases endsLine_iff.1 hends with rfl | ⟨rfl, hrest⟩ | hc
    · -- a line feed is the second half of a pair if a carriage return stands before it
      by_cases hlast : (text.take n).getLast? = some '\r'
      · obtain ⟨before, hbefore⟩ := List.getLast?_eq_some_iff.1 hlast
        refine ⟨before, ['\r', '\n'], rest, ?_, .pair _ _, ?_⟩
        · rw [hbefore] at htext
          simpa using htext
        · rw [hlength, hbefore]
          simp
      · exact ⟨_, _, _, htext, .lineFeed hlast, hlength⟩
    · exact ⟨_, _, _, htext, .carriageReturn hrest, hlength⟩
    · exact ⟨_, _, _, htext, .separator hc, hlength⟩

/-- Behind a given character. -/
theorem lineEndsAt_succ (h : text.drop n = c :: rest) :
    LineEndsAt text (n + 1) ↔ endsLine c rest = true := by
  rw [lineEndsAt_succ_iff, h]
  constructor
  · rintro ⟨d, more, heq, hends⟩
    obtain ⟨rfl, rfl⟩ := List.cons.inj heq
    exact hends
  · exact fun hends => ⟨c, rest, rfl, hends⟩

instance (text : List Char) : DecidablePred (LineEndsAt text)
  | 0 => .isFalse not_lineEndsAt_zero
  | n + 1 =>
    match h : text.drop n with
    | [] => .isFalse fun hends => by
      obtain ⟨c, rest, heq, -⟩ := lineEndsAt_succ_iff.1 hends
      rw [h] at heq
      simp at heq
    | _ :: _ => decidable_of_iff _ (lineEndsAt_succ h).symm

/-- The offsets up to `n` at which a line end is over. -/
def lineEnds (text : List Char) (n : Nat) : Finset Nat :=
  (Finset.range (n + 1)).filter (LineEndsAt text)

theorem mem_lineEnds : m ∈ lineEnds text n ↔ m ≤ n ∧ LineEndsAt text m := by
  rw [lineEnds, Finset.mem_filter, Finset.mem_range, Nat.lt_succ_iff]

theorem lineEnds_zero (text : List Char) : lineEnds text 0 = ∅ := by
  refine Finset.eq_empty_of_forall_notMem fun m hm => ?_
  obtain ⟨hle, hends⟩ := mem_lineEnds.1 hm
  rw [Nat.le_zero.1 hle] at hends
  exact not_lineEndsAt_zero hends

theorem lineEnds_succ (text : List Char) (n : Nat) : lineEnds text (n + 1) =
    if LineEndsAt text (n + 1) then insert (n + 1) (lineEnds text n) else lineEnds text n := by
  rw [lineEnds, Finset.range_add_one, Finset.filter_insert, lineEnds]

theorem lineEnds_subset (h : m ≤ n) : lineEnds text m ⊆ lineEnds text n := fun _ hk =>
  mem_lineEnds.2 ⟨(mem_lineEnds.1 hk).1.trans h, (mem_lineEnds.1 hk).2⟩

/-- The last line end that is over is not behind the offset. -/
theorem sup_lineEnds_le (text : List Char) (n : Nat) : (lineEnds text n).sup id ≤ n :=
  Finset.sup_le fun _ hm => (mem_lineEnds.1 hm).1

/-! ## The pass over the text -/

/-- One step of the pass. -/
theorem positionFrom_cons_succ (p : Position) (n : Nat) (c : Char) (rest : List Char) :
    positionFrom p (n + 1) (c :: rest) = positionFrom (p.behind c rest) n rest := rfl

theorem positionFrom_zero (p : Position) (text : List Char) : positionFrom p 0 text = p := by
  cases text <;> rfl

/-- The last step of the pass, instead of the first. -/
theorem positionFrom_succ (h : text.drop n = c :: rest) :
    positionFrom p (n + 1) text = (positionFrom p n text).behind c rest := by
  induction n generalizing p text with
  | zero =>
    rw [List.drop_zero] at h
    rw [h, positionFrom_cons_succ, positionFrom_zero, positionFrom_zero]
  | succ n ih =>
    cases text with
    | nil => simp at h
    | cons d text =>
      rw [positionFrom_cons_succ, positionFrom_cons_succ]
      exact ih h

/-- Behind the end of the text there is nothing to be passed. -/
theorem positionFrom_min (p : Position) (n : Nat) (text : List Char) :
    positionFrom p (min n text.length) text = positionFrom p n text := by
  induction n generalizing p text with
  | zero => rw [Nat.zero_min]
  | succ n ih =>
    cases text with
    | nil => rfl
    | cons c text =>
      rw [List.length_cons, Nat.add_min_add_right, positionFrom_cons_succ, positionFrom_cons_succ,
        ih]

/-- **The pass finds the position.**  By induction on the offset: a step that ends a line adds one
line end, the last so far, and any other step adds none. -/
theorem positionFrom_spec (h : n ≤ text.length) :
    (positionFrom ⟨0, 0⟩ n text).line = (lineEnds text n).card ∧
      (lineEnds text n).sup id + (positionFrom ⟨0, 0⟩ n text).column = n := by
  induction n with
  | zero =>
    rw [positionFrom_zero, lineEnds_zero]
    exact ⟨rfl, rfl⟩
  | succ n ih =>
    obtain ⟨hline, hcolumn⟩ := ih (Nat.le_of_succ_le h)
    have hdrop := List.drop_eq_getElem_cons h
    rw [positionFrom_succ hdrop, Position.behind, lineEnds_succ]
    split
    · rename_i hends
      have hnew : n + 1 ∉ lineEnds text n := fun hmem =>
        Nat.not_succ_le_self n (mem_lineEnds.1 hmem).1
      rw [if_pos ((lineEndsAt_succ hdrop).2 hends), Finset.card_insert_of_notMem hnew,
        Finset.sup_insert, id, sup_eq_left.2 ((sup_lineEnds_le text n).trans n.le_succ)]
      exact ⟨congrArg (· + 1) hline, rfl⟩
    · rename_i hends
      rw [if_neg fun h => hends ((lineEndsAt_succ hdrop).1 h)]
      exact ⟨hline, congrArg (· + 1) hcolumn⟩

/-- Every line end takes at least one character. -/
theorem line_add_column_positionFrom_le (text : List Char) (n : Nat) :
    (positionFrom ⟨0, 0⟩ n text).line + (positionFrom ⟨0, 0⟩ n text).column ≤ n := by
  induction n with
  | zero =>
    rw [positionFrom_zero]
    exact le_rfl
  | succ n ih =>
    cases hdrop : text.drop n with
    | nil =>
      have hend := List.drop_eq_nil_iff.1 hdrop
      rw [← positionFrom_min, Nat.min_eq_right (hend.trans n.le_succ), ← Nat.min_eq_right hend,
        positionFrom_min]
      exact ih.trans n.le_succ
    | cons c rest =>
      rw [positionFrom_succ hdrop, Position.behind]
      split <;> dsimp only <;> omega

/-- A step leads on. -/
theorem before_positionFrom_succ (h : n < text.length) :
    (positionFrom p n text).Before (positionFrom p (n + 1) text) := by
  rw [positionFrom_succ (List.drop_eq_getElem_cons h), Position.behind]
  split
  · exact .inl (Nat.lt_succ_self _)
  · exact .inr ⟨rfl, Nat.lt_succ_self _⟩

/-- **Further on in the text is further on in lines and columns.** -/
theorem before_positionFrom (hmn : m < n) (hn : n ≤ text.length) :
    (positionFrom p m text).Before (positionFrom p n text) := by
  induction n, hmn using Nat.le_induction with
  | base => exact before_positionFrom_succ hn
  | succ n _ ih => exact (ih (Nat.le_of_succ_le hn)).trans (before_positionFrom_succ hn)

/-! ## Where a line begins

A store of texts may be asked for the line of an offset and then for the beginning of a line, and
the column is the difference.  These lemmas are what makes the difference a natural number. -/

/-- The line of number `line` begins at the offset `start`: at the beginning of the text, or behind
the line end of this number. -/
def LineBegins (text : List Char) (line start : Nat) : Prop :=
  line = 0 ∧ start = 0 ∨ LineEndsAt text start ∧ (lineEnds text start).card = line

/-- More line ends are over behind one that was not over before. -/
theorem card_lineEnds_lt (hmn : m < n) (hends : LineEndsAt text n) :
    (lineEnds text m).card < (lineEnds text n).card := by
  refine Finset.card_lt_card ((lineEnds_subset hmn.le).ssubset_of_ne fun heq => ?_)
  have hmem : n ∈ lineEnds text m := heq ▸ mem_lineEnds.2 ⟨le_rfl, hends⟩
  exact Nat.not_lt.2 (mem_lineEnds.1 hmem).1 hmn

/-- A line begins in one place only. -/
theorem LineBegins.unique {line s t : Nat} (hs : LineBegins text line s)
    (ht : LineBegins text line t) : s = t := by
  have hpos : ∀ k, LineEndsAt text k → (lineEnds text k).card ≠ 0 := fun k hk =>
    Finset.card_ne_zero_of_mem (mem_lineEnds.2 ⟨le_rfl, hk⟩)
  rcases hs with ⟨rfl, rfl⟩ | ⟨hs, hline⟩ <;> rcases ht with ⟨ht', rfl⟩ | ⟨ht, ht'⟩
  · rfl
  · exact absurd ht' (hpos t ht)
  · exact absurd (hline.trans ht') (hpos s hs)
  · rcases lt_trichotomy s t with hlt | heq | hlt
    · exact absurd (hline.trans ht'.symm) (card_lineEnds_lt hlt ht).ne
    · exact heq
    · exact absurd (ht'.trans hline.symm) (card_lineEnds_lt hlt hs).ne

/-- The line of an offset begins behind the last line end that is over there. -/
theorem lineBegins_sup (text : List Char) (n : Nat) :
    LineBegins text (lineEnds text n).card ((lineEnds text n).sup id) := by
  rcases (lineEnds text n).eq_empty_or_nonempty with hempty | hnonempty
  · rw [hempty]
    exact .inl ⟨rfl, rfl⟩
  · obtain ⟨s, hs, heq⟩ := (lineEnds text n).exists_mem_eq_sup hnonempty id
    obtain ⟨hle, hends⟩ := mem_lineEnds.1 hs
    rw [heq]
    refine .inr ⟨hends, congrArg Finset.card (Finset.Subset.antisymm (lineEnds_subset hle) ?_)⟩
    intro m hm
    have hlast : m ≤ s := (Finset.le_sup (f := id) hm).trans heq.le
    exact mem_lineEnds.2 ⟨hlast, (mem_lineEnds.1 hm).2⟩

/-- The next line begins behind the offset. -/
theorem LineBegins.lt {s : Nat} (h : LineBegins text ((lineEnds text n).card + 1) s) : n < s := by
  rcases h with ⟨h, -⟩ | ⟨-, hcard⟩
  · exact absurd h (Nat.succ_ne_zero _)
  · refine Nat.lt_of_not_le fun hle => ?_
    have hcard_le : (lineEnds text s).card ≤ (lineEnds text n).card :=
      Finset.card_le_card (lineEnds_subset hle)
    omega

/-! ## The position of an offset

The laws are collected for one offset within the text.  Offsets behind it are cut down to its end,
by the caller of the pass or by the pass itself, which comes to the same (`positionFrom_min`). -/

/-- What is said of the position `p` of an offset `n` in a text. -/
structure Located (text : List Char) (n : Nat) (p : Position) : Prop where
  /-- The line is the number of the line ends that are over at the offset. -/
  line_eq : p.line = (lineEnds text n).card
  /-- The column is the way from the last of them, or from the beginning of the text. -/
  column_eq : (lineEnds text n).sup id + p.column = n
  /-- That is where the line begins, when it is looked up by its number. -/
  begins_iff : ∀ start, LineBegins text p.line start ↔ start = (lineEnds text n).sup id
  /-- The line is one of the text. -/
  line_le : p.line ≤ (lineEnds text text.length).card
  /-- The column is one of the line: the next line, if there is one, begins behind the offset. -/
  lt_next : ∀ start, LineBegins text (p.line + 1) start → n < start
  /-- Every line end takes a character, so line and column together are no more than the offset. -/
  line_add_column_le : p.line + p.column ≤ n

theorem located_positionFrom (h : n ≤ text.length) :
    Located text n (positionFrom ⟨0, 0⟩ n text) := by
  obtain ⟨hline, hcolumn⟩ := positionFrom_spec h
  refine ⟨hline, hcolumn, fun start => ?_, ?_, fun start hstart => ?_,
    line_add_column_positionFrom_le text n⟩
  · rw [hline]
    constructor
    · exact fun hstart => hstart.unique (lineBegins_sup text n)
    · rintro rfl
      exact lineBegins_sup text n
  · rw [hline]
    exact Finset.card_le_card (lineEnds_subset h)
  · rw [hline] at hstart
    exact hstart.lt

end Text

open Text

/-- **Lines and columns.**  An offset counts as the end of the text if it is behind it.  Its line is
the number of the line ends that are over, and its column the way from the last of them.  Different
offsets of a text have different positions, and further on in the text is further on in lines and
columns, between the two characters of one line end too.  A workspace answers for an open document
in the same way. -/
theorem Buffer.position_laws (b : Buffer) :
    (∀ offset, Located b.chars (min offset b.length) (b.position offset)) ∧
      (∀ m n, m ≤ b.length → n ≤ b.length → b.position m = b.position n → m = n) ∧
      (∀ m n, m < n → n ≤ b.length → (b.position m).Before (b.position n)) ∧
      ∀ (w : Workspace) id offset, w.documents.find? id = some b →
        w.position? id offset = some (b.position offset) := by
  have hbefore : ∀ m n, m < n → n ≤ b.length → (b.position m).Before (b.position n) :=
    fun m n hmn hn => before_positionFrom hmn hn
  refine ⟨fun offset => ?_, fun m n hm hn heq => ?_, hbefore, fun w id offset hb => ?_⟩
  · rw [position, ← positionFrom_min]
    exact located_positionFrom (Nat.min_le_right _ _)
  · rcases lt_trichotomy m n with hlt | rfl | hlt
    · exact absurd heq (hbefore m n hlt hn).ne
    · rfl
    · exact absurd heq.symm (hbefore n m hlt hm).ne
  · rw [Workspace.position?, hb, Option.map_some]

/-- Between the carriage return and the line feed of a pair the first line is not over, and its
column is one that no other offset has. -/
theorem Buffer.position_laws_between_pair :
    let b := Buffer.ofText "ab\r\ncd"
    b.position 3 = ⟨0, 3⟩ ∧ b.position 4 = ⟨1, 0⟩ ∧ b.position 99 = ⟨1, 2⟩ ∧
      (lineEnds b.chars 3).card = 0 ∧ LineBegins b.chars 1 4 ∧ b.position 2 ≠ b.position 3 ∧
      (b.position 3).Before (b.position 4) := by
  intro b
  obtain ⟨hlocated, hinjective, hbefore, -⟩ := b.position_laws
  have hcolumn : (lineEnds b.chars 4).sup id + 0 = 4 := (hlocated 4).column_eq
  refine ⟨rfl, rfl, rfl, (hlocated 3).line_eq.symm, ?_, fun heq => ?_, hbefore 3 4 ?_ ?_⟩
  · exact ((hlocated 4).begins_iff 4).2 hcolumn.symm
  · exact absurd (hinjective 2 3 (by decide) (by decide) heq) (by decide)
  · decide
  · decide

end Proofreader
