import Proofreader.Proofs.Text.Comment
import Proofreader.Proofs.Text.Replacement
import Proofreader.Text.Line

/-!
# What counts as a comment

A comment is `<!--`, what it holds, and the first `-->` behind, all on one line.  The scan that
takes comments out is told here without counting characters, and then found in `Text.stripFrom`.

* `closingLength?_eq_some_iff`, `commentLength?_eq_some_iff` — what the two counts count.
* `Scanned` — the scan from left to right: where a comment begins it goes on behind it, and keeps
  one character anywhere else.  What is kept is never looked at again.  `scanned_iff` says that
  `stripFrom` is the only outcome.
* `commentsFrom` — the comments of a text as ranges; `stripFrom_eq_replaceAll` says that they are
  what is taken out, all at once.
* `pieces_stripFrom` — every line is scanned by itself.

The same text without comments is described in four ways, for four uses.  The function walks with a
number of characters to be skipped, so that its recursion is on the list.  The relation `Scanned`
says what a comment is by its brackets and has no numbers; it is what a reader would write down, and
it leaves open how the first closing bracket is found.  The ranges serve the comparison with a
search by pattern, which tells matches.  And the lines say how far a comment can reach.

The function skips, and a step within a comment has nothing to say.  So all inductions go over the
text with `skip = 0` where they can, and jump behind a comment in one step with
`stripFrom_of_commentLength?`; their recursion is then on the length of the text that is left, and
the comment in between is shorter by seven characters at least.

What is kept is not scanned again: in `<!<!-- a -->-- b -->` the outer pieces come together to look
like a comment, and stay.  In `Scanned` this is so because the rule for a kept character looks at
the text that is to come and never at what was kept.
-/

set_option autoImplicit false

namespace Proofreader
namespace Text

/-! ## The brackets of a comment

What a comment holds may have dashes and brackets in it, only not the closing bracket.  The bracket
that follows must be the first also when its first dashes belong to what is held, as in `--->`, and
so `first` is about what is held together with the bracket behind. -/

/-- What a comment begins with. -/
def opener : List Char := ['<', '!', '-', '-']

/-- What a comment ends with. -/
def closer : List Char := ['-', '-', '>']

/-- The text `inner` is what a comment can hold when `-->` and `rest` follow. -/
structure Holds (inner rest : List Char) : Prop where
  /-- It is on one line. -/
  oneLine : '\n' ∉ inner
  /-- The `-->` that follows is the first one. -/
  first : ∀ i < inner.length, ¬closer <+: (inner ++ (closer ++ rest)).drop i

/-- A comment begins here: behind `<!--`, there is a `-->` on the same line. -/
def BeginsComment (text : List Char) : Prop :=
  ∃ inner rest, text = opener ++ (inner ++ (closer ++ rest)) ∧ '\n' ∉ inner

variable {text inner rest : List Char} {c : Char} {n : Nat}

theorem holds_nil (rest : List Char) : Holds [] rest :=
  ⟨List.not_mem_nil, fun i hi => absurd hi (Nat.not_lt_zero i)⟩

theorem holds_cons_iff :
    Holds (c :: inner) rest ↔
      c ≠ '\n' ∧ ¬closer <+: c :: (inner ++ (closer ++ rest)) ∧ Holds inner rest := by
  constructor
  · rintro ⟨hline, hfirst⟩
    rw [List.mem_cons, not_or] at hline
    refine ⟨Ne.symm hline.1, hfirst 0 (by simp), hline.2, fun i hi => ?_⟩
    exact hfirst (i + 1) (by simpa using hi)
  · rintro ⟨hc, hnot, hline, hfirst⟩
    refine ⟨?_, fun i hi => ?_⟩
    · rw [List.mem_cons, not_or]
      exact ⟨Ne.symm hc, hline⟩
    · cases i with
      | zero => exact hnot
      | succ i => exact hfirst i (by simpa using hi)

theorem closingLength?_closer (rest : List Char) : closingLength? (closer ++ rest) = some 3 := rfl

theorem closingLength?_feed (rest : List Char) : closingLength? ('\n' :: rest) = none := by
  rw [closingLength?, if_pos (by simp)]
  simp

theorem closingLength?_cons (hnot : ¬closer <+: c :: rest) (hc : c ≠ '\n') :
    closingLength? (c :: rest) = (closingLength? rest).map (· + 1) := by
  rw [closingLength?, if_neg (by simpa using hc)]
  rintro tail rfl rfl
  exact hnot ⟨tail, rfl⟩

/-- **The first closing bracket** is what is looked for, and only on this line. -/
theorem closingLength?_eq_some_iff :
    closingLength? text = some n ↔
      ∃ inner rest, text = inner ++ (closer ++ rest) ∧ Holds inner rest ∧
        n = inner.length + 3 := by
  induction text generalizing n with
  | nil => simp [closingLength?, closer]
  | cons c text ih =>
    by_cases hcloser : closer <+: c :: text
    · obtain ⟨rest, hrest⟩ := hcloser
      rw [← hrest, closingLength?_closer, Option.some_inj]
      constructor
      · rintro rfl
        exact ⟨[], rest, rfl, holds_nil rest, rfl⟩
      · rintro ⟨inner, rest', heq, hholds, rfl⟩
        cases inner with
        | nil => rfl
        | cons d inner => exact absurd ⟨rest, heq⟩ (holds_cons_iff.1 hholds).2.1
    · by_cases hc : c = '\n'
      · subst hc
        rw [closingLength?_feed]
        constructor
        · simp
        · rintro ⟨inner, rest, heq, hholds, rfl⟩
          cases inner with
          | nil => simp [closer] at heq
          | cons d inner =>
            obtain ⟨rfl, -⟩ := List.cons.inj heq
            exact absurd rfl (holds_cons_iff.1 hholds).1
      · rw [closingLength?_cons hcloser hc, Option.map_eq_some_iff]
        constructor
        · rintro ⟨m, hm, rfl⟩
          obtain ⟨inner, rest, rfl, hholds, rfl⟩ := ih.1 hm
          exact ⟨c :: inner, rest, rfl, holds_cons_iff.2 ⟨hc, hcloser, hholds⟩, by simp⟩
        · rintro ⟨inner, rest, heq, hholds, rfl⟩
          cases inner with
          | nil => exact absurd ⟨rest, heq.symm⟩ hcloser
          | cons d inner =>
            obtain ⟨rfl, rfl⟩ := List.cons.inj heq
            exact ⟨_, ih.2 ⟨inner, rest, rfl, (holds_cons_iff.1 hholds).2.2, rfl⟩, by simp⟩

/-- Some closing bracket on this line is enough for there to be a first one. -/
theorem closingLength?_isSome (hline : '\n' ∉ inner) (rest : List Char) :
    (closingLength? (inner ++ (closer ++ rest))).isSome = true := by
  induction inner with
  | nil => rfl
  | cons c inner ih =>
    rw [List.mem_cons, not_or] at hline
    by_cases hcloser : closer <+: c :: (inner ++ (closer ++ rest))
    · obtain ⟨tail, htail⟩ := hcloser
      rw [List.cons_append, ← htail]
      rfl
    · rw [List.cons_append, closingLength?_cons hcloser (Ne.symm hline.1), Option.isSome_map]
      exact ih hline.2

/-! ## Comments

A comment without its closing bracket on the line is no comment at all, and the opening bracket is
kept. -/

theorem commentLength?_opener (rest : List Char) :
    commentLength? (opener ++ rest) = (closingLength? rest).map (· + 4) := rfl

theorem commentLength?_of_not_opener (h : ¬opener <+: text) : commentLength? text = none := by
  rw [commentLength?.eq_def]
  split
  · exact absurd ⟨_, rfl⟩ h
  · rfl

/-- **The length of a comment** that stands here. -/
theorem commentLength?_eq_some_iff :
    commentLength? text = some n ↔
      ∃ inner rest, text = opener ++ (inner ++ (closer ++ rest)) ∧ Holds inner rest ∧
        n = inner.length + 7 := by
  constructor
  · intro h
    by_cases hopener : opener <+: text
    · obtain ⟨behind, rfl⟩ := hopener
      rw [commentLength?_opener, Option.map_eq_some_iff] at h
      obtain ⟨m, hm, rfl⟩ := h
      obtain ⟨inner, rest, rfl, hholds, rfl⟩ := closingLength?_eq_some_iff.1 hm
      exact ⟨inner, rest, rfl, hholds, rfl⟩
    · simp [commentLength?_of_not_opener hopener] at h
  · rintro ⟨inner, rest, rfl, hholds, rfl⟩
    rw [commentLength?_opener, closingLength?_eq_some_iff.2 ⟨inner, rest, rfl, hholds, rfl⟩]
    rfl

theorem commentLength?_eq_none_iff : commentLength? text = none ↔ ¬BeginsComment text := by
  constructor
  · rintro h ⟨inner, rest, rfl, hline⟩
    have hsome := closingLength?_isSome hline rest
    rw [commentLength?_opener, Option.map_eq_none_iff] at h
    simp [h] at hsome
  · intro hnot
    refine Option.eq_none_iff_forall_ne_some.2 fun n hn => hnot ?_
    obtain ⟨inner, rest, heq, hholds, -⟩ := commentLength?_eq_some_iff.1 hn
    exact ⟨inner, rest, heq, hholds.oneLine⟩

/-- A comment lies in the text. -/
theorem le_length_of_commentLength? (h : commentLength? text = some n) : n ≤ text.length := by
  obtain ⟨inner, rest, rfl, -, rfl⟩ := commentLength?_eq_some_iff.1 h
  simp only [opener, closer, List.length_append, List.length_cons, List.length_nil]
  omega

/-! ## The scan -/

/-- **The scan from left to right**: from `text`, it keeps `kept`. -/
inductive Scanned : (text kept : List Char) → Prop
  /-- The text is at its end. -/
  | nil : Scanned [] []
  /-- A comment is dropped up to its first `-->`, and the scan goes on right behind it. -/
  | comment {inner rest kept : List Char} : Holds inner rest → Scanned rest kept →
      Scanned (opener ++ (inner ++ (closer ++ rest))) kept
  /-- Every other character is kept. -/
  | keep {c : Char} {rest kept : List Char} : ¬BeginsComment (c :: rest) → Scanned rest kept →
      Scanned (c :: rest) (c :: kept)

theorem stripFrom_eq_drop (skip : Nat) (text : List Char) :
    stripFrom skip text = stripFrom 0 (text.drop skip) := by
  induction text generalizing skip with
  | nil => simp [stripFrom]
  | cons c rest ih =>
    cases skip with
    | zero => rfl
    | succ skip => exact ih skip

/-- Behind a comment, the scan begins anew. -/
theorem stripFrom_of_commentLength? (h : commentLength? text = some n) :
    stripFrom 0 text = stripFrom 0 (text.drop n) := by
  have hseven := seven_le_of_commentLength? h
  cases text with
  | nil => simp [commentLength?] at h
  | cons c rest =>
    obtain ⟨m, rfl⟩ : ∃ m, n = m + 1 := ⟨n - 1, by omega⟩
    rw [stripFrom_of_some h, stripFrom_eq_drop]
    rfl

theorem drop_comment (inner rest : List Char) :
    (opener ++ (inner ++ (closer ++ rest))).drop (inner.length + 7) = rest := by
  have hlength : (opener ++ (inner ++ closer)).length = inner.length + 7 := by
    simp only [opener, closer, List.length_append, List.length_cons, List.length_nil]
    omega
  have heq : opener ++ (inner ++ (closer ++ rest)) = opener ++ (inner ++ closer) ++ rest := by
    simp only [List.append_assoc]
  rw [heq, List.drop_left' hlength]

/-- By recursion on the length of the text that is left. -/
theorem scanned_stripFrom : ∀ text : List Char, Scanned text (stripFrom 0 text)
  | [] => .nil
  | c :: text => by
    cases h : commentLength? (c :: text) with
    | none =>
      rw [stripFrom_of_none h]
      exact .keep (commentLength?_eq_none_iff.1 h) (scanned_stripFrom text)
    | some n =>
      obtain ⟨inner, rest, heq, hholds, rfl⟩ := commentLength?_eq_some_iff.1 h
      have hshorter : rest.length < (c :: text).length := by
        rw [heq]
        simp only [opener, closer, List.length_append, List.length_cons, List.length_nil]
        omega
      rw [stripFrom_of_commentLength? h, heq, drop_comment]
      exact .comment hholds (scanned_stripFrom rest)
  termination_by text => text.length
  decreasing_by
    · exact Nat.lt_succ_self _
    · exact hshorter

/-- **The scan has one outcome**, which is the text without its comments. -/
theorem scanned_iff {kept : List Char} : Scanned text kept ↔ kept = stripFrom 0 text := by
  constructor
  · intro h
    induction h with
    | nil => rfl
    | @comment inner rest kept hholds _ ih =>
      have hlength := commentLength?_eq_some_iff.2 ⟨inner, rest, rfl, hholds, rfl⟩
      rw [stripFrom_of_commentLength? hlength, drop_comment, ih]
    | keep hnot _ ih => rw [stripFrom_of_none (commentLength?_eq_none_iff.2 hnot), ih]
  · rintro rfl
    exact scanned_stripFrom text

/-! ## Comments as ranges

The ranges are numbered in the whole text while the scan goes on in its rest, so the lemmas carry
the number of characters before; they are ascending, and replacing them from the last to the first
is what `replaceAll` does. -/

/-- The comments of a text of which `n` characters come before; the first `skip` characters belong
to a comment already. -/
def commentsFrom : (n skip : Nat) → List Char → List TextRange
  | _, _, [] => []
  | n, skip + 1, _ :: rest => commentsFrom (n + 1) skip rest
  | n, 0, c :: rest =>
    match commentLength? (c :: rest) with
    | some length => ⟨n, n + length⟩ :: commentsFrom (n + 1) (length - 1) rest
    | none => commentsFrom (n + 1) 0 rest

theorem commentsFrom_eq_drop (n skip : Nat) (text : List Char) :
    commentsFrom n skip text = commentsFrom (n + skip) 0 (text.drop skip) := by
  induction text generalizing n skip with
  | nil => simp [commentsFrom]
  | cons c rest ih =>
    cases skip with
    | zero => rfl
    | succ skip =>
      rw [commentsFrom, ih, List.drop_succ_cons, Nat.add_right_comm, Nat.add_assoc]

theorem commentsFrom_of_none (h : commentLength? (c :: rest) = none) (n : Nat) :
    commentsFrom n 0 (c :: rest) = commentsFrom (n + 1) 0 rest := by
  rw [commentsFrom, h]

theorem commentsFrom_of_some {length : Nat} (h : commentLength? text = some length) (n : Nat) :
    commentsFrom n 0 text = ⟨n, n + length⟩ :: commentsFrom (n + length) 0 (text.drop length) := by
  have hseven := seven_le_of_commentLength? h
  cases text with
  | nil => simp [commentLength?] at h
  | cons c rest =>
    obtain ⟨m, rfl⟩ : ∃ m, length = m + 1 := ⟨length - 1, by omega⟩
    rw [commentsFrom, h]
    dsimp only
    rw [Nat.add_sub_cancel, commentsFrom_eq_drop, List.drop_succ_cons, Nat.add_right_comm,
      Nat.add_assoc]

/-- Comments begin behind the `n` characters, and lie in the text. -/
theorem mem_commentsFrom {r : TextRange} :
    ∀ {text : List Char} {n skip : Nat}, r ∈ commentsFrom n skip text →
      n ≤ r.start ∧ r.LiesIn (n + text.length)
  | [], n, skip, h => by simp [commentsFrom] at h
  | c :: rest, n, skip, h => by
    -- whatever the scan does here, the others are found from the next character on
    have hlater : ∀ {skip : Nat}, r ∈ commentsFrom (n + 1) skip rest →
        n ≤ r.start ∧ r.LiesIn (n + (c :: rest).length) := by
      intro skip h
      obtain ⟨hstart, hlies⟩ := mem_commentsFrom h
      refine ⟨Nat.le_of_succ_le hstart, hlies.start_le_stop, Nat.le_trans hlies.stop_le ?_⟩
      rw [List.length_cons]
      omega
    cases skip with
    | succ skip => exact hlater h
    | zero =>
      rw [commentsFrom] at h
      split at h
      · rename_i length hlength
        rcases List.mem_cons.1 h with rfl | h
        · have hle := le_length_of_commentLength? hlength
          exact ⟨Nat.le_refl _, Nat.le_add_right _ _, Nat.add_le_add_left hle n⟩
        · exact hlater h
      · exact hlater h

theorem commentsFrom_eq_nil_iff : commentsFrom n 0 text = [] ↔ containsComment text = false := by
  induction text generalizing n with
  | nil => simp [commentsFrom, containsComment]
  | cons c rest ih =>
    rw [containsComment]
    cases h : commentLength? (c :: rest) with
    | none => simp [commentsFrom_of_none h, ih]
    | some length => simp [commentsFrom_of_some h]

/-- What is kept from a place on comes behind what was before, and the comments from there on are
gone.  By recursion on the text that is left. -/
theorem take_append_stripFrom (text : List Char) :
    ∀ (rest : List Char) (n : Nat), rest = text.drop n → n ≤ text.length →
      text.take n ++ stripFrom 0 rest =
        replaceAll text text.length ((commentsFrom n 0 rest).map fun r => (r, [])).reverse
  | [], n, hrest, hn => by
    have hle : text.length ≤ n := List.drop_eq_nil_iff.1 hrest.symm
    simp [stripFrom, commentsFrom, List.take_of_length_le hle]
  | c :: rest, n, hrest, hn => by
    have hlt := lt_length_of_cons_eq_drop hrest
    have hdrop := eq_drop_succ hrest
    cases h : commentLength? (c :: rest) with
    | none =>
      have htake : text.take (n + 1) = text.take n ++ [c] := by
        rw [List.take_add, ← hrest, List.take_one]
        rfl
      rw [stripFrom_of_none h, commentsFrom_of_none h, ← take_append_stripFrom text rest (n + 1)
        hdrop hlt, htake, List.append_assoc, List.singleton_append]
    | some length =>
      have hseven := seven_le_of_commentLength? h
      have hlength := le_length_of_commentLength? h
      rw [hrest, List.length_drop] at hlength
      have hbehind : (c :: rest).drop length = text.drop (n + length) := by
        rw [hrest, List.drop_drop]
      have hshorter : ((c :: rest).drop length).length < (c :: rest).length := by
        rw [List.length_drop, List.length_cons]
        omega
      have hrec := take_append_stripFrom text ((c :: rest).drop length) (n + length) hbehind
        (by omega)
      rw [stripFrom_of_commentLength? h, commentsFrom_of_some h, List.map_cons, List.reverse_cons]
      have hlater : ∀ change ∈ ((commentsFrom (n + length) 0 ((c :: rest).drop length)).map
          fun r => (r, ([] : List Char))).reverse, n + length ≤ change.1.start := by
        intro change hchange
        rw [List.mem_reverse, List.mem_map] at hchange
        obtain ⟨r, hr, rfl⟩ := hchange
        exact (mem_commentsFrom hr).1
      have hinside : n + length ≤ text.length := by omega
      obtain ⟨tail, hbefore, hafter⟩ :=
        exists_replaceAll_concat text (r := ⟨n, n + length⟩) [] _ hlater hinside
      rw [hafter, List.append_nil]
      rw [← hrec] at hbefore
      exact congrArg _ (List.append_cancel_left hbefore)
  termination_by rest => rest.length

/-- **What is left of a text** is the text with its comments replaced by nothing, all at once. -/
theorem stripFrom_eq_replaceAll (text : List Char) :
    stripFrom 0 text =
      replaceAll text text.length ((commentsFrom 0 0 text).map fun r => (r, [])).reverse :=
  take_append_stripFrom text text 0 rfl (Nat.zero_le _)

/-- A comment that is taken out leaves less. -/
theorem length_stripFrom_lt (h : containsComment text = true) :
    (stripFrom 0 text).length < text.length := by
  induction text with
  | nil => simp [containsComment] at h
  | cons c rest ih =>
    cases hlength : commentLength? (c :: rest) with
    | none =>
      rw [containsComment, hlength, Option.isSome_none, Bool.false_or] at h
      rw [stripFrom_of_none hlength]
      exact Nat.succ_lt_succ (ih h)
    | some n =>
      rw [stripFrom_of_some hlength]
      exact Nat.lt_succ_of_le (length_stripFrom_le (n - 1) rest)

/-! ## Line by line

A line feed ends every search for a closing bracket.  What stands behind it can therefore not change
what is found in front of it, and the scan is at its beginning again right behind the feed. -/

/-- What has no line feed stands before a line feed, or not at all. -/
theorem prefix_append_feed_iff {bracket line : List Char} (h : '\n' ∉ bracket) :
    bracket <+: line ++ '\n' :: rest ↔ bracket <+: line := by
  induction bracket generalizing line with
  | nil => simp
  | cons b bracket ih =>
    rw [List.mem_cons, not_or] at h
    cases line with
    | nil =>
      simp only [List.nil_append, List.cons_prefix_cons, List.prefix_nil, reduceCtorEq, iff_false]
      exact fun hle => h.1 hle.1.symm
    | cons c line => simp only [List.cons_append, List.cons_prefix_cons, ih h.2]

theorem closingLength?_append_feed {line : List Char} (hline : '\n' ∉ line) :
    closingLength? (line ++ '\n' :: rest) = closingLength? line := by
  induction line with
  | nil => exact closingLength?_feed rest
  | cons c line ih =>
    by_cases hcloser : closer <+: c :: line
    · obtain ⟨tail, htail⟩ := hcloser
      rw [← htail]
      rfl
    · have hcloser' : ¬closer <+: c :: (line ++ '\n' :: rest) := by
        rwa [← List.cons_append, prefix_append_feed_iff (by decide)]
      rw [List.mem_cons, not_or] at hline
      rw [List.cons_append, closingLength?_cons hcloser' (Ne.symm hline.1), ih hline.2,
        closingLength?_cons hcloser (Ne.symm hline.1)]

/-- A comment does not go beyond its line. -/
theorem commentLength?_append_feed {line : List Char} (hline : '\n' ∉ line) :
    commentLength? (line ++ '\n' :: rest) = commentLength? line := by
  by_cases hopener : opener <+: line
  · obtain ⟨behind, rfl⟩ := hopener
    rw [List.mem_append, not_or] at hline
    rw [List.append_assoc, commentLength?_opener, commentLength?_opener,
      closingLength?_append_feed hline.2]
  · have hopener' : ¬opener <+: line ++ '\n' :: rest := by
      rwa [prefix_append_feed_iff (by decide)]
    rw [commentLength?_of_not_opener hopener', commentLength?_of_not_opener hopener]

theorem stripFrom_append_feed {line : List Char} (hline : '\n' ∉ line) (rest : List Char) :
    ∀ skip ≤ line.length,
      stripFrom skip (line ++ '\n' :: rest) = stripFrom skip line ++ '\n' :: stripFrom 0 rest := by
  induction line with
  | nil =>
    intro skip hskip
    obtain rfl : skip = 0 := by simpa using hskip
    exact stripFrom_of_none rfl
  | cons c line ih =>
    intro skip hskip
    have hline' := hline
    rw [List.mem_cons, not_or] at hline'
    cases skip with
    | succ skip => exact ih hline'.2 skip (by simpa using hskip)
    | zero =>
      have hlength : commentLength? (c :: (line ++ '\n' :: rest)) = commentLength? (c :: line) :=
        commentLength?_append_feed hline
      rw [List.cons_append]
      cases h : commentLength? (c :: line) with
      | none =>
        rw [stripFrom_of_none h, stripFrom_of_none (hlength.trans h), ih hline'.2 0 (Nat.zero_le _)]
        rfl
      | some n =>
        have hle := le_length_of_commentLength? h
        rw [List.length_cons] at hle
        rw [stripFrom_of_some h, stripFrom_of_some (hlength.trans h)]
        exact ih hline'.2 (n - 1) (by omega)

theorem stripFrom_sublist (skip : Nat) (text : List Char) : (stripFrom skip text).Sublist text := by
  induction text generalizing skip with
  | nil => simp [stripFrom]
  | cons c rest ih =>
    cases skip with
    | succ skip => exact (ih skip).cons c
    | zero =>
      cases h : commentLength? (c :: rest) with
      | none =>
        rw [stripFrom_of_none h]
        exact (ih 0).cons_cons c
      | some n =>
        rw [stripFrom_of_some h]
        exact (ih (n - 1)).cons c

/-- **Every line is scanned by itself**, and the line feeds between them stay. -/
theorem pieces_stripFrom (text : List Char) :
    pieces (stripFrom 0 text) = (pieces text).map (stripFrom 0) := by
  by_cases hfeed : '\n' ∈ text
  · obtain ⟨line, rest, rfl, hline⟩ := List.eq_append_cons_of_mem hfeed
    have hline' : '\n' ∉ stripFrom 0 line := fun h => hline ((stripFrom_sublist 0 line).subset h)
    rw [stripFrom_append_feed hline rest 0 (Nat.zero_le _), pieces_append_feed hline',
      pieces_append_feed hline, List.map_cons, pieces_stripFrom rest]
  · have hfeed' : '\n' ∉ stripFrom 0 text :=
      fun h => hfeed ((stripFrom_sublist 0 text).subset h)
    rw [pieces_of_not_mem hfeed, pieces_of_not_mem hfeed']
    rfl
  termination_by text.length
  decreasing_by
    rename_i hsplit
    rw [hsplit, List.length_append, List.length_cons]
    omega

end Text
end Proofreader
