import Proofreader.Proofs.Pattern.Preference
import Proofreader.Proofs.Search.Ranges
import Proofreader.Proofs.Text.Scan

/-!
# Comments, as a search

Comments are what the pattern `<!--(.*?)-->` matches.  This file says so of the search: run on any
text, it finds the ranges of `Text.commentsFrom`, one comment after the other
(`matchRanges_commentPattern`).  So what the scan leaves of a text is what replacing all matches by
nothing leaves.

The pattern takes as little as it can, so behind `<!--` every place is first tried as the beginning
of `-->`, and only then passed over (`arrive?_body`).  That is how `Text.closingLength?` looks for
it.

The pattern is a fixed one, so its program is written down and found to be the compiled one by
evaluation; from there on the theory of preferred ways applies.  The proof follows the program from
its end: three instructions spell the closing bracket, before them stands the choice between the
bracket and one character more, and before that four instructions spell the opening one.  At the
choice, the way into the bracket is preferred.  So the induction along the text has the two cases of
the scan, a bracket here or a character to be passed over, and the character may not be a line feed,
since the dot does not match one.

A search goes on behind each match, and may not find an empty match where the last one ended.
Comments are never empty, so this rule never applies, and the search steps from comment to comment
as the scan does.
-/

set_option autoImplicit false

namespace Proofreader
namespace Text

open Pattern

/-! ## The pattern

The lemmas read single instructions off the program, so that what follows need not look at it. -/

/-- The pattern of a comment. -/
def commentPattern : String := "<!--(.*?)-->"

/-- The program of the pattern.  It is to be read from its end on: four instructions for `<!--`, one
that takes a character and leads back to the choice, the choice, and three for `-->`. -/
def commentProgram : Program where
  code := #[.accept, .set (.single '>') 0, .set (.single '-') 1, .set (.single '-') 2, .split 3 5,
    .set (.compl (.single '\n')) 4, .set (.single '-') 4, .set (.single '-') 6,
    .set (.single '!') 7, .set (.single '<') 8]
  start := 9

theorem compile_commentPattern : compile commentPattern = .ok commentProgram := rfl

theorem code_body : commentProgram.code[5]? = some (.set (.compl (.single '\n')) 4) := rfl

theorem spells_opener : Program.Spells commentProgram.code commentProgram.start opener 4 :=
  .cons rfl (.cons rfl (.cons rfl (.cons rfl .nil)))

theorem spells_closer : Program.Spells commentProgram.code 3 closer 0 :=
  .cons rfl (.cons rfl (.cons rfl .nil))

theorem waiting_choice (p : Place) : commentProgram.code.waiting p 4 = [3, 5] := rfl

/-! ## What it matches -/

theorem arrive?_choice (p : Place) :
    commentProgram.arrive? p 4 = (commentProgram.arrive? p 3).or (commentProgram.arrive? p 5) := by
  have hthree : commentProgram.code.waiting p 3 = [3] := rfl
  have hfive : commentProgram.code.waiting p 5 = [5] := rfl
  rw [Program.arrive?, Program.arrive?, Program.arrive?, waiting_choice, hthree, hfive]
  simp only [List.findSome?_cons, List.findSome?_nil]
  cases commentProgram.stop? p.rest p.pos 3 <;> cases commentProgram.stop? p.rest p.pos 5 <;> rfl

/-- Behind its first bracket, a comment ends with the first closing bracket on the line. -/
theorem arrive?_body : ∀ (text : List Char) (before : Option Char) (pos : Nat),
    commentProgram.arrive? ⟨before, pos, text⟩ 4 =
      (closingLength? text).map fun n => pos + byteOffset text n
  | [], before, pos => by
    rw [arrive?_choice, spells_closer.arrive?_eq_none (by simp [closer]),
      Program.arrive?_of_set code_body]
    rfl
  | c :: rest, before, pos => by
    rw [arrive?_choice]
    by_cases hcloser : closer <+: c :: rest
    · obtain ⟨behind, hbehind⟩ := hcloser
      obtain ⟨before', hbefore⟩ := spells_closer.arrive?_append behind before pos
      rw [← hbehind, hbefore, Program.arrive?_of_accept rfl, closingLength?_closer]
      rfl
    · rw [spells_closer.arrive?_eq_none hcloser,
        Program.arrive?_of_set code_body]
      dsimp only
      rw [Charset.contains_compl, Charset.contains_single, Option.none_or]
      by_cases hc : c = '\n'
      · subst hc
        rw [closingLength?_feed]
        rfl
      · rw [if_pos (by simp [hc]), arrive?_body rest, closingLength?_cons hcloser hc,
          Option.map_map]
        congr 1
        funext n
        simp [byteOffset, Nat.add_assoc]

/-- A match that begins at a place is a comment that stands there. -/
theorem matchAt?_comment (p : Place) :
    commentProgram.matchAt? p =
      (commentLength? p.rest).map fun n => ⟨p.pos, p.pos + byteOffset p.rest n⟩ := by
  obtain ⟨before, pos, text⟩ := p
  rw [Program.matchAt?]
  by_cases hopener : opener <+: text
  · obtain ⟨behind, rfl⟩ := hopener
    obtain ⟨before', hbefore⟩ := spells_opener.arrive?_append behind before pos
    rw [hbefore, arrive?_body, commentLength?_opener, Option.map_map, Option.map_map]
    congr 1
    funext n
    have hoffset : byteOffset (opener ++ behind) (n + 4) =
        byteLength opener + byteOffset behind n := by
      rw [Nat.add_comm, byteOffset_add]
      rfl
    simp only [Function.comp_apply, hoffset, Nat.add_assoc]
  · rw [spells_opener.arrive?_eq_none hopener, commentLength?_of_not_opener hopener]
    rfl

/-- The first match is the first comment. -/
theorem leftmost?_comment (text : List Char) :
    ∀ (rest : List Char) (n : Nat) (before : Option Char), rest = text.drop n →
      commentProgram.leftmost? rest before (byteOffset text n) =
        (commentsFrom n 0 rest).head?.map (TextRange.bytes text)
  | [], n, before, hrest => by
    rw [Program.leftmost?, matchAt?_comment]
    rfl
  | c :: rest, n, before, hrest => by
    rw [Program.leftmost?, matchAt?_comment]
    dsimp only
    cases hlength : commentLength? (c :: rest) with
    | some length =>
      rw [commentsFrom_of_some hlength]
      simp [TextRange.bytes, byteOffset_add, hrest]
    | none =>
      rw [commentsFrom_of_none hlength, Option.map_none, Option.none_or,
        ← byteOffset_succ hrest.symm]
      exact leftmost?_comment text rest (n + 1) (some c) (eq_drop_succ hrest)

/-- Behind a comment, the next ones are looked for. -/
theorem commentsFrom_eq_cons {text : List Char} {r : TextRange} {rs : List TextRange} :
    ∀ {rest : List Char} {n : Nat}, rest = text.drop n → commentsFrom n 0 rest = r :: rs →
      n ≤ r.start ∧ r.start < r.stop ∧ r.stop ≤ text.length ∧
        rs = commentsFrom r.stop 0 (text.drop r.stop)
  | [], n, hrest, h => by simp [commentsFrom] at h
  | c :: rest, n, hrest, h => by
    cases hlength : commentLength? (c :: rest) with
    | some length =>
      have hseven := seven_le_of_commentLength? hlength
      have hle := le_length_of_commentLength? hlength
      rw [hrest, List.length_drop] at hle
      rw [commentsFrom_of_some hlength] at h
      obtain ⟨rfl, rfl⟩ := List.cons.inj h
      refine ⟨Nat.le_refl _, by show n < n + length; omega, by show n + length ≤ _; omega, ?_⟩
      rw [hrest, List.drop_drop]
    | none =>
      rw [commentsFrom_of_none hlength] at h
      obtain ⟨hstart, hrange⟩ := commentsFrom_eq_cons (eq_drop_succ hrest) h
      exact ⟨by omega, hrange⟩

/-- **The matches are the comments**, from any place on. -/
theorem matchesFrom_comment (text : List Char) :
    ∀ (fuel : Nat) (taken : Bool) (n : Nat) (p : Place), p.IsAt text n → text.length - n < fuel →
      commentProgram.matchesFrom fuel taken p =
        (commentsFrom n 0 (text.drop n)).map (TextRange.bytes text)
  | 0, taken, n, p, hp, hfuel => by omega
  | fuel + 1, taken, n, p, hp, hfuel => by
    rw [Program.matchesFrom, Program.match?_eq_leftmost?, hp.rest_eq, hp.pos_eq,
      leftmost?_comment text _ n _ rfl]
    cases hcomments : commentsFrom n 0 (text.drop n) with
    | nil => rfl
    | cons r rs =>
      obtain ⟨hstart, hlt, hstop, hrs⟩ := commentsFrom_eq_cons rfl hcomments
      have hbytes := byteOffset_lt hlt hstop
      have hbehind := byteOffset_lt (Nat.lt_of_le_of_lt hstart hlt) hstop
      have hgo := hp.goTo (Nat.le_trans hstart (Nat.le_of_lt hlt)) hstop
      simp only [List.head?_cons, Option.map_some, TextRange.bytes, List.map_cons]
      rw [if_neg (by simp; omega), if_neg (by simp; omega),
        matchesFrom_comment text fuel true r.stop _ hgo (by omega), ← hrs]

/-- **The comments of a text** are the ranges of the matches. -/
theorem matchRanges_commentPattern (text : String) :
    matchRanges text commentPattern = .ok (commentsFrom 0 0 text.toList) := by
  refine matchRanges_eq_ok_iff.2 ⟨commentProgram, compile_commentPattern, ?_⟩
  have hfound := matchesFrom_comment text.toList (text.toList.length + 1) false 0 _
    (Place.isAt_start text.toList) (by omega)
  refine (Search.ranges_eq hfound fun r hr => ?_).symm
  simpa using (mem_commentsFrom hr).2

/-! ## Taking comments out

All that was said of comments, by the scan, by the search and line by line, is said again of the
function that the program calls. -/

/-- What is known of `kept`, the text that is left when comments are taken out of `text`. -/
structure StripsTo (text kept : String) : Prop where
  /-- It is what the scan from left to right keeps, and the scan has no other outcome. -/
  scanned_iff : ∀ other, Scanned text.toList other ↔ other = kept.toList
  /-- It is what is left when every match of the pattern is replaced by nothing. -/
  replaced : ∃ rs, matchRanges text commentPattern = .ok rs ∧
    kept.toList = replaceAll text.toList text.toList.length (rs.map fun r => (r, [])).reverse ∧
    (hasComment text = true ↔ rs ≠ [])
  /-- Comments are taken out line by line. -/
  pieces_eq : pieces kept.toList =
    (pieces text.toList).map fun line => (withoutComments (String.ofList line)).toList
  /-- Every line feed is kept. -/
  count_eq : kept.toList.count '\n' = text.toList.count '\n'
  /-- It is another text than before exactly if there was a comment. -/
  changed_iff : hasComment text = true ↔ kept ≠ text

theorem toList_withoutComments (text : String) :
    (withoutComments text).toList = stripFrom 0 text.toList := by
  rw [withoutComments, String.toList_ofList]

/-- **Taking comments out.** -/
theorem stripsTo_withoutComments (text : String) : StripsTo text (withoutComments text) := by
  have hpieces := pieces_stripFrom text.toList
  constructor
  case scanned_iff =>
    intro other
    rw [toList_withoutComments, scanned_iff]
  case replaced =>
    refine ⟨_, matchRanges_commentPattern text, ?_, ?_⟩
    · rw [toList_withoutComments, stripFrom_eq_replaceAll]
    · rw [hasComment, Ne, commentsFrom_eq_nil_iff, Bool.not_eq_false]
  case pieces_eq =>
    simpa only [toList_withoutComments, String.toList_ofList] using hpieces
  case count_eq =>
    have hlength := congrArg List.length hpieces
    rw [List.length_map, length_pieces, length_pieces] at hlength
    rw [toList_withoutComments]
    omega
  case changed_iff =>
    rw [hasComment]
    constructor
    · intro hcomment heq
      have hlt := length_stripFrom_lt hcomment
      rw [← toList_withoutComments, heq] at hlt
      omega
    · intro hne
      by_contra hnone
      refine hne (String.toList_inj.1 ?_)
      rw [toList_withoutComments, stripFrom_eq_self (by simpa using hnone)]

/-- What is left around a comment is not looked at again, even if it looks like one. -/
example : withoutComments "<!<!-- a -->-- b -->" = "<!-- b -->" := by decide +kernel

end Text
end Proofreader
