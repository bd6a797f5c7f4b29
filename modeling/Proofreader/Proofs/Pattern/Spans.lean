import Proofreader.Pattern.Match
import Proofreader.Proofs.Text.Offsets
import Proofreader.Text.Range

/-!
# Where matches lie

Matches are told in bytes, so nothing in their type says that they begin and end between characters,
that they lie in the text, or that they follow each other.  This file proves it, of every program
and every text (`Program.matchesIn_ranges`): the matches are the byte spans of a list of character
ranges that lie in the text and ascend.

* `Place.IsAt` says which character a place stands before.
* The search carries along where each way began.  The lemmas on `follow`, `advance` and
  `acceptAtEnd` say that no start is ever made up, for any property of starts.
* `Program.run_within` is the invariant of the search for one match, `Program.matchesFrom_ranges`
  that of the search for all.

Nothing here depends on which way is preferred, nor on how a program came about.  A match is written
down as two byte offsets, and both were the offset of a place at which the search stood: the second
one when the match was found, the first one when its way was begun.  So it is enough to know of
every way that is alive that it was begun at a place which the search came to, and the instructions
between the two are of no concern.  A program that was put together wrongly would find other
matches, but it would find them between characters.

That matches follow each other needs one more fact, for which the search for all matches keeps a
flag.  Behind a match that is not empty the search goes on right where it ended, so the next match
could be an empty one there, and end where the last one did.  Such a match is passed over, but only
there: one character further on an empty match counts.  `RangesFrom` has the flag as a parameter;
`RangesFrom.cons` is for a match that counts, and `RangesFrom.of_succ` for one that does not.
-/

set_option autoImplicit false

namespace Proofreader

open Text (byteOffset byteOffset_lt byteOffset_le byteOffset_succ eq_drop_succ
  lt_length_of_cons_eq_drop)

/-! ## Ranges that follow each other

It is not enough to ask that a range begins where the one before it ends or later: an empty range
could then be listed twice, or share an end with a neighbour.  The two strict inequalities rule
this out, and since they are what the search for companions goes by, `Side.anchor_lt` needs
nothing more. -/

namespace TextRange

/-- The range does not run backwards, and ends within a text of `n` characters. -/
structure LiesIn (r : TextRange) (n : Nat) : Prop where
  /-- It does not run backwards. -/
  start_le_stop : r.start ≤ r.stop
  /-- It ends within the text. -/
  stop_le : r.stop ≤ n

/-- The range `b` comes behind `a`: it begins where `a` ends or later, and an empty range counts as
one that comes behind or before only if it is not in the same place as an end of the other. -/
structure ComesBefore (a b : TextRange) : Prop where
  /-- They have no characters in common. -/
  stop_le_start : a.stop ≤ b.start
  /-- They do not begin at the same place. -/
  start_lt : a.start < b.start
  /-- They do not end at the same place. -/
  stop_lt : a.stop < b.stop

/-- Each range comes behind all before it. -/
def Ascending (rs : List TextRange) : Prop := rs.Pairwise ComesBefore

/-- The bytes of a range of characters. -/
def bytes (text : List Char) (r : TextRange) : Pattern.ByteSpan :=
  ⟨byteOffset text r.start, byteOffset text r.stop⟩

end TextRange

namespace Pattern

/-! ## Places

A place is told by the bytes before it, and `seek` walks until it has passed as many.  A byte
offset inside of a character would be walked past, which is why `IsAt.goTo` is about the offset
of a place. -/

/-- The place stands before the character number `n` of a text, or at its end. -/
structure Place.IsAt (text : List Char) (n : Nat) (p : Place) : Prop where
  /-- The place is in the text. -/
  le : n ≤ text.length
  /-- It counts the bytes before it. -/
  pos_eq : p.pos = byteOffset text n
  /-- The text after it is what comes behind. -/
  rest_eq : p.rest = text.drop n

namespace Place

variable {text : List Char} {n : Nat} {p : Place}

theorem isAt_start (text : List Char) : (Place.start text).IsAt text 0 := ⟨by simp, rfl, rfl⟩

theorem IsAt.lt_of_next? (h : p.IsAt text n) {q : Place} (hq : p.next? = some q) :
    n < text.length := by
  rw [next?, h.rest_eq] at hq
  rcases Nat.lt_or_ge n text.length with hlt | hge
  · exact hlt
  · rw [List.drop_eq_nil_of_le hge] at hq
    simp at hq

theorem IsAt.next? (h : p.IsAt text n) {q : Place} (hq : p.next? = some q) :
    q.IsAt text (n + 1) := by
  have hlt := h.lt_of_next? hq
  have hdrop := List.drop_eq_getElem_cons hlt
  rw [Place.next?, h.rest_eq, hdrop, Option.some_inj] at hq
  subst hq
  exact ⟨hlt, by rw [byteOffset_succ hdrop, h.pos_eq], rfl⟩

theorem seek_isAt {k : Nat} (hk : k ≤ text.length) :
    ∀ (rest : List Char) (n : Nat) (before : Option Char), n ≤ k → rest = text.drop n →
      (seek (byteOffset text k) before (byteOffset text n) rest).IsAt text k
  | [], n, before, hn, hrest => by
    have : text.length ≤ n := List.drop_eq_nil_iff.1 hrest.symm
    obtain rfl : n = k := by omega
    exact ⟨hk, rfl, hrest⟩
  | c :: rest, n, before, hn, hrest => by
    rw [seek]
    split
    · rename_i hle
      rcases Nat.eq_or_lt_of_le hn with rfl | hlt
      · exact ⟨hk, rfl, hrest⟩
      · have := byteOffset_lt hlt hk
        omega
    · rename_i hgt
      have hne : n ≠ k := by
        rintro rfl
        exact hgt (Nat.le_refl _)
      rw [← byteOffset_succ hrest.symm]
      exact seek_isAt hk rest (n + 1) (some c) (by omega) (eq_drop_succ hrest)

/-- Going on to the byte offset of a place further on leads to that place. -/
theorem IsAt.goTo (h : p.IsAt text n) {k : Nat} (hn : n ≤ k) (hk : k ≤ text.length) :
    (p.goTo (byteOffset text k)).IsAt text k := by
  rw [Place.goTo, h.pos_eq]
  exact seek_isAt hk p.rest n p.before hn h.rest_eq

end Place

/-! ## The starts of the ways

Let `P` be any property of starts.  If it holds of the starts of all ways, and of the one that is
given to a new way, then it holds of all starts afterwards.  The lemmas are by induction along the
lists that the functions recurse on; the code is looked at only to see which branch is taken. -/

section Starts

variable {P : Nat → Prop} {code : Code} {p : Place} {start : Nat}

/-- Following a way adds only ways with the same start. -/
theorem Frontier.follow_starts (hstart : P start) :
    ∀ (fuel : Nat) (todo : List Nat) (f : Frontier), (∀ t ∈ f.reversed, P t.start) →
      ∀ t ∈ (follow code p start fuel todo f).reversed, P t.start
  | 0, _, f, hf => by rw [follow]; exact hf
  | fuel + 1, [], f, hf => by rw [follow.eq_def]; exact hf
  | fuel + 1, address :: todo, f, hf => by
    rw [follow]
    split
    · exact follow_starts hstart fuel todo f hf
    · dsimp only
      split
      · exact follow_starts hstart fuel _ _ hf
      · split <;> exact follow_starts hstart fuel _ _ hf
      · refine follow_starts hstart fuel _ _ ?_
        rw [List.forall_mem_cons]
        exact ⟨hstart, hf⟩

theorem Frontier.add_starts (hstart : P start) {f : Frontier} (hf : ∀ t ∈ f.reversed, P t.start)
    (address : Nat) : ∀ t ∈ (f.add code p start address).reversed, P t.start :=
  follow_starts hstart _ _ f hf

/-- Taking a character makes up no start, neither of a way nor of a match. -/
theorem Program.advance_starts (prog : Program) (c : Char) :
    ∀ (threads : List Thread) (f : Frontier), (∀ t ∈ threads, P t.start) →
      (∀ t ∈ f.reversed, P t.start) →
      (∀ t ∈ (prog.advance c p threads f).1.reversed, P t.start) ∧
        ∀ s, (prog.advance c p threads f).2 = some s → P s
  | [], f, _, hf => by rw [advance]; exact ⟨hf, by simp⟩
  | t :: threads, f, hts, hf => by
    obtain ⟨ht, hts⟩ := List.forall_mem_cons.1 hts
    rw [advance]
    split
    · refine ⟨hf, fun s hs => ?_⟩
      rw [← Option.some_inj.1 hs]
      exact ht
    · split
      · exact advance_starts prog c threads _ hts (Frontier.add_starts ht hf _)
      · exact advance_starts prog c threads f hts hf
    · exact advance_starts prog c threads f hts hf

theorem Program.acceptAtEnd_start (prog : Program) {s : Nat} :
    ∀ (threads : List Thread), (∀ t ∈ threads, P t.start) →
      prog.acceptAtEnd threads = some s → P s
  | [], _, h => by simp [acceptAtEnd] at h
  | t :: threads, hts, h => by
    obtain ⟨ht, hts⟩ := List.forall_mem_cons.1 hts
    rw [acceptAtEnd] at h
    split at h
    · rw [← Option.some_inj.1 h]
      exact ht
    · exact acceptAtEnd_start prog threads hts h

end Starts

/-! ## One match

The property that the starts have is `StartsIn`.  Its upper bound moves along with the search, and
weakening it is all there is to a step (`StartsIn.succ`); once a way comes to its end, the bound
says that the match does not run backwards. -/

namespace Program

variable {text : List Char} {lo n : Nat}

/-- A byte offset is that of a place between two others. -/
def StartsIn (text : List Char) (lo n : Nat) (start : Nat) : Prop :=
  ∃ i, lo ≤ i ∧ i ≤ n ∧ start = byteOffset text i

/-- A span is that of a range which begins at a place or behind it and lies in the text. -/
def SpansFrom (text : List Char) (lo : Nat) (m : ByteSpan) : Prop :=
  ∃ r : TextRange, lo ≤ r.start ∧ r.LiesIn text.length ∧ m = r.bytes text

theorem StartsIn.succ {start : Nat} (h : StartsIn text lo n start) :
    StartsIn text lo (n + 1) start := by
  obtain ⟨i, hlo, hn, rfl⟩ := h
  exact ⟨i, hlo, by omega, rfl⟩

/-- What began by now and ends now is a span of the text. -/
theorem StartsIn.spansFrom {start : Nat} (h : StartsIn text lo n start) (hn : n ≤ text.length) :
    SpansFrom text lo ⟨start, byteOffset text n⟩ := by
  obtain ⟨i, hlo, hi, rfl⟩ := h
  exact ⟨⟨i, n⟩, hlo, ⟨hi, hn⟩, rfl⟩

/-- A new way begins where the search is, if one begins at all. -/
theorem begin_starts (prog : Program) {f : Frontier} (p : Place) (best : Option ByteSpan)
    (hlo : lo ≤ n) (hf : ∀ t ∈ f.reversed, StartsIn text lo n t.start) :
    ∀ t ∈ (if best.isNone then f.add prog.code p (byteOffset text n) prog.start else f).reversed,
      StartsIn text lo n t.start := by
  split
  · exact Frontier.add_starts ⟨n, hlo, Nat.le_refl _, rfl⟩ hf _
  · exact hf

/-- **The invariant of the search for one match**: every way began between `lo` and here, so what is
found is the span of a range from `lo` on. -/
theorem run_within (prog : Program) {m : ByteSpan} :
    ∀ (rest : List Char) (n : Nat) (before : Option Char) (f : Frontier) (best : Option ByteSpan),
      rest = text.drop n → lo ≤ n → n ≤ text.length →
      (∀ t ∈ f.reversed, StartsIn text lo n t.start) →
      (∀ b, best = some b → SpansFrom text lo b) →
      prog.run rest before (byteOffset text n) f best = some m → SpansFrom text lo m
  | [], n, before, f, best, _, hlo, hn, hf, hbest, h => by
    have hbegin := begin_starts prog ⟨before, byteOffset text n, []⟩ best hlo hf
    rw [run] at h
    generalize (if best.isNone then _ else f) = g at h hbegin
    split at h
    · rename_i start hstart
      have hfrom := acceptAtEnd_start (P := StartsIn text lo n) prog _
        (fun t ht => hbegin t (List.mem_reverse.1 ht)) hstart
      rw [← Option.some_inj.1 h]
      exact hfrom.spansFrom hn
    · exact hbest m h
  | c :: rest, n, before, f, best, hrest, hlo, hn, hf, hbest, h => by
    have hlt := lt_length_of_cons_eq_drop hrest
    have hdrop := eq_drop_succ hrest
    have hbegin := begin_starts prog ⟨before, byteOffset text n, c :: rest⟩ best hlo hf
    rw [run] at h
    generalize (if best.isNone then _ else f) = g at h hbegin
    dsimp only at h
    split at h
    · exact hbest m h
    · rw [← byteOffset_succ hrest.symm] at h
      have hadv := advance_starts (P := StartsIn text lo n) prog c
        (p := ⟨some c, byteOffset text (n + 1), rest⟩) g.reversed.reverse (.none prog.code.size)
        (fun t ht => hbegin t (List.mem_reverse.1 ht)) (by simp [Frontier.none])
      refine run_within prog rest (n + 1) (some c) _ _ hdrop (by omega) hlt
        (fun t ht => (hadv.1 t ht).succ) (fun b hb => ?_) h
      split at hb
      · rename_i start hstart
        rw [← Option.some_inj.1 hb]
        exact (hadv.2 start hstart).spansFrom hn
      · exact hbest b hb

/-- What is found from a place on is the span of a range from there on. -/
theorem match?_spansFrom (prog : Program) {p : Place} {m : ByteSpan} (hp : p.IsAt text n)
    (h : prog.match? p = some m) : SpansFrom text n m := by
  rw [match?, hp.pos_eq] at h
  exact run_within prog p.rest n p.before _ _ hp.rest_eq (Nat.le_refl _) hp.le
    (by simp [Frontier.none]) (by simp) h

/-! ## All matches -/

/-- What the matches from a place on have in common: they are the spans of ranges that lie in the
text, ascend and begin at the place or behind it, and if the place is `taken` none ends there. -/
structure RangesFrom (text : List Char) (n : Nat) (taken : Bool) (rs : List TextRange) : Prop where
  /-- They lie in the text. -/
  liesIn : ∀ r ∈ rs, r.LiesIn text.length
  /-- They ascend. -/
  ascending : TextRange.Ascending rs
  /-- They begin at the place or behind it. -/
  le_start : ∀ r ∈ rs, n ≤ r.start
  /-- None ends at a place that is taken. -/
  lt_stop : taken = true → ∀ r ∈ rs, n < r.stop

namespace RangesFrom

variable {taken : Bool} {rs : List TextRange}

theorem nil (text : List Char) (n : Nat) (taken : Bool) : RangesFrom text n taken [] :=
  ⟨by simp, List.Pairwise.nil, by simp, by simp⟩

/-- A place further on allows less. -/
theorem of_succ (h : RangesFrom text (n + 1) false rs) : RangesFrom text n taken rs where
  liesIn := h.liesIn
  ascending := h.ascending
  le_start r hr := Nat.le_of_succ_le (h.le_start r hr)
  lt_stop _ r hr := Nat.lt_of_lt_of_le (h.le_start r hr) (h.liesIn r hr).start_le_stop

/-- A range goes before those that begin where it ends or later, unless one of them ends there. -/
theorem cons {r : TextRange} {k : Nat} {taken' : Bool} (h : RangesFrom text k taken' rs)
    (hr : r.LiesIn text.length) (hstart : n ≤ r.start) (hstop : taken = true → n < r.stop)
    (hk : r.start < k) (hk' : r.stop ≤ k) (hstops : ∀ s ∈ rs, r.stop < s.stop) :
    RangesFrom text n taken (r :: rs) where
  liesIn := List.forall_mem_cons.2 ⟨hr, h.liesIn⟩
  ascending := by
    refine List.pairwise_cons.2 ⟨fun s hs => ?_, h.ascending⟩
    have := h.le_start s hs
    exact ⟨by omega, by omega, hstops s hs⟩
  le_start := by
    refine List.forall_mem_cons.2 ⟨hstart, fun s hs => ?_⟩
    have := h.le_start s hs
    omega
  lt_stop ht := by
    refine List.forall_mem_cons.2 ⟨hstop ht, fun s hs => ?_⟩
    have := hstop ht
    have := hstops s hs
    omega

end RangesFrom

/-- **The invariant of the search for all matches.**  Behind a match the search goes on at its end.
If the match is empty, that is one character further; if not, its end is taken, and an empty match
there does not count.  Either way no later match begins or ends with it. -/
theorem matchesFrom_ranges (prog : Program) :
    ∀ (fuel : Nat) (taken : Bool) (n : Nat) (p : Place), p.IsAt text n →
      ∃ rs, prog.matchesFrom fuel taken p = rs.map (TextRange.bytes text) ∧
        RangesFrom text n taken rs
  | 0, taken, n, _, _ => ⟨[], rfl, .nil text n taken⟩
  | fuel + 1, taken, n, p, hp => by
    rw [matchesFrom]
    split
    · exact ⟨[], rfl, .nil text n taken⟩
    · rename_i m hm
      obtain ⟨r, hstart, hr, rfl⟩ := prog.match?_spansFrom hp hm
      have hnr : n ≤ r.stop := Nat.le_trans hstart hr.start_le_stop
      split
      · -- an empty match where the last one ended
        split
        · exact ⟨[], rfl, .nil text n taken⟩
        · rename_i q hq
          obtain ⟨rs, hrs, h⟩ := matchesFrom_ranges prog fuel false (n + 1) q (hp.next? hq)
          exact ⟨rs, hrs, h.of_succ⟩
      · rename_i hskip
        have hstop : taken = true → n < r.stop := by
          intro ht
          have hne : r.stop ≠ n := by
            rintro rfl
            simp [ht, hp.pos_eq, TextRange.bytes] at hskip
          omega
        have hgo : (p.goTo (r.bytes text).stop).IsAt text r.stop := hp.goTo hnr hr.stop_le
        by_cases hempty : r.start = r.stop
        · rw [if_pos (by simp [TextRange.bytes, hempty])]
          split
          · exact ⟨[r], rfl, (RangesFrom.nil text (r.stop + 1) false).cons hr hstart hstop
              (by omega) (by omega) (by simp)⟩
          · rename_i q hq
            obtain ⟨rs, hrs, h⟩ := matchesFrom_ranges prog fuel false _ q (hgo.next? hq)
            refine ⟨r :: rs, by rw [hrs]; rfl, h.cons hr hstart hstop (by omega) (by omega) ?_⟩
            intro s hs
            exact Nat.lt_of_lt_of_le (h.le_start s hs) (h.liesIn s hs).start_le_stop
        · have hlt : r.start < r.stop := Nat.lt_of_le_of_ne hr.start_le_stop hempty
          have hbytes := byteOffset_lt hlt hr.stop_le
          rw [if_neg (by simp only [TextRange.bytes, beq_iff_eq]; omega)]
          obtain ⟨rs, hrs, h⟩ := matchesFrom_ranges prog fuel true r.stop _ hgo
          exact ⟨r :: rs, by rw [hrs]; rfl,
            h.cons hr hstart hstop hlt (Nat.le_refl _) (h.lt_stop rfl)⟩

/-- **Where matches lie**: the matches of a program in a text are the byte spans of character ranges
that lie in the text and ascend. -/
theorem matchesIn_ranges (prog : Program) (text : List Char) :
    ∃ rs : List TextRange, prog.matchesIn text = rs.map (TextRange.bytes text) ∧
      (∀ r ∈ rs, r.LiesIn text.length) ∧ TextRange.Ascending rs := by
  obtain ⟨rs, hrs, h⟩ := matchesFrom_ranges prog (text.length + 1) false 0 _ (Place.isAt_start text)
  exact ⟨rs, hrs, h.liesIn, h.ascending⟩

end Program
end Pattern
end Proofreader
