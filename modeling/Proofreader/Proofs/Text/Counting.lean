import Mathlib.Data.Finset.Card
import Mathlib.Data.Set.Function
import Mathlib.Order.Lattice.Nat
import Proofreader.Proofs.Text.Offsets

/-!
# Counting characters by bytes

The table of a text is there to count: of the characters of the text, how many begin before a byte
offset.  `Text.charsBefore` says so without a table, and `Offsets.Counts` is what a table is good
for.

How the table is searched does not matter.  A search may answer with the place where the offset
stands or, if it stands nowhere, with the place where it could be put in (`Text.SearchAnswer`).  In
the table of a text both are the same count, since no entry is there twice and the last entry is not
below any offset that is looked for.

The last entry is the end of the text, which is no character.  An offset behind the end is cut down
to it first, and is then found there, with the number of characters as its index; were it not cut
down, it would be put in behind the last entry, and the answer would be one too many.

All the laws come from one lemma (`charsBefore_eq_range`): the characters that begin before an
offset are the first ones, as many as the answer says.  It turns the count into a comparison of
places, and that is `charOffset_le_iff` again.  So the laws on beginnings of a text, on offsets
within a character and on offsets behind the end differ only in which place they compare with.
-/

set_option autoImplicit false

namespace Proofreader
namespace Text

/-- The size of a text in bytes is that of its characters together. -/
theorem utf8ByteSize_ofList (text : List Char) :
    (String.ofList text).utf8ByteSize = Pattern.byteLength text := by
  induction text with
  | nil => rfl
  | cons c rest ih =>
    rw [String.ofList_cons, String.utf8ByteSize_append, String.utf8ByteSize_singleton, ih,
      Pattern.byteLength_cons]

theorem byteLength_toList (text : String) :
    Pattern.byteLength text.toList = text.utf8ByteSize := by
  rw [← utf8ByteSize_ofList, String.ofList_toList]

/-- A beginning of a text ends at a place of the text, and that has its size before it. -/
theorem byteOffset_of_append {text before behind : String} (h : text = before ++ behind) :
    before.length ≤ text.toList.length ∧
      byteOffset text.toList before.length = before.utf8ByteSize := by
  subst h
  rw [← String.length_toList, String.toList_append, byteOffset, List.take_left, byteLength_toList]
  exact ⟨List.length_append ▸ Nat.le_add_right _ _, rfl⟩

/-- The characters of a text, by their numbers, that begin before a byte offset. -/
def charsBefore (text : List Char) (x : Nat) : Finset Nat :=
  (Finset.range text.length).filter fun n => byteOffset text n < x

/-- What a search of a table may answer, if no entry is there twice. -/
inductive SearchAnswer (table : Array Nat) (x : Nat) : Nat → Prop
  /-- The target stands there. -/
  | hit {i : Nat} : table[i]? = some x → SearchAnswer table x i
  /-- The target stands nowhere, and there it can be put in: what is before is below it, and what
  is from there on is not. -/
  | miss {i : Nat} : i ≤ table.size → x ∉ table →
      (∀ n entry, table[n]? = some entry → (n < i ↔ entry < x)) → SearchAnswer table x i

/-- Between two characters of a text, or at one of its ends, there are `x` bytes before. -/
def IsBoundary (text : String) (x : Nat) : Prop :=
  ∃ before behind, text = before ++ behind ∧ x = before.utf8ByteSize

namespace Offsets

/-- What is said of looking up byte offsets of a text in a table. -/
structure Counts (offsets : Offsets) (text : String) : Prop where
  /-- The answer is the number of the characters that begin before the offset, or before the end of
  the text if the offset is behind it. -/
  count_eq : ∀ x,
    offsets.charOffset x = (charsBefore text.toList (min x text.utf8ByteSize)).card
  /-- It is what any search of the table answers, whether the offset is found or not. -/
  answer_iff : ∀ x i,
    SearchAnswer offsets.table (min x text.utf8ByteSize) i ↔ offsets.charOffset x = i
  /-- Further on in the bytes is not further back in the characters. -/
  monotone : Monotone offsets.charOffset
  /-- The size of a beginning of the text leads to the number of its characters. -/
  boundary_eq : ∀ before behind, text = before ++ behind →
    offsets.charOffset before.utf8ByteSize = before.length
  /-- Between characters no two offsets are taken for the same. -/
  injOn : Set.InjOn offsets.charOffset {x | IsBoundary text x}
  /-- Within a character the answer is the place behind it. -/
  within_eq : ∀ before c behind x, text = before ++ String.singleton c ++ behind →
    before.utf8ByteSize < x → x < before.utf8ByteSize + c.utf8Size →
    offsets.charOffset x = before.length + 1
  /-- Behind the text it is the end of the text. -/
  behind_eq : ∀ x, text.utf8ByteSize ≤ x → offsets.charOffset x = text.length

variable {text : List Char} {x n : Nat}

/-- The places in front of the answer are those before the offset. -/
theorem lt_charOffset_iff (h : n ≤ text.length) : n < (ofText text).charOffset x ↔
    byteOffset text n < min x (Pattern.byteLength text) := by
  rw [← Nat.not_le, charOffset_le_iff h, Nat.not_le]

/-- The characters that begin before an offset are the first ones. -/
theorem charsBefore_eq_range (text : List Char) (x : Nat) :
    charsBefore text (min x (Pattern.byteLength text)) =
      Finset.range ((ofText text).charOffset x) := by
  ext n
  rw [charsBefore, Finset.mem_filter, Finset.mem_range, Finset.mem_range]
  constructor
  · rintro ⟨hn, hlt⟩
    exact (lt_charOffset_iff hn.le).2 hlt
  · intro hlt
    have hn : n < text.length := hlt.trans_le (charOffset_le_length text x)
    exact ⟨hn, (lt_charOffset_iff hn.le).1 hlt⟩

theorem charOffset_mono (text : List Char) : Monotone (ofText text).charOffset := by
  intro x y hxy
  have hy := charOffset_le_length text y
  rw [charOffset_le_iff hy]
  exact (min_le_min_right _ hxy).trans ((charOffset_le_iff hy).1 le_rfl)

/-- An entry of the table is the byte offset of its place. -/
theorem getElem?_table_eq_some_iff {entry : Nat} :
    (ofText text).table[n]? = some entry ↔ n ≤ text.length ∧ byteOffset text n = entry := by
  constructor
  · intro h
    have hn : n ≤ text.length := by
      obtain ⟨hn, -⟩ := Array.getElem?_eq_some_iff.1 h
      rwa [size_table, Nat.lt_succ_iff] at hn
    exact ⟨hn, Option.some_inj.1 ((getElem?_table text n hn).symm.trans h)⟩
  · rintro ⟨hn, rfl⟩
    exact getElem?_table text n hn

/-- **Found or not, the answer is the same count.** -/
theorem searchAnswer_iff {i : Nat} :
    SearchAnswer (ofText text).table (min x (Pattern.byteLength text)) i ↔
      (ofText text).charOffset x = i := by
  have hanswer := charOffset_le_length text x
  constructor
  · rintro (hhit | ⟨hi, -, hmiss⟩)
    · obtain ⟨hi, heq⟩ := getElem?_table_eq_some_iff.1 hhit
      exact charOffset_eq hi heq.symm
    · -- the last entry is not below the offset, so the place is not behind it
      have hlast := hmiss text.length _ (getElem?_table text _ le_rfl)
      rw [byteOffset_length] at hlast
      have hi : i ≤ text.length := Nat.le_of_not_lt fun hlt =>
        absurd (hlast.1 hlt) (Nat.not_lt.2 (min_le_right _ _))
      refine le_antisymm ((charOffset_le_iff hi).2 ?_) (Nat.le_of_not_lt fun hlt => ?_)
      · exact Nat.not_lt.1 fun hbelow =>
          lt_irrefl i ((hmiss i _ (getElem?_table text i hi)).2 hbelow)
      · exact absurd ((hmiss _ _ (getElem?_table text _ hanswer)).1 hlt)
          (Nat.not_lt.2 ((charOffset_le_iff hanswer).1 le_rfl))
  · rintro rfl
    by_cases hmem : min x (Pattern.byteLength text) ∈ (ofText text).table
    · obtain ⟨i, hi⟩ := Array.mem_iff_getElem?.1 hmem
      obtain ⟨hle, heq⟩ := getElem?_table_eq_some_iff.1 hi
      exact .hit (charOffset_eq hle heq.symm ▸ hi)
    · refine .miss ?_ hmem fun n entry hn => ?_
      · rw [size_table]
        exact hanswer.trans (Nat.le_succ _)
      · obtain ⟨hle, rfl⟩ := getElem?_table_eq_some_iff.1 hn
        exact lt_charOffset_iff hle

/-- **The table of a text counts its characters.** -/
theorem counts_ofText (text : String) : (ofText text.toList).Counts text := by
  have hboundary : ∀ before behind, text = before ++ behind →
      (ofText text.toList).charOffset before.utf8ByteSize = before.length := by
    intro before behind h
    obtain ⟨hle, hbytes⟩ := byteOffset_of_append h
    rw [← hbytes, charOffset_byteOffset hle]
  refine ⟨fun x => ?_, fun x i => ?_, charOffset_mono _, hboundary, ?_, ?_, fun x hx => ?_⟩
  · rw [← byteLength_toList, charsBefore_eq_range, Finset.card_range]
  · rw [← byteLength_toList]
    exact searchAnswer_iff
  · rintro x ⟨before, behind, h, rfl⟩ y ⟨before', behind', h', rfl⟩ heq
    rw [hboundary _ _ h, hboundary _ _ h'] at heq
    rw [← (byteOffset_of_append h).2, heq, (byteOffset_of_append h').2]
  · intro before c behind x h hbefore hx
    have hfirst := byteOffset_of_append (h.trans String.append_assoc)
    have hnext := byteOffset_of_append h
    rw [String.length_append, String.length_singleton, String.utf8ByteSize_append,
      String.utf8ByteSize_singleton] at hnext
    have hend := byteOffset_le_byteLength text.toList hnext.1
    refine le_antisymm ((charOffset_le_iff hnext.1).2 ?_) (Nat.lt_of_not_le fun hle => ?_)
    · omega
    · have := (charOffset_le_iff hfirst.1).1 hle
      omega
  · rw [← String.length_toList]
    refine charOffset_eq le_rfl ?_
    rw [byteOffset_length, byteLength_toList, Nat.min_eq_right hx]

/-- The second character takes up the bytes from 1 to 5.  An offset within it is in no entry of the
table, and is that of the third character. -/
theorem counts_ofText_wave :
    let offsets := ofText "a👋b".toList
    offsets.charOffset 3 = 2 ∧ SearchAnswer offsets.table 3 2 ∧ 3 ∉ offsets.table ∧
      (charsBefore "a👋b".toList 3).card = 2 ∧ offsets.charOffset 100 = 3 ∧
      offsets.charOffset 1 ≠ offsets.charOffset 5 := by
  intro offsets
  have laws := counts_ofText "a👋b"
  have hwithin : offsets.charOffset 3 = 2 :=
    laws.within_eq "a" '👋' "b" 3 (by decide +kernel) (by decide +kernel) (by decide +kernel)
  have hsize : min 3 "a👋b".utf8ByteSize = 3 := by decide +kernel
  refine ⟨hwithin, hsize ▸ (laws.answer_iff 3 2).2 hwithin, by decide +kernel,
    hsize ▸ (laws.count_eq 3).symm.trans hwithin, laws.behind_eq 100 (by decide +kernel),
    fun heq => ?_⟩
  have h1 : IsBoundary "a👋b" 1 := ⟨"a", "👋b", by decide +kernel, by decide +kernel⟩
  have h5 : IsBoundary "a👋b" 5 := ⟨"a👋", "b", by decide +kernel, by decide +kernel⟩
  exact absurd (laws.injOn h1 h5 heq) (by decide)

end Offsets
end Text
end Proofreader
