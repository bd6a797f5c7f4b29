import Proofreader.Text.Offsets

/-!
# Bytes and characters

The search tells its matches in bytes and everything else counts characters.  The bridge between the
two is `byteOffset`: the byte offset at which a character of a text begins.  It grows strictly along
the text, so nothing is lost by it, and `Offsets.charOffset_byteOffset` says that the table of a
text leads back.

* `lowerBound_spec` is about the search by halving alone: what is before its answer lies below the
  target and what is behind does not.
* `getElem?_table` says what stands in the table of a text.
* `Offsets.charOffset_le_iff` is what the two come to: looking up any byte offset.

The two halves know nothing of each other.  The search is about any table that does not fall, and
its recursion is on fuel, with an interval of which the answer is never outside; that the fuel is
enough is the hypothesis `hi - lo ≤ fuel`, kept since the interval loses at least its middle.  The
table is about a text, by induction along it with the number of bytes that came before.

What is said of the answer is an equivalence with `≤` and not an equation.  An offset within a
character stands in no entry, so there is no place whose byte offset it is; but for every place it
is clear whether the answer is beyond it.  An equation for the offsets that do stand in the table
follows (`charOffset_eq`), and so does all that is said of counting in the next module.
-/

set_option autoImplicit false

namespace Proofreader

open Pattern (byteLength)

namespace Pattern

@[simp] theorem byteLength_nil : byteLength [] = 0 := rfl

@[simp] theorem byteLength_cons (c : Char) (rest : List Char) :
    byteLength (c :: rest) = c.utf8Size + byteLength rest := rfl

theorem byteLength_append (a b : List Char) :
    byteLength (a ++ b) = byteLength a + byteLength b := by
  induction a with
  | nil => simp
  | cons c rest ih => rw [List.cons_append, byteLength_cons, byteLength_cons, ih, Nat.add_assoc]

/-- A character takes up at least one byte. -/
theorem length_le_byteLength (text : List Char) : text.length ≤ byteLength text := by
  induction text with
  | nil => simp
  | cons c rest ih =>
    have hc := c.utf8Size_pos
    rw [List.length_cons, byteLength_cons]
    omega

end Pattern

namespace Text

/-! ## The byte offset of a character offset

Places of a text are told by numbers of characters here, and the text that is still to come by
`drop`.  A recursion along a text meets its rest as a list; the lemmas with `rest = text.drop n`
lead from there back to numbers. -/

/-- The byte offset at which the character number `n` of a text begins. -/
def byteOffset (text : List Char) (n : Nat) : Nat := byteLength (text.take n)

theorem byteOffset_length (text : List Char) : byteOffset text text.length = byteLength text := by
  rw [byteOffset, List.take_length]

theorem byteOffset_add (text : List Char) (n k : Nat) :
    byteOffset text (n + k) = byteOffset text n + byteOffset (text.drop n) k := by
  rw [byteOffset, List.take_add, Pattern.byteLength_append, byteOffset, byteOffset]

section StillToCome

variable {text rest : List Char} {n : Nat} {c : Char}

theorem lt_length_of_cons_eq_drop (h : c :: rest = text.drop n) : n < text.length := by
  have hlength := congrArg List.length h
  rw [List.length_cons, List.length_drop] at hlength
  omega

theorem eq_drop_succ (h : c :: rest = text.drop n) : rest = text.drop (n + 1) := by
  rw [← List.drop_drop, ← h, List.drop_one, List.tail_cons]

/-- One character further, in terms of the text that is still to come. -/
theorem byteOffset_succ (h : text.drop n = c :: rest) :
    byteOffset text (n + 1) = byteOffset text n + c.utf8Size := by
  rw [byteOffset_add, h]
  rfl

end StillToCome

/-- Byte offsets grow at every character. -/
theorem byteOffset_lt {text : List Char} {m n : Nat} (h : m < n) (hn : n ≤ text.length) :
    byteOffset text m < byteOffset text n := by
  obtain ⟨k, rfl⟩ := Nat.exists_eq_add_of_lt h
  have hk : k + 1 ≤ byteOffset (text.drop m) (k + 1) := by
    refine Nat.le_trans ?_ (Pattern.length_le_byteLength _)
    simp only [List.length_take, List.length_drop]
    omega
  rw [Nat.add_assoc, byteOffset_add]
  omega

theorem byteOffset_le {text : List Char} {m n : Nat} (h : m ≤ n) (hn : n ≤ text.length) :
    byteOffset text m ≤ byteOffset text n := by
  rcases Nat.eq_or_lt_of_le h with rfl | h
  · exact Nat.le_refl _
  · exact Nat.le_of_lt (byteOffset_lt h hn)

theorem byteOffset_le_byteLength (text : List Char) {n : Nat} (h : n ≤ text.length) :
    byteOffset text n ≤ byteLength text :=
  byteOffset_length text ▸ byteOffset_le h (Nat.le_refl _)

/-! ## The table -/

theorem length_charStarts (text : List Char) (pos : Nat) :
    (charStarts pos text).length = text.length := by
  induction text generalizing pos with
  | nil => rfl
  | cons c rest ih => rw [charStarts, List.length_cons, ih, List.length_cons]

/-- The table of a text that begins behind `pos` bytes, closed by the offset of its end. -/
theorem getElem?_charStarts (text : List Char) (pos n : Nat) (h : n ≤ text.length) :
    (charStarts pos text ++ [pos + byteLength text])[n]? = some (pos + byteOffset text n) := by
  induction text generalizing pos n with
  | nil =>
    obtain rfl : n = 0 := by simpa using h
    rfl
  | cons c rest ih =>
    cases n with
    | zero => rfl
    | succ n =>
      have hn : n ≤ rest.length := by simpa using h
      rw [charStarts, List.cons_append, List.getElem?_cons_succ, Pattern.byteLength_cons,
        ← Nat.add_assoc, ih _ _ hn, byteOffset, byteOffset, List.take_succ_cons,
        Pattern.byteLength_cons, Nat.add_assoc]

namespace Offsets

@[simp] theorem size_table (text : List Char) : (ofText text).table.size = text.length + 1 := by
  simp [ofText, length_charStarts]

/-- The table holds the byte offset of every place, that of the end included. -/
theorem getElem?_table (text : List Char) (n : Nat) (h : n ≤ text.length) :
    (ofText text).table[n]? = some (byteOffset text n) := by
  have := getElem?_charStarts text 0 n h
  simpa [ofText] using this

/-! ## The search by halving

An index outside of the table reads as 0 in the definition.  The lemma shows why that does no harm:
the search never reads there. -/

variable {table : Array Nat} {x : Nat}

/-- What the search by halving answers, if the table does not fall: all before the answer lies below
the target, and nothing from the answer on does.  The interval shrinks around the answer: what is
before it is below the target, what is behind it is not. -/
theorem lowerBound_spec (hmono : ∀ i j, i ≤ j → j < table.size → table.getD i 0 ≤ table.getD j 0) :
    ∀ (fuel lo hi : Nat), hi - lo ≤ fuel → lo ≤ hi → hi ≤ table.size →
      (∀ i, i < lo → table.getD i 0 < x) →
      (∀ i, hi ≤ i → i < table.size → x ≤ table.getD i 0) →
      lowerBound table x fuel lo hi ≤ table.size ∧
      (∀ i, i < lowerBound table x fuel lo hi → table.getD i 0 < x) ∧
      (∀ i, lowerBound table x fuel lo hi ≤ i → i < table.size → x ≤ table.getD i 0)
  | 0, lo, hi, hfuel, hle, hsize, hlow, hhigh => by
    obtain rfl : lo = hi := by omega
    exact ⟨hsize, hlow, hhigh⟩
  | fuel + 1, lo, hi, hfuel, hle, hsize, hlow, hhigh => by
    rw [lowerBound]
    split
    · rename_i hlt
      have hmid : lo + (hi - lo) / 2 < hi := by omega
      dsimp only
      split
      · rename_i hbelow
        refine lowerBound_spec hmono fuel _ hi (by omega) (by omega) hsize (fun i hi' => ?_) hhigh
        have := hmono i (lo + (hi - lo) / 2) (by omega) (by omega)
        omega
      · rename_i habove
        refine lowerBound_spec hmono fuel lo _ (by omega) (by omega) (by omega) hlow
          (fun i hi' hi'' => ?_)
        have := hmono (lo + (hi - lo) / 2) i hi' hi''
        omega
    · obtain rfl : lo = hi := by omega
      exact ⟨hsize, hlow, hhigh⟩

theorem getD_table (text : List Char) (n : Nat) (h : n ≤ text.length) :
    (ofText text).table.getD n 0 = byteOffset text n := by
  rw [Array.getD_eq_getD_getElem?, getElem?_table text n h, Option.getD_some]

/-- The table does not fall. -/
theorem getD_table_le (text : List Char) (m n : Nat) (h : m ≤ n)
    (hn : n < (ofText text).table.size) :
    (ofText text).table.getD m 0 ≤ (ofText text).table.getD n 0 := by
  rw [size_table] at hn
  rw [getD_table text m (by omega), getD_table text n (by omega)]
  exact byteOffset_le h (by omega)

/-- **Looking up a byte offset**: the answer is the first place that is not before it, when what is
behind the text counts as its end. -/
theorem charOffset_le_iff {text : List Char} {x n : Nat} (h : n ≤ text.length) :
    (ofText text).charOffset x ≤ n ↔ min x (Pattern.byteLength text) ≤ byteOffset text n := by
  obtain ⟨-, hbelow, habove⟩ := lowerBound_spec (x := min x (ofText text).byteLength)
    (getD_table_le text) (ofText text).table.size 0 (ofText text).table.size (by omega) (by omega)
    (Nat.le_refl _) (by omega) (by omega)
  rw [charOffset, ← getD_table text n h]
  constructor
  · intro hle
    refine habove n hle ?_
    rw [size_table]
    omega
  · intro hle
    refine Nat.le_of_not_lt fun hlt => ?_
    exact Nat.not_lt.2 hle (hbelow n hlt)

theorem charOffset_le_length (text : List Char) (x : Nat) :
    (ofText text).charOffset x ≤ text.length := by
  rw [charOffset_le_iff (Nat.le_refl _), byteOffset_length]
  exact Nat.min_le_right _ _

/-- A place that has the byte offset looked up is the answer. -/
theorem charOffset_eq {text : List Char} {x n : Nat} (h : n ≤ text.length)
    (hx : min x (Pattern.byteLength text) = byteOffset text n) :
    (ofText text).charOffset x = n := by
  have hle : (ofText text).charOffset x ≤ n := (charOffset_le_iff h).2 (Nat.le_of_eq hx)
  refine Nat.le_antisymm hle (Nat.le_of_not_lt fun hlt => ?_)
  have hback := (charOffset_le_iff (charOffset_le_length text x)).1 (Nat.le_refl _)
  have := byteOffset_lt hlt h
  omega

/-- **The table leads back**: looking up the byte offset of a place gives the place. -/
theorem charOffset_byteOffset {text : List Char} {n : Nat} (h : n ≤ text.length) :
    (ofText text).charOffset (byteOffset text n) = n :=
  charOffset_eq h (Nat.min_eq_left (byteOffset_le_byteLength text h))

end Offsets
end Text
end Proofreader
