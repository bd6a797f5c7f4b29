import Proofreader.Registry

/-!
# Registries as maps

What is in a registry can be said of its entries and of the value that it finds.  The two agree,
since no document occurs twice (`find?_eq_some_iff`).

The value that is found is what nearly all else is about: two registries that find the same are the
same registry for everyone who asks for documents by name, and `find?_insert` and `find?_erase` are
all that is known of how one changes.  The entries themselves matter in two places only.  A listing
goes through them, and it is sorted, so that the order of the entries is gone again
(`sortedNames_of_perm`: sorting has one result, because the order of names is antisymmetric).  And
whoever makes a step of all entries has to know that its outcome does not depend on their order;
`insert_perm` and `erase_perm` carry that through the two changes.
-/

set_option autoImplicit false

namespace Proofreader

theorem sortIds_perm (ids : List DocumentId) : (sortIds ids).Perm ids := List.mergeSort_perm _ _

theorem sortIds_pairwise (ids : List DocumentId) : (sortIds ids).Pairwise (· ≤ ·) := by
  have htrans : ∀ a b c : DocumentId, decide (a ≤ b) = true → decide (b ≤ c) = true →
      decide (a ≤ c) = true := fun a b c hab hbc =>
    decide_eq_true (String.le_trans (of_decide_eq_true hab) (of_decide_eq_true hbc))
  have htotal : ∀ a b : DocumentId, (decide (a ≤ b) || decide (b ≤ a)) = true := fun a b => by
    rw [Bool.or_eq_true, decide_eq_true_eq, decide_eq_true_eq]
    exact String.le_total a b
  exact (List.pairwise_mergeSort htrans htotal ids).imp of_decide_eq_true

namespace Registry

variable {α : Type}

theorem lookup_eq_some_iff {id : DocumentId} {a : α} {entries : List (DocumentId × α)}
    (h : (entries.map (·.1)).Nodup) : lookup id entries = some a ↔ (id, a) ∈ entries := by
  induction entries with
  | nil => simp [lookup]
  | cons entry rest ih =>
    obtain ⟨name, b⟩ := entry
    rw [List.map_cons, List.nodup_cons] at h
    rw [lookup, List.mem_cons, Prod.mk.injEq]
    split
    · rename_i heq
      subst heq
      have hnot : (name, a) ∉ rest := fun hmem => h.1 (List.mem_map.2 ⟨_, hmem, rfl⟩)
      simp [hnot, eq_comm]
    · rename_i hne
      rw [ih h.2]
      simp [Ne.symm hne]

/-- A document is found with a value exactly if it stands there with it. -/
theorem find?_eq_some_iff (r : Registry α) {id : DocumentId} {a : α} :
    r.find? id = some a ↔ (id, a) ∈ r.entries :=
  lookup_eq_some_iff r.nodup

@[simp] theorem find?_insert_self (r : Registry α) (id : DocumentId) (a : α) :
    (r.insert id a).find? id = some a := by
  rw [find?_insert, if_pos rfl]

theorem find?_insert_of_ne (r : Registry α) {id other : DocumentId} (hne : id ≠ other) (a : α) :
    (r.insert id a).find? other = r.find? other := by
  rw [find?_insert, if_neg hne]

@[simp] theorem find?_erase_self (r : Registry α) (id : DocumentId) :
    (r.erase id).find? id = none := by
  rw [find?_erase, if_pos rfl]

theorem find?_erase_of_ne (r : Registry α) {id other : DocumentId} (hne : id ≠ other) :
    (r.erase id).find? other = r.find? other := by
  rw [find?_erase, if_neg hne]

theorem sortedNames_nodup (r : Registry α) : r.sortedNames.Nodup :=
  (sortIds_perm r.names).nodup_iff.2 r.nodup

theorem sortedNames_pairwise (r : Registry α) : r.sortedNames.Pairwise (· ≤ ·) :=
  sortIds_pairwise r.names

theorem mem_sortedNames (r : Registry α) {id : DocumentId} :
    id ∈ r.sortedNames ↔ (r.find? id).isSome = true :=
  (sortIds_perm r.names).mem_iff.trans (r.mem_names id)

/-! ## The order of the entries

An insertion puts the new value in the place of the old one, or at the end.  Up to the order this is
the new entry in front of all others, so insertions into rearranged registries are compared through
that one form. -/

variable {r r' : Registry α}

/-- Registries with the same entries find the same, in whatever order they keep them. -/
theorem find?_of_perm (h : r'.entries.Perm r.entries) (id : DocumentId) :
    r'.find? id = r.find? id := by
  refine Option.ext fun a => ?_
  rw [find?_eq_some_iff, find?_eq_some_iff, h.mem_iff]

theorem sortedNames_of_perm (h : r'.entries.Perm r.entries) : r'.sortedNames = r.sortedNames := by
  have hnames : r'.names.Perm r.names := h.map Prod.fst
  have hsorted := (sortIds_perm r'.names).trans (hnames.trans (sortIds_perm r.names).symm)
  exact hsorted.eq_of_pairwise (fun a b _ _ => String.le_antisymm) r'.sortedNames_pairwise
    r.sortedNames_pairwise

theorem erase_perm (h : r'.entries.Perm r.entries) (id : DocumentId) :
    (r'.erase id).entries.Perm (r.erase id).entries := h.filter _

/-- What is put in stands where the document stood or at the end; all else stays. -/
theorem insert_perm_cons (r : Registry α) (id : DocumentId) (a : α) :
    (r.insert id a).entries.Perm ((id, a) :: (r.erase id).entries) := by
  obtain ⟨entries, hnodup⟩ := r
  simp only [insert, erase, drop]
  induction entries with
  | nil => exact .refl _
  | cons entry rest ih =>
    obtain ⟨name, b⟩ := entry
    rw [List.map_cons, List.nodup_cons] at hnodup
    rw [put]
    split
    · rename_i heq
      subst heq
      have hkept : ∀ other ∈ rest, (other.1 != name) = true := by
        intro other hother
        rw [bne_iff_ne]
        exact fun heq => hnodup.1 (List.mem_map.2 ⟨other, hother, heq⟩)
      rw [List.filter_cons_of_neg (by simp), List.filter_eq_self.2 hkept]
    · rename_i hne
      rw [List.filter_cons_of_pos (by simpa using hne)]
      exact ((ih hnodup.2).cons _).trans (.swap _ _ _)

theorem insert_perm (h : r'.entries.Perm r.entries) (id : DocumentId) (a : α) :
    (r'.insert id a).entries.Perm (r.insert id a).entries :=
  (r'.insert_perm_cons id a).trans
    (((erase_perm h id).cons (id, a)).trans (r.insert_perm_cons id a).symm)

end Registry
end Proofreader
