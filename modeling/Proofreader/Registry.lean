/-!
# Registries

A `Registry` keeps one value for each of some documents.  It is a list of pairs in which no document
occurs twice.  The order of the list is only where values were put; nothing that is shown depends on
it, and names are sorted where they are listed.
-/

set_option autoImplicit false

namespace Proofreader

/-- The identity of a document, usually its path. -/
abbrev DocumentId := String

/-- Document identities in increasing order. -/
def sortIds (ids : List DocumentId) : List DocumentId := ids.mergeSort fun a b => decide (a ≤ b)

/-- One value for each of some documents. -/
structure Registry (α : Type) where
  /-- The documents with their values. -/
  entries : List (DocumentId × α)
  /-- No document occurs twice. -/
  nodup : (entries.map (·.1)).Nodup

namespace Registry

variable {α : Type}

/-- The value of a document in a list of pairs. -/
def lookup (id : DocumentId) : List (DocumentId × α) → Option α
  | [] => none
  | (name, a) :: rest => if name = id then some a else lookup id rest

/-- A list of pairs with a value put in the place of a document, or at the end. -/
def put (id : DocumentId) (a : α) : List (DocumentId × α) → List (DocumentId × α)
  | [] => [(id, a)]
  | (name, b) :: rest => if name = id then (id, a) :: rest else (name, b) :: put id a rest

/-- A list of pairs without a document. -/
def drop (id : DocumentId) (entries : List (DocumentId × α)) : List (DocumentId × α) :=
  entries.filter fun entry => entry.1 != id

theorem mem_put_names {id name : DocumentId} {a : α} {entries : List (DocumentId × α)} :
    name ∈ (put id a entries).map (·.1) ↔ name = id ∨ name ∈ entries.map (·.1) := by
  induction entries with
  | nil => simp [put]
  | cons entry rest ih =>
    obtain ⟨n, b⟩ := entry
    unfold put
    split
    · subst_vars; simp
    · simp only [List.map_cons, List.mem_cons, ih]
      grind

theorem nodup_put {id : DocumentId} {a : α} {entries : List (DocumentId × α)}
    (h : (entries.map (·.1)).Nodup) : ((put id a entries).map (·.1)).Nodup := by
  induction entries with
  | nil => simp [put]
  | cons entry rest ih =>
    obtain ⟨n, b⟩ := entry
    simp only [List.map_cons, List.nodup_cons] at h
    unfold put
    split
    · subst_vars; simpa using h
    · simp only [List.map_cons, List.nodup_cons]
      refine ⟨fun hmem => ?_, ih h.2⟩
      rcases mem_put_names.1 hmem with rfl | hmem
      · contradiction
      · exact h.1 hmem

theorem nodup_drop {id : DocumentId} {entries : List (DocumentId × α)}
    (h : (entries.map (·.1)).Nodup) : ((drop id entries).map (·.1)).Nodup :=
  h.sublist ((List.filter_sublist).map _)

/-- The registry without documents. -/
def empty : Registry α := ⟨[], List.nodup_nil⟩

/-- The value of a document, if it has one. -/
def find? (r : Registry α) (id : DocumentId) : Option α := lookup id r.entries

/-- Whether a document has a value. -/
def contains (r : Registry α) (id : DocumentId) : Bool := (r.find? id).isSome

/-- The registry with a value for a document, in place of the one it had. -/
def insert (r : Registry α) (id : DocumentId) (a : α) : Registry α :=
  ⟨put id a r.entries, nodup_put r.nodup⟩

/-- The registry without a document. -/
def erase (r : Registry α) (id : DocumentId) : Registry α :=
  ⟨drop id r.entries, nodup_drop r.nodup⟩

/-- How many documents have a value. -/
def size (r : Registry α) : Nat := r.entries.length

/-- Whether no document has a value. -/
def isEmpty (r : Registry α) : Bool := r.entries.isEmpty

/-- The documents that have a value. -/
def names (r : Registry α) : List DocumentId := r.entries.map (·.1)

/-- The documents that have a value, sorted. -/
def sortedNames (r : Registry α) : List DocumentId := sortIds r.names

/-! ## What the operations do to the values -/

theorem lookup_put (id other : DocumentId) (a : α) (entries : List (DocumentId × α)) :
    lookup other (put id a entries) = if id = other then some a else lookup other entries := by
  induction entries with
  | nil => simp [put, lookup]
  | cons entry rest ih =>
    obtain ⟨n, b⟩ := entry
    unfold put
    split <;> simp only [lookup, ih] <;> grind

theorem lookup_drop (id other : DocumentId) (entries : List (DocumentId × α)) :
    lookup other (drop id entries) = if id = other then none else lookup other entries := by
  induction entries with
  | nil => simp [drop, lookup]
  | cons entry rest ih =>
    obtain ⟨n, b⟩ := entry
    unfold drop at ih ⊢
    simp only [List.filter_cons]
    split <;> simp only [lookup, ih] <;> grind

@[simp] theorem find?_empty (id : DocumentId) : (empty : Registry α).find? id = none := rfl

theorem find?_insert (r : Registry α) (id other : DocumentId) (a : α) :
    (r.insert id a).find? other = if id = other then some a else r.find? other :=
  lookup_put id other a r.entries

theorem find?_erase (r : Registry α) (id other : DocumentId) :
    (r.erase id).find? other = if id = other then none else r.find? other :=
  lookup_drop id other r.entries

theorem lookup_isSome_iff (id : DocumentId) (entries : List (DocumentId × α)) :
    (lookup id entries).isSome = true ↔ id ∈ entries.map (·.1) := by
  induction entries with
  | nil => simp [lookup]
  | cons entry rest ih =>
    obtain ⟨n, b⟩ := entry
    simp only [lookup, List.map_cons, List.mem_cons]
    split <;> grind

/-- The names are the documents with a value. -/
theorem mem_names (r : Registry α) (id : DocumentId) :
    id ∈ r.names ↔ (r.find? id).isSome = true :=
  (lookup_isSome_iff id r.entries).symm

end Registry
end Proofreader
