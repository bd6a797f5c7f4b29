import Proofreader.Diagnostic
import Proofreader.Registry

/-!
# The record of diagnostics

A `Store` remembers the findings of the last check of each document.  A check replaces the list of a
document as a whole; besides, a single finding is removed when its fix was applied, and the list
goes when the document is closed.  An empty list is a record too: the document was checked.
-/

set_option autoImplicit false

namespace Proofreader

/-- The findings of the last check of each document. -/
structure Store where
  /-- The lists of the documents that have one. -/
  records : Registry (List Diagnostic)

namespace Store

/-- No records. -/
def empty : Store := ⟨.empty⟩

/-- Replace the list of a document. -/
def set (s : Store) (id : DocumentId) (diagnostics : List Diagnostic) : Store :=
  ⟨s.records.insert id diagnostics⟩

/-- The list of a document, empty if it has none. -/
def get (s : Store) (id : DocumentId) : List Diagnostic := (s.records.find? id).getD []

/-- Whether a document has a list. -/
def contains (s : Store) (id : DocumentId) : Bool := s.records.contains id

/-- Remove the first finding of a document that is equal to a given one; the first part of the
result says whether there was one. -/
def removeOne (s : Store) (id : DocumentId) (d : Diagnostic) : Bool × Store :=
  match s.records.find? id with
  | none => (false, s)
  | some diagnostics =>
    if diagnostics.contains d then (true, s.set id (diagnostics.erase d)) else (false, s)

/-- Drop the list of a document. -/
def forget (s : Store) (id : DocumentId) : Store := ⟨s.records.erase id⟩

/-- How many documents have a list. -/
def size (s : Store) : Nat := s.records.size

/-- Whether no document has a list. -/
def isEmpty (s : Store) : Bool := s.records.isEmpty

end Store
end Proofreader
