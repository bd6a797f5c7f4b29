import Proofreader.Store
import Proofreader.Text.Buffer

/-!
# Workspaces

A `Workspace` holds the open documents, and what is published for each: the findings that a reader
sees.  Publishing is independent of whether a document is open.  The whole workspace may be
read-only; then every edit of a range is refused.
-/

set_option autoImplicit false

namespace Proofreader

/-- Why an edit is refused. -/
inductive EditFault where
  /-- The workspace is read-only. -/
  | readOnly
  /-- The document is not open. -/
  | notOpen
  /-- The range does not lie in the document. -/
  | outside (r : TextRange)
deriving Repr, DecidableEq

/-- The text that tells the fault. -/
def EditFault.message : EditFault → String
  | readOnly => "document is read-only"
  | notOpen => "document is not open"
  | outside r =>
    "range " ++ toString r.start ++ ".." ++ toString r.stop ++ " is outside the document"

/-- Open documents and what is published for them. -/
structure Workspace where
  /-- The open documents. -/
  documents : Registry Buffer
  /-- The findings that are published. -/
  published : Registry (List Diagnostic)
  /-- Whether edits are refused. -/
  readOnly : Bool

namespace Workspace

/-- A workspace without documents. -/
def empty : Workspace := ⟨.empty, .empty, false⟩

/-- Open a document, in place of the one of its name if there is one. -/
def openDocument (w : Workspace) (id : DocumentId) (text : String) : Workspace :=
  { w with documents := w.documents.insert id (.ofText text) }

/-- Close a document.  What is published for it stays. -/
def closeDocument (w : Workspace) (id : DocumentId) : Workspace :=
  { w with documents := w.documents.erase id }

/-- Whether a document is open. -/
def isOpen (w : Workspace) (id : DocumentId) : Bool := w.documents.contains id

/-- Replace the whole text of a document, if it is open. -/
def setText (w : Workspace) (id : DocumentId) (text : String) : Workspace :=
  if w.isOpen id then w.openDocument id text else w

/-- Refuse or admit edits. -/
def setReadOnly (w : Workspace) (on : Bool) : Workspace := { w with readOnly := on }

/-- The text of a document, if it is open. -/
def text? (w : Workspace) (id : DocumentId) : Option String :=
  (w.documents.find? id).map Buffer.text

/-- The text in a range, if the document is open and the range lies in it. -/
def textIn? (w : Workspace) (id : DocumentId) (r : TextRange) : Option String :=
  (w.documents.find? id).bind (·.slice? r)

/-- The position of an offset, if the document is open. -/
def position? (w : Workspace) (id : DocumentId) (offset : Nat) : Option Position :=
  (w.documents.find? id).map (·.position offset)

/-- The findings published for a document, if there are any. -/
def published? (w : Workspace) (id : DocumentId) : Option (List Diagnostic) := w.published.find? id

/-- Publish findings for a document, in place of those before. -/
def publish (w : Workspace) (id : DocumentId) (diagnostics : List Diagnostic) : Workspace :=
  { w with published := w.published.insert id diagnostics }

/-- Take back what is published for a document. -/
def unpublish (w : Workspace) (id : DocumentId) : Workspace :=
  { w with published := w.published.erase id }

/-- Replace the text in a range of a document. -/
def edit (w : Workspace) (id : DocumentId) (r : TextRange) (text : String) :
    Except EditFault Workspace :=
  if w.readOnly then .error .readOnly
  else match w.documents.find? id with
    | none => .error .notOpen
    | some buffer =>
      match buffer.replace? r text with
      | none => .error (.outside r)
      | some buffer => .ok { w with documents := w.documents.insert id buffer }

/-- The names of the open documents, sorted. -/
def openDocuments (w : Workspace) : List DocumentId := w.documents.sortedNames

end Workspace

/-- The text in a range of a text that may be missing, with the range cut to fit. -/
def textInClamped (text : Option String) (r : TextRange) : Option String :=
  text.map fun text => String.ofList (Text.clampedSlice text.toList r)

end Proofreader
