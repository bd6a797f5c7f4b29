import Proofreader.Check
import Proofreader.Schedule.Scheduler
import Proofreader.Workspace

/-!
# The checker

A `Checker` watches the documents of a workspace.  Events of the editor schedule checks; when a
check is due it runs on the text and with the rules of that moment, and its findings are recorded
and published.  A finding that suggests a replacement can be applied as a fix.

Between `start` and `stop` the checker is active.  Outside of that it schedules nothing,
has no rules and shows no findings.
-/

set_option autoImplicit false

namespace Proofreader

/-! ## What can go wrong -/

/-- An operation does not fit the state. -/
inductive StateFault where
  /-- Checking is enabled already. -/
  | alreadyActive
  /-- Checking is not enabled. -/
  | inactive
  /-- There is no active document. -/
  | nothingFocused
  /-- The document is not open. -/
  | notOpen (id : DocumentId)
  /-- The finding is not recorded any more. -/
  | findingGone
deriving Repr, DecidableEq

/-- The text that tells the error. -/
def StateFault.message : StateFault → String
  | alreadyActive => "the typo checker has already started"
  | inactive => "the typo checker has not started; enable it before checking documents"
  | nothingFocused => "there is no active document to check"
  | notOpen id => "document is not open: " ++ id
  | findingGone => "the diagnostic is no longer present"

/-- Why a check has no findings to show. -/
inductive CheckFault where
  /-- A rule has a faulty pattern. -/
  | pattern (e : PatternFault)
  /-- The check did not fit the state. -/
  | state (e : StateFault)
deriving Repr, DecidableEq

/-- The text that tells the error. -/
def CheckFault.message : CheckFault → String
  | pattern e => e.message
  | state e => e.message

/-- Why a fix was not applied. -/
inductive FixFault where
  /-- The fix did not fit the state. -/
  | state (e : StateFault)
  /-- The finding suggests nothing. -/
  | nothingSuggested
  /-- The workspace refused the edit. -/
  | refused (id : DocumentId) (fault : EditFault)
deriving Repr, DecidableEq

/-- The text that tells the error. -/
def FixFault.message : FixFault → String
  | state e => e.message
  | nothingSuggested => "the diagnostic carries no suggestion"
  | refused id fault => "edit rejected for " ++ id ++ ": " ++ fault.message

/-! ## Running a check -/

/-- The number of findings, or why there are none. -/
abbrev CheckResult := Except CheckFault Nat

/-- What a check reads and changes. -/
structure CheckState where
  /-- The documents and what is published. -/
  workspace : Workspace
  /-- The rules in force. -/
  rules : List Rule
  /-- The record of findings. -/
  store : Store

/-- Check a document.  If that fails, record and publication stay as they are. -/
def CheckState.run (id : DocumentId) : Work CheckState CheckResult := fun s =>
  match s.workspace.text? id with
  | none => (.error (.state (.notOpen id)), s)
  | some text =>
    match check text s.rules with
    | .error e => (.error (.pattern e), s)
    | .ok diagnostics =>
      (.ok diagnostics.length,
        { s with
          workspace := s.workspace.publish id diagnostics
          store := s.store.set id diagnostics })

/-- The result of one check that ran. -/
structure Report where
  /-- The document. -/
  document : DocumentId
  /-- The number of findings, or why there are none. -/
  outcome : CheckResult

/-! ## The checker -/

/-- Watches the documents of a workspace. -/
structure Checker where
  /-- What checks read and change. -/
  state : CheckState
  /-- The checks that wait. -/
  scheduler : Scheduler CheckState CheckResult
  /-- Whether the checker is active. -/
  active : Bool
  /-- The document that the editor shows. -/
  focused : Option DocumentId

namespace Checker

/-- An inactive checker with a delay for its checks. -/
def withDelay (workspace : Workspace) (delay : Duration) : Checker :=
  ⟨⟨workspace, [], .empty⟩, .withDelay delay, false, none⟩

/-- An inactive checker. -/
def new (workspace : Workspace) : Checker := withDelay workspace defaultDelay

/-- The workspace. -/
def workspace (c : Checker) : Workspace := c.state.workspace

/-- The rules in force. -/
def rules (c : Checker) : List Rule := c.state.rules

/-- The findings recorded for a document. -/
def diagnostics (c : Checker) (id : DocumentId) : List Diagnostic := c.state.store.get id

/-- The checker with its workspace changed from outside. -/
def withWorkspace (c : Checker) (workspace : Workspace) : Checker :=
  { c with state := { c.state with workspace } }

/-- Change the delay of checks that are scheduled from now on. -/
def setDelay (c : Checker) (delay : Duration) : Checker :=
  { c with scheduler := c.scheduler.setDelay delay }

/-- Start checking with rules. -/
def start (c : Checker) (rules : List Rule) : Checker :=
  { c with state := { c.state with rules }, active := true }

/-- Stop checking: drop what waits and take back every recorded finding. -/
def stop (c : Checker) : Checker :=
  { c with
    state :=
      { workspace := c.state.store.records.names.foldl Workspace.unpublish c.state.workspace
        rules := []
        store := .empty }
    scheduler := c.scheduler.dropAll
    active := false }

/-- Schedule a check. -/
def schedule (c : Checker) (now : Instant) (id : DocumentId) : Checker :=
  { c with scheduler := (c.scheduler.schedule now id (CheckState.run id)).2 }

/-! ## Events -/

/-- The editor shows another document; it is checked. -/
def focus (c : Checker) (now : Instant) (id : DocumentId) : Checker :=
  let c := { c with focused := some id }
  if c.active then c.schedule now id else c

/-- A document was saved; it is checked if the editor shows it. -/
def saved (c : Checker) (now : Instant) (id : DocumentId) : Checker :=
  if c.active && c.focused == some id then c.schedule now id else c

/-- A document was closed; its check and its findings are dropped. -/
def closed (c : Checker) (id : DocumentId) : Checker where
  state :=
    { c.state with
      workspace := c.state.workspace.unpublish id
      store := c.state.store.forget id }
  scheduler := (c.scheduler.cancel id).2
  active := c.active
  focused := if c.focused == some id then none else c.focused

/-! ## Checks -/

/-- Schedule a check of a document. -/
def request (c : Checker) (now : Instant) (id : DocumentId) :
    Except StateFault Unit × Checker :=
  if c.active then (.ok (), c.schedule now id) else (.error .inactive, c)

/-- Schedule a check of the document that the editor shows. -/
def requestFocused (c : Checker) (now : Instant) : Except StateFault Unit × Checker :=
  match c.focused with
  | none => (.error .nothingFocused, c)
  | some id => c.request now id

/-- Whether a check of a document waits. -/
def isWaiting (c : Checker) (id : DocumentId) : Bool := c.scheduler.isWaiting id

/-- When the next check is due. -/
def nextDue (c : Checker) : Option Instant := c.scheduler.nextDue

/-- The reports of checks that ran: their results are taken from the handles. -/
def takeReports : List (DocumentId × Handle) → Scheduler CheckState CheckResult →
    List Report × Scheduler CheckState CheckResult
  | [], s => ([], s)
  | (id, handle) :: rest, s =>
    let (outcome, s) := s.take handle
    let (reports, s) := takeReports rest s
    match outcome with
    | some outcome => (⟨id, outcome⟩ :: reports, s)
    | none => (reports, s)

/-- The checker after some checks ran, with their reports. -/
def afterRun (c : Checker) (run : Scheduler.Run CheckState CheckResult) : List Report × Checker :=
  let (reports, scheduler) := takeReports run.completed run.scheduler
  (reports, { c with state := run.state, scheduler })

/-- Run the checks that are due. -/
def runDue (c : Checker) (now : Instant) : List Report × Checker :=
  c.afterRun (c.scheduler.runDue now c.state)

/-- Run all checks that wait. -/
def runAll (c : Checker) : List Report × Checker :=
  c.afterRun (c.scheduler.runAll c.state)

/-! ## Fixes -/

/-- The fix that a finding offers, if its range lies in the document. -/
def fixFor? (c : Checker) (id : DocumentId) (d : Diagnostic) : Option Fix := do
  let replacement ← d.suggestion
  let current ← c.workspace.textIn? id d.range
  return ⟨d.range, current, replacement⟩

/-- Replace the text of a finding by its suggestion.  The finding leaves the record, and what
remains is published; if the edit is refused, everything stays. -/
def fix (c : Checker) (id : DocumentId) (d : Diagnostic) : Except FixFault Unit × Checker :=
  if !c.active then (.error (.state .inactive), c)
  else match d.suggestion with
    | none => (.error .nothingSuggested, c)
    | some replacement =>
      if !(c.diagnostics id).contains d then (.error (.state .findingGone), c)
      else match c.workspace.edit id d.range replacement with
        | .error fault => (.error (.refused id fault), c)
        | .ok workspace =>
          let store := (c.state.store.removeOne id d).2
          (.ok (), { c with
            state := { c.state with workspace := workspace.publish id (store.get id), store } })

end Checker
end Proofreader
