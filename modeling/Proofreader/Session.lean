import Proofreader.Checker
import Proofreader.Load

/-!
# Sessions

A `Session` puts the commands of a user on top of a checker: enable, disable, and check the document
that is shown.  A command answers with a short notice.  Enabling loads the grammar that the settings
name at that moment; if that fails, nothing changes.
-/

set_option autoImplicit false

namespace Proofreader

/-- Why a command failed. -/
inductive CommandFault where
  /-- The grammar could not be loaded. -/
  | load (e : LoadFault)
  /-- The command does not fit the state. -/
  | state (e : StateFault)
deriving Repr, DecidableEq

namespace CommandFault

/-- The text that tells the error. -/
def message : CommandFault → String
  | load e => e.message
  | state e => e.message

/-- The text of the fault that caused the error, if there is one. -/
def cause : CommandFault → Option String
  | load e => e.cause
  | state _ => none

end CommandFault

/-- A checker with the settings of a user. -/
structure Session where
  /-- The checker. -/
  checker : Checker
  /-- The settings. -/
  settings : Settings

namespace Session

/-- A session that is not enabled. -/
def new (workspace : Workspace) (settings : Settings) : Session :=
  ⟨.withDelay workspace settings.delay, settings⟩

/-- Replace the settings; they count when the session is enabled next. -/
def setSettings (s : Session) (settings : Settings) : Session := { s with settings }

/-- Whether checking is enabled. -/
def isEnabled (s : Session) : Bool := s.checker.active

/-- What the status bar shows. -/
def status? (s : Session) : Option String := if s.isEnabled then some "STC Enabled" else none

/-- What is answered when checking was enabled. -/
def enabledNotice : String := "Typo checker has started."

/-- What is answered when checking was disabled. -/
def disabledNotice : String := "Typo checker has stopped."

/-- What is answered when a check was scheduled. -/
def checkedNotice : String := "Typo checker has checked the active document."

/-- Load the grammar, start checking, and check the document that is shown, if there is one. -/
def enable (s : Session) (disk : Disk) (now : Instant) : Except CommandFault String × Session :=
  if s.isEnabled then (.error (.state .alreadyActive), s)
  else match Grammar.loadNamed disk s.settings with
    | .error e => (.error (.load e), s)
    | .ok rules =>
      let started := (s.checker.setDelay s.settings.delay).start rules
      match started.requestFocused now with
      | (.ok (), checker) => (.ok enabledNotice, { s with checker })
      | (.error .nothingFocused, checker) => (.ok enabledNotice, { s with checker })
      | (.error e, checker) => (.error (.state e), { s with checker })

/-- Stop checking. -/
def disable (s : Session) : Except CommandFault String × Session :=
  if s.isEnabled then (.ok disabledNotice, { s with checker := s.checker.stop })
  else (.error (.state .inactive), s)

/-- Schedule a check of the document that is shown. -/
def checkFocused (s : Session) (now : Instant) : Except CommandFault String × Session :=
  if s.isEnabled then
    match s.checker.requestFocused now with
    | (.ok (), checker) => (.ok checkedNotice, { s with checker })
    | (.error e, checker) => (.error (.state e), { s with checker })
  else (.error (.state .inactive), s)

end Session
end Proofreader
