import Proofreader.Proofs.Checker.Rest
import Proofreader.Session

/-!
# Enabling and disabling

Enabling has several steps: the grammar is loaded, the delay is set, checking starts, and the
document that is shown is to be checked.  Only the first of them can fail, so enabling is done as a
whole or not at all (`Session.enable_cases`).

That nothing but the document that is shown waits afterwards is no matter of these steps alone:
nothing waited before, since a session comes to be inactive by events that drop what waits
(`Checker.Orderly`, `Session.orderly_afterAll`).

* `Session.EnableLaws`, `Session.DisableLaws` — what the two commands do in a state.
* `Session.isEnabled_afterAll_iff` — when a session is enabled, told from what happened to it.
* `Session.commandLaws_of_history` — all this for every history of a session.

A session is used by commands, but it also hands out its checker, and its workspace is changed by an
editor that knows nothing of sessions.  So a history has events for these too, without conditions:
any event of a checker may come, also one that starts or stops it behind the back of the session,
and any workspace may come in the place of the one before.  That the laws hold along all of these
histories is no more work than for commands alone.  Whether checking is enabled is not noted in the
session; it is the checker's to say.  And `checker_after` puts every event into one of two kinds,
some events of the checker or another workspace, of which the first is known to keep `Orderly`, and
the second is seen to.

The law on what is enabled is stated without the state of a checker.  `SwitchedOn` finds the event
in the history that switched checking on, and asks that no later one switched it off.  Whether a
command to enable succeeds depends on the state in which it is given, and on the disk at that time,
so it is the session after the events before it that `SwitchesOn` is about.
-/

set_option autoImplicit false

namespace Proofreader

/-! ## What makes a checker active

Of all steps of a checker only two touch the flag, and it is one case analysis to see it. -/

namespace Checker

variable {c c' : Checker}

/-- Only starting and stopping make a checker active or inactive. -/
theorem Step.active_eq {e : Event} (h : c.Step e c') (hstart : ∀ rules, e ≠ .start rules)
    (hstop : e ≠ .stop) : c'.active = c.active := by
  cases h with
  | start rules => exact absurd rfl (hstart rules)
  | stop => exact absurd rfl hstop
  | fix id d => exact (c.fix_frame id d).2.1
  | _ => rfl

/-- A check that is asked for is due when the delay has passed. -/
theorem window?_request (hactive : c.active = true) (now : Instant) (id : DocumentId) :
    (c.request now id).1 = .ok () ∧ ∃ w, (c.request now id).2.scheduler.window? id = some w ∧
      w.deadline = now + c.scheduler.delay := by
  rw [request, if_pos hactive]
  exact ⟨rfl, _, by rw [schedule, Scheduler.window?_schedule, if_pos rfl], rfl⟩

end Checker

namespace Session

/-! ## Histories -/

/-- What can happen to a session. -/
inductive Event where
  /-- The user enables checking. -/
  | enable (disk : Disk) (now : Instant)
  /-- The user disables checking. -/
  | disable
  /-- The user asks for a check of the document that is shown. -/
  | checkFocused (now : Instant)
  /-- Other settings are put in place. -/
  | setSettings (settings : Settings)
  /-- Something happens to the checker. -/
  | checker (e : Checker.Event)
  /-- The workspace is changed from outside, in whatever way. -/
  | workspace (w : Workspace)

/-- The session after an event. -/
def after (s : Session) : Event → Session
  | .enable disk now => (s.enable disk now).2
  | .disable => s.disable.2
  | .checkFocused now => (s.checkFocused now).2
  | .setSettings settings => s.setSettings settings
  | .checker e => { s with checker := s.checker.after e }
  | .workspace w => { s with checker := s.checker.withWorkspace w }

/-- The session after a run. -/
def afterAll (s : Session) (events : List Event) : Session := events.foldl after s

variable {s : Session}

/-! ## What the commands do

After checking has started, a request for the document that is shown cannot be refused for want of
an active checker.  It is refused if no document is shown, and enabling then goes on regardless. -/

/-- The checker when checking has started with rules, and nothing was asked of it yet. -/
def started (s : Session) (rules : List Rule) : Checker :=
  (s.checker.setDelay s.settings.delay).start rules

/-- The session when checking was enabled with rules. -/
def enabled (s : Session) (rules : List Rule) (now : Instant) : Session :=
  { s with checker := ((s.started rules).requestFocused now).2 }

/-- A checker that has started checks the document that is shown, or finds that none is. -/
theorem requestFocused_started (s : Session) (rules : List Rule) (now : Instant) :
    (s.checker.focused = none ∧
        (s.started rules).requestFocused now = (.error .nothingFocused, s.started rules)) ∨
      ∃ id, s.checker.focused = some id ∧
        (s.started rules).requestFocused now = (.ok (), (s.started rules).schedule now id) := by
  have hfocused : (s.started rules).focused = s.checker.focused := rfl
  cases h : s.checker.focused with
  | none => exact .inl ⟨rfl, by rw [Checker.requestFocused, hfocused, h]⟩
  | some id => exact .inr ⟨id, rfl, by rw [Checker.requestFocused, hfocused, h]; rfl⟩

/-- **Enabling is done as a whole or not at all.**  It is refused where checking is enabled already
and where the grammar cannot be loaded; once checking has started, nothing fails. -/
theorem enable_cases (s : Session) (disk : Disk) (now : Instant) :
    (s.isEnabled = true ∧ s.enable disk now = (.error (.state .alreadyActive), s)) ∨
      (s.isEnabled = false ∧ ∃ e, Grammar.loadNamed disk s.settings = .error e ∧
        s.enable disk now = (.error (.load e), s)) ∨
      (s.isEnabled = false ∧ ∃ rules, Grammar.loadNamed disk s.settings = .ok rules ∧
        s.enable disk now = (.ok enabledNotice, s.enabled rules now)) := by
  rw [enable]
  cases henabled : s.isEnabled with
  | true => exact .inl ⟨rfl, rfl⟩
  | false =>
    cases hload : Grammar.loadNamed disk s.settings with
    | error e => exact .inr (.inl ⟨rfl, e, rfl, rfl⟩)
    | ok rules =>
      refine .inr (.inr ⟨rfl, rules, rfl, ?_⟩)
      obtain ⟨-, h⟩ | ⟨id, -, h⟩ := s.requestFocused_started rules now
      all_goals
        rw [enabled, h]
        rw [started] at h
        simp only [h, Bool.false_eq_true, if_false, started]

theorem disable_cases (s : Session) :
    (s.isEnabled = true ∧ s.disable = (.ok disabledNotice, { s with checker := s.checker.stop })) ∨
      (s.isEnabled = false ∧ s.disable = (.error (.state .inactive), s)) := by
  rw [disable]
  cases henabled : s.isEnabled with
  | true => exact .inl ⟨rfl, rfl⟩
  | false => exact .inr ⟨rfl, rfl⟩

/-- A check of the document that is shown is an event of the checker, or it is refused. -/
theorem checkFocused_cases (s : Session) (now : Instant) :
    (s.checkFocused now).2 = s ∨
      (s.checkFocused now).2 = { s with checker := s.checker.after (.requestFocused now) } := by
  rw [checkFocused]
  split
  · refine .inr ?_
    split
    all_goals
      rename_i h
      rw [Checker.after, h]
  · exact .inl rfl

/-- Once checking is enabled, the checker is as it was when it started, except for what waits. -/
theorem enabled_frame (s : Session) (rules : List Rule) (now : Instant) :
    (s.enabled rules now).isEnabled = true ∧
      (s.enabled rules now).checker.state = (s.started rules).state ∧
      (s.enabled rules now).checker.scheduler.delay = s.settings.delay ∧
      (s.enabled rules now).checker.focused = s.checker.focused := by
  rw [isEnabled, enabled]
  obtain ⟨-, heq⟩ | ⟨id, -, heq⟩ := s.requestFocused_started rules now
  · rw [heq]
    exact ⟨rfl, rfl, rfl, rfl⟩
  · rw [heq]
    exact ⟨rfl, rfl, Scheduler.delay_schedule _ _ _ _, rfl⟩

/-! ## What waits

A request adds one document to those that wait.  So that no other waits afterwards, none may have
waited before, and this is where the history comes in: a checker that is inactive has nothing
waiting, if it was orderly all along. -/

/-- Whatever happens to a session happens to its checker, or changes its workspace. -/
theorem checker_after (s : Session) (e : Event) :
    (∃ events, (s.after e).checker = s.checker.afterAll events) ∨
      ∃ w, (s.after e).checker = s.checker.withWorkspace w := by
  cases e with
  | enable disk now =>
    refine .inl ?_
    rw [after]
    obtain ⟨-, h⟩ | ⟨-, e, -, h⟩ | ⟨-, rules, -, h⟩ := s.enable_cases disk now
    · exact ⟨[], by rw [h]; rfl⟩
    · exact ⟨[], by rw [h]; rfl⟩
    · exact ⟨[.setDelay s.settings.delay, .start rules, .requestFocused now], by rw [h]; rfl⟩
  | disable =>
    refine .inl ?_
    rw [after]
    obtain ⟨-, h⟩ | ⟨-, h⟩ := s.disable_cases
    · exact ⟨[.stop], by rw [h]; rfl⟩
    · exact ⟨[], by rw [h]; rfl⟩
  | checkFocused now =>
    refine .inl ?_
    rw [after]
    obtain h | h := s.checkFocused_cases now
    · exact ⟨[], by rw [h]; rfl⟩
    · exact ⟨[.requestFocused now], by rw [h]; rfl⟩
  | setSettings settings => exact .inl ⟨[], rfl⟩
  | checker e => exact .inl ⟨[e], rfl⟩
  | workspace w => exact .inr ⟨w, rfl⟩

theorem orderly_after (h : s.checker.Orderly) (e : Event) : (s.after e).checker.Orderly := by
  obtain ⟨events, he⟩ | ⟨w, he⟩ := s.checker_after e
  · rw [he]
    exact h.afterAll events
  · rw [he]
    exact ⟨h.sound.of_scheduler_eq rfl, h.active⟩

/-- Whatever happened, a check waits only while checking is enabled. -/
theorem orderly_afterAll (h : s.checker.Orderly) (events : List Event) :
    (s.afterAll events).checker.Orderly := by
  induction events generalizing s with
  | nil => exact h
  | cons e events ih => exact ih (orderly_after h e)

/-! ## What is enabled

`Enabled` compares the session afterwards with the one before, in all that can be seen of it.
What waits is given by deadlines; the handles under which it waits are new ones, and no one holds
them. -/

/-- The session `s'` is `s` with checking enabled at a time, with rules. -/
structure Enabled (s : Session) (rules : List Rule) (now : Instant) (s' : Session) : Prop where
  /-- Checking is enabled. -/
  enabled : s'.isEnabled = true
  /-- These are the rules in force. -/
  rules_eq : s'.checker.rules = rules
  /-- The delay is that of the settings. -/
  delay_eq : s'.checker.scheduler.delay = s.settings.delay
  /-- Any check that is asked for waits that long. -/
  request : ∀ time id, (s'.checker.request time id).1 = .ok () ∧
    ∃ w, (s'.checker.request time id).2.scheduler.window? id = some w ∧
      w.deadline = time + s.settings.delay
  /-- The document that is shown waits to be checked, and nothing else does. -/
  isWaiting_iff : ∀ id, s'.checker.isWaiting id = true ↔ s.checker.focused = some id
  /-- It too waits for that long. -/
  deadline : ∀ id w, s'.checker.scheduler.window? id = some w →
    w.deadline = now + s.settings.delay
  /-- The workspace stays, with what is published. -/
  workspace_eq : s'.checker.workspace = s.checker.workspace
  /-- The record of findings stays. -/
  store_eq : s'.checker.state.store = s.checker.state.store
  /-- The same document is shown. -/
  focused_eq : s'.checker.focused = s.checker.focused
  /-- The settings stay. -/
  settings_eq : s'.settings = s.settings

/-- What waits when checking was enabled, if nothing waited before. -/
theorem window?_enabled (h : ∀ id, s.checker.scheduler.window? id = none) (rules : List Rule)
    (now : Instant) (id : DocumentId) :
    ((s.enabled rules now).checker.scheduler.window? id).map (·.deadline) =
      if s.checker.focused = some id then some (now + s.settings.delay) else none := by
  have hstarted : (s.started rules).scheduler.window? id = none := h id
  rw [enabled]
  obtain ⟨hnone, heq⟩ | ⟨shown, hshown, heq⟩ := s.requestFocused_started rules now
  · rw [heq, hstarted, hnone]
    rfl
  · rw [heq, Checker.schedule, Scheduler.window?_schedule, hstarted, hshown]
    by_cases hid : shown = id
    · rw [if_pos hid, if_pos (congrArg some hid)]
      rfl
    · rw [if_neg hid, if_neg fun hsome => hid (Option.some_inj.1 hsome)]
      rfl

theorem enabled_spec (h : s.checker.Orderly) (hinactive : s.isEnabled = false)
    (rules : List Rule) (now : Instant) : Enabled s rules now (s.enabled rules now) := by
  have hwindow := window?_enabled (h.window?_eq_none hinactive) rules now
  obtain ⟨hactive, hstate, hdelay, hfocused⟩ := s.enabled_frame rules now
  refine ⟨hactive, by rw [Checker.rules, hstate]; rfl, hdelay, fun time id => ?_, fun id => ?_,
    fun id w hw => ?_, by rw [Checker.workspace, hstate]; rfl, by rw [hstate]; rfl, hfocused, rfl⟩
  · rw [← hdelay]
    exact Checker.window?_request hactive time id
  · rw [Checker.isWaiting, Scheduler.isWaiting_eq, ← Option.isSome_map, hwindow]
    split <;> simp_all
  · have heq := hwindow id
    rw [hw, Option.map_some] at heq
    split at heq
    · exact Option.some_inj.1 heq
    · simp at heq

/-! ## The laws of the commands -/

/-- What is said of enabling a session at a time, when this is on the disk. -/
structure EnableLaws (s : Session) (disk : Disk) (now : Instant) : Prop where
  /-- It succeeds exactly if checking was not enabled and the grammar can be loaded. -/
  ok_iff : (∃ notice s', s.enable disk now = (.ok notice, s')) ↔
    s.isEnabled = false ∧ ∃ rules, Grammar.loadNamed disk s.settings = .ok rules
  /-- Then checking is enabled with the rules that were loaded. -/
  enabled : ∀ notice s', s.enable disk now = (.ok notice, s') →
    notice = enabledNotice ∧
      ∃ rules, Grammar.loadNamed disk s.settings = .ok rules ∧ Enabled s rules now s'
  /-- If it fails, nothing changes. -/
  error : ∀ e s', s.enable disk now = (.error e, s') → s' = s
  /-- So a failure leaves checking enabled only where it says that it was so already, and disabled
  where it tells what is wrong with the grammar. -/
  refused : ∀ e s', s.enable disk now = (.error e, s') →
    (s.isEnabled = true ∧ s'.isEnabled = true ∧ e = .state .alreadyActive) ∨
      (s.isEnabled = false ∧ s'.isEnabled = false ∧
        ∃ fault, Grammar.loadNamed disk s.settings = .error fault ∧ e = .load fault)
  /-- It succeeds exactly when it changes whether checking is enabled. -/
  switches_iff : (∃ notice s', s.enable disk now = (.ok notice, s')) ↔
    (s.enable disk now).2.isEnabled ≠ s.isEnabled

/-- What is said of disabling a session. -/
structure DisableLaws (s : Session) : Prop where
  /-- It succeeds exactly if checking was enabled. -/
  ok_iff : (∃ notice s', s.disable = (.ok notice, s')) ↔ s.isEnabled = true
  /-- Then the checker is stopped. -/
  disabled : ∀ notice s', s.disable = (.ok notice, s') →
    notice = disabledNotice ∧ s' = { s with checker := s.checker.stop } ∧ s'.isEnabled = false
  /-- If it fails, nothing changes. -/
  error : ∀ e s', s.disable = (.error e, s') → s' = s ∧ e = .state .inactive
  /-- It succeeds exactly when it changes whether checking is enabled. -/
  switches_iff : (∃ notice s', s.disable = (.ok notice, s')) ↔ s.disable.2.isEnabled ≠ s.isEnabled

theorem enableLaws (h : s.checker.Orderly) (disk : Disk) (now : Instant) :
    EnableLaws s disk now := by
  obtain ⟨hon, heq⟩ | ⟨hoff, fault, hload, heq⟩ | ⟨hoff, rules, hload, heq⟩ :=
    s.enable_cases disk now
  · refine ⟨by simp [heq, hon], by simp [heq], fun e s' hs' => ?_, fun e s' hs' => .inl ?_,
      by simp [heq]⟩
    · exact (Prod.mk.inj (heq.symm.trans hs')).2.symm
    · obtain ⟨he, rfl⟩ := Prod.mk.inj (heq.symm.trans hs')
      exact ⟨hon, hon, (Except.error.inj he).symm⟩
  · refine ⟨by simp [heq, hoff, hload], by simp [heq], fun e s' hs' => ?_, fun e s' hs' => .inr ?_,
      by simp [heq]⟩
    · exact (Prod.mk.inj (heq.symm.trans hs')).2.symm
    · obtain ⟨he, rfl⟩ := Prod.mk.inj (heq.symm.trans hs')
      exact ⟨hoff, hoff, fault, hload, (Except.error.inj he).symm⟩
  · have hspec := enabled_spec h hoff rules now
    refine ⟨by simp [heq, hoff, hload], fun notice s' hs' => ?_, by simp [heq], by simp [heq],
      by simp [heq, hoff, hspec.enabled]⟩
    obtain ⟨hnotice, rfl⟩ := Prod.mk.inj (heq.symm.trans hs')
    exact ⟨(Except.ok.inj hnotice).symm, rules, hload, hspec⟩

theorem disableLaws (s : Session) : DisableLaws s := by
  obtain ⟨hon, heq⟩ | ⟨hoff, heq⟩ := s.disable_cases
  · have hstop : ({ s with checker := s.checker.stop } : Session).isEnabled = false := rfl
    refine ⟨by simp [heq, hon], fun notice s' hs' => ?_, by simp [heq], by simp [heq, hon, hstop]⟩
    obtain ⟨hnotice, rfl⟩ := Prod.mk.inj (heq.symm.trans hs')
    exact ⟨(Except.ok.inj hnotice).symm, rfl, rfl⟩
  · refine ⟨by simp [heq, hoff], by simp [heq], fun e s' hs' => ?_, by simp [heq]⟩
    obtain ⟨he, rfl⟩ := Prod.mk.inj (heq.symm.trans hs')
    exact ⟨rfl, (Except.error.inj he).symm⟩

/-! ## What made a session enabled -/

/-- An event enables checking: it is a command that succeeds, or the checker is started itself. -/
def SwitchesOn (s : Session) : Event → Prop
  | .enable disk _ => s.isEnabled = false ∧ ∃ rules, Grammar.loadNamed disk s.settings = .ok rules
  | .checker (.start _) => True
  | _ => False

/-- After such an event, checking is disabled. -/
def Event.switchesOff : Event → Bool
  | .disable => true
  | .checker .stop => true
  | _ => false

/-- Checking is enabled if it was just switched on, or if it was enabled and is not switched off. -/
theorem isEnabled_after_iff (s : Session) (e : Event) :
    (s.after e).isEnabled = true ↔
      s.SwitchesOn e ∨ (s.isEnabled = true ∧ e.switchesOff = false) := by
  have hkept : ∀ {s' : Session}, s'.checker.active = s.checker.active →
      (s'.isEnabled = true ↔ False ∨ (s.isEnabled = true ∧ false = false)) := by
    intro s' hactive
    rw [isEnabled, hactive, isEnabled]
    simp
  cases e with
  | enable disk now =>
    obtain ⟨hon, heq⟩ | ⟨hoff, e, hload, heq⟩ | ⟨hoff, rules, hload, heq⟩ := s.enable_cases disk now
    · simp [after, heq, SwitchesOn, hon, Event.switchesOff]
    · simp [after, heq, SwitchesOn, hoff, hload]
    · simp [after, heq, SwitchesOn, hoff, hload, enabled_frame]
  | disable =>
    obtain ⟨hon, heq⟩ | ⟨hoff, heq⟩ := s.disable_cases
    · simp [after, heq, SwitchesOn, Event.switchesOff, isEnabled, Checker.stop]
    · simp [after, heq, SwitchesOn, Event.switchesOff, hoff]
  | checkFocused now =>
    obtain heq | heq := s.checkFocused_cases now
    · exact hkept (by rw [after, heq])
    · refine hkept ?_
      rw [after, heq]
      exact (Checker.step_after _ _).active_eq (by simp) (by simp)
  | setSettings settings => exact hkept rfl
  | checker e =>
    cases e with
    | start rules => simp [after, SwitchesOn, isEnabled, Checker.after, Checker.start]
    | stop => simp [after, SwitchesOn, Event.switchesOff, isEnabled, Checker.after, Checker.stop]
    | _ => exact hkept ((Checker.step_after _ _).active_eq (by simp) (by simp))
  | workspace w => exact hkept rfl

/-- Some event of a run switched checking on, and no later one switched it off. -/
def SwitchedOn (s : Session) (events : List Event) : Prop :=
  ∃ before e later, events = before ++ e :: later ∧ (s.afterAll before).SwitchesOn e ∧
    ∀ e' ∈ later, e'.switchesOff = false

theorem not_switchedOn_nil (s : Session) : ¬s.SwitchedOn [] := by
  rintro ⟨before, e, later, heq, -⟩
  simp at heq

theorem switchedOn_cons (s : Session) (e : Event) (events : List Event) :
    s.SwitchedOn (e :: events) ↔
      (s.SwitchesOn e ∧ ∀ e' ∈ events, e'.switchesOff = false) ∨
        (s.after e).SwitchedOn events := by
  constructor
  · rintro ⟨before, first, later, heq, hswitches, hlater⟩
    cases before with
    | nil =>
      obtain ⟨rfl, rfl⟩ := List.cons.inj heq
      exact .inl ⟨hswitches, hlater⟩
    | cons e' before =>
      obtain ⟨rfl, rfl⟩ := List.cons.inj heq
      exact .inr ⟨before, first, later, rfl, hswitches, hlater⟩
  · rintro (⟨hswitches, hlater⟩ | ⟨before, first, later, rfl, hswitches, hlater⟩)
    · exact ⟨[], e, events, rfl, hswitches, hlater⟩
    · exact ⟨e :: before, first, later, rfl, hswitches, hlater⟩

/-- **A session is enabled if it was so at first or was switched on, and was not switched off
since.** -/
theorem isEnabled_afterAll_iff (s : Session) (events : List Event) :
    (s.afterAll events).isEnabled = true ↔
      (s.isEnabled = true ∧ ∀ e ∈ events, e.switchesOff = false) ∨ s.SwitchedOn events := by
  induction events generalizing s with
  | nil => simp [afterAll, not_switchedOn_nil]
  | cons e events ih =>
    have hcons : s.afterAll (e :: events) = (s.after e).afterAll events := rfl
    rw [hcons, ih, isEnabled_after_iff, switchedOn_cons, List.forall_mem_cons]
    tauto

/-! ## What holds of every history -/

/-- **Enabling and disabling are done as a whole or not at all**, whatever happened to a session
before.  The one succeeds exactly if checking is not enabled and the grammar of the settings can be
loaded, the other exactly if checking is enabled; each succeeds exactly when it changes that, and
changes nothing when it fails.  Where checking is enabled, it was switched on and not switched off
since. -/
theorem commandLaws_of_history (workspace : Workspace) (settings : Settings)
    (events : List Event) :
    let s := (Session.new workspace settings).afterAll events
    (∀ disk now, EnableLaws s disk now) ∧ DisableLaws s ∧
      (s.isEnabled = true ↔ (Session.new workspace settings).SwitchedOn events) := by
  intro s
  have horderly : s.checker.Orderly :=
    orderly_afterAll (Checker.orderly_withDelay workspace settings.delay) events
  refine ⟨enableLaws horderly, disableLaws s, (isEnabled_afterAll_iff _ events).trans ?_⟩
  simp [isEnabled, Session.new, Checker.withDelay]

/-- Enabling fails while the grammar is not there; then it takes the rules in the order of the file,
and the document that is shown is due after the seven milliseconds of the settings. -/
example :
    let tree := FileTree.ofPaths
      [("g", .file (.text "[[1,1,\"teh\",\"\",\"a slip\",\"the\"],[2,2,\"(\",\")\",\"alone\"]]"))]
    let s := (Session.new .empty ⟨some "g", 7⟩).after (.checker (.focus 0 "a"))
    let s' := s.after (.enable tree.disk 5)
    (s.enable (FileTree.ofPaths []).disk 5).1 = .error (.load (.grammarMissing "g")) ∧
      (s.enable tree.disk 5).1 = .ok enabledNotice ∧
      s'.checker.rules.map (·.pattern) = ["teh", "("] ∧ s'.checker.nextDue = some 7005 ∧
      (s'.enable tree.disk 6).1 = .error (.state .alreadyActive) := by
  decide +kernel

end Session
end Proofreader
