import Proofreader.Proofs.Check.Places
import Proofreader.Proofs.Checker.Rest
import Proofreader.Proofs.Checker.Separation

/-!
# Two fixes in one document

Right after a check, the ranges of the findings are those of the text (`Checker.UpToDate`).  A fix
changes the text and not the ranges of the findings that stay recorded: fixes one after the other
are edits one after the other, each with the range that was recorded (`Checker.fixesTo_iff`).  So
the order of two fixes counts.

* From the end of the document backwards, each fix finds its characters in their place.
* From the beginning, the second fix acts on what has come to stand in its range, or is refused if
  the text has become too short.  It hits its own characters if the first fix put as many characters
  in as it took out; otherwise the text is the same only if it makes no difference where the second
  suggestion is put (`Text.Interchangeable`).

In `a a`, with `xyz` for every `a`, the two orders end in different texts.

The proof leaves the checker behind as early as it can.  `Ready` collects what a fix asks of the
checker, for a list of findings that are still to be fixed, and a fix hands it on to the rest of the
list; with this, `fixesTo_iff` reduces any list of fixes to a list of edits of one text, by
induction.  That a finding may not be fixed twice is a part of it: the first fix takes one entry out
of the record, and the second would be refused, or would hit an equal entry that is left.  From
there on everything is about `splice` and `replaceAll`, in the module on edits.

Two things are asked of the run that came before.  It has to have reported the document with a
number of findings, since a check that failed leaves the findings of an older text on record; and it
has to be the last thing that happened, since the workspace may be changed from outside at any time.
That the checker is active need not be asked: it has reported something, so something waited, and
nothing waits in another checker (`Runs.active`).
-/

set_option autoImplicit false

namespace Proofreader

open Text (splice replaceAll shifted Interchangeable)

deriving instance DecidableEq for Report

namespace Checker

variable {c c' : Checker} {id : DocumentId} {text s t : String} {d e : Diagnostic}

/-! ## After a check

A run may check many documents, and this one may stand anywhere among them.  That the checks of the
others leave it alone is the theory of separation (`checkEach_of_mem`); what is left is that its own
report tells its own findings. -/

/-- A document is open with a text, and what is recorded for it is what a check finds there. -/
structure UpToDate (c : Checker) (id : DocumentId) (text : String) : Prop where
  /-- The document has the text. -/
  text?_eq : c.workspace.text? id = some text
  /-- Its findings are those of the text. -/
  recorded : check text c.rules = .ok (c.diagnostics id)

/-- A check that is reported to have gone through leaves its document up to date. -/
theorem Ran.upToDate {ids : List DocumentId} {reports : List Report} (hran : c.Ran ids reports c')
    (hnodup : ids.Nodup) {n : Nat} (hreport : ⟨id, .ok n⟩ ∈ reports) :
    ∃ text, c'.UpToDate id text := by
  obtain ⟨hreports, halike⟩ := checkEach_of_mem hnodup (hran.document_mem hreport) c.state
  rw [← hran.reports_eq] at hreports
  rw [← hran.state_eq] at halike
  have hresult : (⟨id, .ok n⟩ : Report) ∈ reportsOn id reports :=
    List.mem_filter.2 ⟨hreport, beq_self_eq_true id⟩
  rw [hreports, List.mem_singleton, Report.mk.injEq] at hresult
  obtain ⟨e, hrun⟩ | ⟨text, diagnostics, htext, hcheck, hrun⟩ := CheckState.run_cases id c.state
  · rw [hrun] at hresult
    simp at hresult
  · rw [hrun] at halike
    have hrecorded : c'.diagnostics id = diagnostics := by
      rw [Checker.diagnostics, Store.get, halike.recorded, CheckState.recorded, Store.set,
        Registry.find?_insert_self, Option.getD_some]
    refine ⟨text, (congrArg (Option.map Buffer.text) halike.buffer).trans htext, ?_⟩
    rw [hrecorded, Checker.rules, halike.rules]
    exact hcheck

/-- The checker runs what is due or everything. -/
def Runs (c : Checker) (reports : List Report) (c' : Checker) : Prop :=
  (∃ now, c.runDue now = (reports, c')) ∨ c.runAll = (reports, c')

theorem Runs.ran {reports : List Report} (hrun : c.Runs reports c') (hc : c.Sound) :
    ∃ ids : List DocumentId, ids.Nodup ∧ c.Ran ids reports c' := by
  rcases hrun with ⟨now, hrun⟩ | hrun
  · have hran := hc.runDue now
    rw [hrun] at hran
    exact ⟨_, c.scheduler.due_nodup now, hran⟩
  · have hran := hc.runAll
    rw [hrun] at hran
    exact ⟨_, c.scheduler.pending.sortedNames_nodup, hran⟩

/-- Reports are those of an active checker: nothing waits in another. -/
theorem Runs.active {workspace : Workspace} {delay : Duration} {events : List Event}
    {reports : List Report} (hrun : ((withDelay workspace delay).afterAll events).Runs reports c')
    {r : Report} (hr : r ∈ reports) : c'.active = true := by
  have hsound := (sound_withDelay workspace delay).afterAll events
  obtain ⟨ids, -, hran⟩ := hrun.ran hsound
  have hreport : (∃ now, r ∈ (((withDelay workspace delay).afterAll events).runDue now).1) ∨
      r ∈ ((withDelay workspace delay).afterAll events).runAll.1 := by
    rcases hrun with ⟨now, hrun⟩ | hrun
    · exact .inl ⟨now, by rw [hrun]; exact hr⟩
    · exact .inr (by rw [hrun]; exact hr)
  exact hran.active_eq.trans
    (active_of_waiting workspace delay events (isSome_window?_of_report hsound hreport))

/-! ## Fixes one after the other

Several fixes are told as a relation with a final text, so that a fix that is refused on the way
means that the relation holds of no text at all. -/

/-- The findings are fixed one after the other, each fix is done, and the document has this text in
the end. -/
def FixesTo (id : DocumentId) : Checker → List Diagnostic → String → Prop
  | c, [], text => c.workspace.text? id = some text
  | c, d :: ds, text => (c.fix id d).1 = .ok () ∧ FixesTo id (c.fix id d).2 ds text

instance FixesTo.decidable (id : DocumentId) :
    ∀ (c : Checker) (ds : List Diagnostic) (text : String), Decidable (FixesTo id c ds text)
  | c, [], text => inferInstanceAs (Decidable (c.workspace.text? id = some text))
  | c, d :: ds, text =>
    have := FixesTo.decidable id (c.fix id d).2 ds text
    inferInstanceAs (Decidable ((c.fix id d).1 = .ok () ∧ FixesTo id (c.fix id d).2 ds text))

/-- What is needed to fix findings one after the other. -/
structure Ready (id : DocumentId) (text : String) (ds : List Diagnostic) (c : Checker) : Prop where
  /-- The checker is active. -/
  active : c.active = true
  /-- Edits are admitted. -/
  writable : c.workspace.readOnly = false
  /-- The document is open with a text. -/
  text?_eq : c.workspace.text? id = some text
  /-- The findings are recorded for it. -/
  recorded : ∀ d ∈ ds, d ∈ c.diagnostics id
  /-- None is to be fixed twice. -/
  nodup : ds.Nodup

/-- A fix is an edit, and the findings that are still to be fixed stay recorded, as they are. -/
theorem Ready.fix {ds : List Diagnostic} (h : Ready id text (d :: ds) c)
    (hs : d.suggestion = some s) (hr : d.range.LiesIn text.toList.length) :
    ∃ c', c.fix id d = (.ok (), c') ∧
      Ready id (String.ofList (splice text.toList d.range s.toList)) ds c' := by
  obtain ⟨hd, hrecorded⟩ := List.forall_mem_cons.1 h.recorded
  obtain ⟨hnot, hnodup⟩ := List.nodup_cons.1 h.nodup
  obtain ⟨w, hedit⟩ := Workspace.exists_edit h.writable h.text?_eq hr s
  have hsame := sameElsewhere_withFixed hedit
  refine ⟨_, fix_of_edit h.active hd hs hedit, hsame.active_eq.trans h.active,
    hsame.readOnly_eq.trans h.writable, Workspace.text?_edit hedit h.text?_eq, fun e he => ?_,
    hnodup⟩
  have hne : e ≠ d := fun heq => hnot (heq ▸ he)
  rw [diagnostics_withFixed, if_pos rfl]
  exact (List.mem_erase_of_ne hne).2 (hrecorded e he)

/-- **Fixes are edits with the ranges that were recorded**, in whatever order.  By induction on what
is to be fixed. -/
theorem fixesTo_iff (fixes : List (Diagnostic × String))
    (h : Ready id text (fixes.map (·.1)) c) (hs : ∀ p ∈ fixes, p.1.suggestion = some p.2)
    {fixed : String} :
    FixesTo id c (fixes.map (·.1)) fixed ↔
      Text.EditsTo text.toList (fixes.map fun p => (p.1.range, p.2.toList)) fixed.toList := by
  induction fixes generalizing c text with
  | nil =>
    rw [List.map_nil, List.map_nil, FixesTo, Text.EditsTo, h.text?_eq, Option.some_inj,
      String.toList_inj, eq_comm]
  | cons p fixes ih =>
    obtain ⟨hp, hfixes⟩ := List.forall_mem_cons.1 hs
    rw [List.map_cons, List.map_cons, FixesTo, Text.EditsTo]
    by_cases hr : p.1.range.LiesIn text.toList.length
    · obtain ⟨c', hfix, hready⟩ := h.fix hp hr
      have hrest := ih hready hfixes
      rw [String.toList_ofList] at hrest
      rw [hfix, ← hrest]
      exact ⟨fun h => ⟨hr, h.2⟩, fun h => ⟨rfl, h.2⟩⟩
    · have hrefused := fix_of_not_liesIn h.active h.writable h.text?_eq
        (h.recorded p.1 List.mem_cons_self) hp hr
      rw [hrefused]
      exact ⟨fun h => by simp at h, fun h => absurd h.1 hr⟩

/-! ## Two fixes

Both orders are told exactly, with the condition under which each is done, and only then
compared.  The comparison therefore has the refusal in it: an order that is refused does not come
to the same. -/

/-- **Two fixes in one document.**  Right after a check that went through, two findings are fixed,
of which `d` ends before `e` begins.  From the end backwards, both fixes are done, and both ranges
of the text are replaced.  From the beginning, `e` is fixed with its range in the text that `d` has
left, if that is long enough, and refused otherwise; so this comes to the same exactly if the text
is long enough and the suggestion of `e` may as well stand in this range as where its characters
have gone.  It does if the suggestion of `d` is as long as what it replaces. -/
theorem fix_fix_of_check {workspace : Workspace} {delay : Duration} {events : List Event}
    {reports : List Report} {n : Nat}
    (hrun : ((withDelay workspace delay).afterAll events).Runs reports c)
    (hreport : ⟨id, .ok n⟩ ∈ reports) (hwritable : c.workspace.readOnly = false)
    (hd : d ∈ c.diagnostics id) (he : e ∈ c.diagnostics id) (hne : d ≠ e)
    (hs : d.suggestion = some s) (ht : e.suggestion = some t)
    (hle : d.range.stop ≤ e.range.start) :
    ∃ text, c.UpToDate id text ∧
      let edited := splice text.toList d.range s.toList
      let both := replaceAll text.toList text.toList.length
        [(e.range, t.toList), (d.range, s.toList)]
      (∀ fixed, FixesTo id c [e, d] fixed ↔ fixed.toList = both) ∧
        (∀ fixed, FixesTo id c [d, e] fixed ↔
          e.range.stop ≤ edited.length ∧ fixed.toList = splice edited e.range t.toList) ∧
        (FixesTo id c [d, e] (String.ofList both) ↔ e.range.stop ≤ edited.length ∧
          Interchangeable edited e.range (shifted e.range d.range s.toList.length) t.toList) ∧
        (s.toList.length = d.range.length → FixesTo id c [d, e] (String.ofList both)) ∧
        ∃ c', c.fix id d = (.ok (), c') ∧ c'.workspace.text? id = some (String.ofList edited) ∧
          (edited.length < e.range.stop →
            c'.fix id e = (.error (.refused id (.outside e.range)), c')) := by
  obtain ⟨ids, hnodup, hran⟩ := hrun.ran ((sound_withDelay workspace delay).afterAll events)
  obtain ⟨text, hup⟩ := hran.upToDate hnodup hreport
  have hlies : d.range.LiesIn e.range.start :=
    ⟨(liesIn_of_check hup.recorded hd).start_le_stop, hle⟩
  have hlies' := liesIn_of_check hup.recorded he
  have hready : Ready id text [d, e] c :=
    ⟨hrun.active hreport, hwritable, hup.text?_eq, by simp [hd, he], by simp [hne]⟩
  have hready' : Ready id text [e, d] c :=
    ⟨hready.active, hwritable, hup.text?_eq, by simp [hd, he], by simp [hne.symm]⟩
  refine ⟨text, hup, ?_⟩
  intro edited both
  have hbehind : ∀ fixed, FixesTo id c [e, d] fixed ↔ fixed.toList = both := fun fixed =>
    (fixesTo_iff [(e, t), (d, s)] hready' (by simp [hs, ht])).trans
      (Text.editsTo_pair_of_behind hlies hlies')
  have hfront : ∀ fixed, FixesTo id c [d, e] fixed ↔
      e.range.stop ≤ edited.length ∧ fixed.toList = splice edited e.range t.toList := fun fixed =>
    (fixesTo_iff [(d, s), (e, t)] hready (by simp [hs, ht])).trans
      (Text.editsTo_pair_of_front hlies hlies')
  have hboth : FixesTo id c [d, e] (String.ofList both) ↔ e.range.stop ≤ edited.length ∧
      Interchangeable edited e.range (shifted e.range d.range s.toList.length) t.toList := by
    rw [hfront, String.toList_ofList, eq_comm, Text.splice_splice_eq_replaceAll_iff hlies hlies']
  refine ⟨hbehind, hfront, hboth, fun hlength => ?_, ?_⟩
  · have hkept := Text.length_splice (liesIn_of_check hup.recorded hd) s.toList
    refine hboth.2 ⟨?_, ?_⟩
    · rw [hlength, Nat.add_right_cancel_iff] at hkept
      exact hkept ▸ hlies'.stop_le
    · rw [hlength, Text.shifted_length]
      exact Text.interchangeable_self
  · obtain ⟨c', hfix, hready₁⟩ := hready.fix hs (liesIn_of_check hup.recorded hd)
    refine ⟨c', hfix, hready₁.text?_eq, fun hshort => ?_⟩
    refine fix_of_not_liesIn hready₁.active hready₁.writable hready₁.text?_eq
      (hready₁.recorded e List.mem_cons_self) ht fun h => ?_
    rw [String.toList_ofList] at h
    exact Nat.not_lt.2 h.stop_le hshort

/-- In `teh teh` the suggestions are as long as what they replace, and the order does not count. -/
theorem fix_fix_teh_teh :
    let begin := (withDelay .empty defaultDelay).afterAll
      [.start [.everyMatch "teh" .warning "a slip" "the"], .openDocument "a" "teh teh",
        .request 0 "a"]
    let c := begin.runAll.2
    let d : Diagnostic := ⟨⟨0, 3⟩, .warning, "a slip\nthe"⟩
    let e : Diagnostic := ⟨⟨4, 7⟩, .warning, "a slip\nthe"⟩
    begin.runAll.1 = [⟨"a", .ok 2⟩] ∧ c.diagnostics "a" = [d, e] ∧
      FixesTo "a" c [e, d] "the the" ∧ FixesTo "a" c [d, e] "the the" := by
  intro begin c d e
  have hreports : begin.runAll.1 = [⟨"a", .ok 2⟩] := by decide +kernel
  have hrecord : c.diagnostics "a" = [d, e] := by decide +kernel
  have htext : c.workspace.text? "a" = some "teh teh" := by decide +kernel
  have hwritable : c.workspace.readOnly = false := by decide +kernel
  have hsuggestion : d.suggestion = some "the" := by decide +kernel
  have hsuggestion' : e.suggestion = some "the" := by decide +kernel
  obtain ⟨text, hup, hbehind, -, -, hlength, -⟩ := fix_fix_of_check (d := d) (e := e)
    (.inr rfl) (hreports ▸ List.mem_singleton_self _) hwritable (hrecord ▸ List.mem_cons_self)
    (hrecord ▸ List.mem_cons_of_mem _ List.mem_cons_self) (by decide) hsuggestion hsuggestion'
    (by decide)
  obtain rfl : text = "teh teh" := Option.some_inj.1 (hup.text?_eq.symm.trans htext)
  exact ⟨hreports, hrecord, (hbehind "the the").2 rfl, hlength rfl⟩

/-- In `a a` the second `a` is no longer where it was once the first is replaced by `xyz`. -/
theorem fix_fix_a_a :
    let begin := (withDelay .empty defaultDelay).afterAll
      [.start [.everyMatch "a" .warning "a slip" "xyz"], .openDocument "a" "a a",
        .request 0 "a"]
    let c := begin.runAll.2
    let d : Diagnostic := ⟨⟨0, 1⟩, .warning, "a slip\nxyz"⟩
    let e : Diagnostic := ⟨⟨2, 3⟩, .warning, "a slip\nxyz"⟩
    Text.withoutComments "a a" = "a a" ∧ begin.runAll.1 = [⟨"a", .ok 2⟩] ∧
      c.diagnostics "a" = [d, e] ∧ d.suggestion = some "xyz" ∧ e.suggestion = some "xyz" ∧
      FixesTo "a" c [e, d] "xyz xyz" ∧ FixesTo "a" c [d, e] "xyxyz a" ∧
      ¬FixesTo "a" c [d, e] "xyz xyz" := by
  intro begin c d e
  decide +kernel

end Checker
end Proofreader
