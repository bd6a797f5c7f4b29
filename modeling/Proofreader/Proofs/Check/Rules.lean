import Proofreader.Proofs.Check.Places
import Proofreader.Proofs.Pattern.Preference

/-!
# Rules do not interact

A check applies its rules in turn and stops at the first that is faulty.  A pattern is compiled when
its turn comes, and the companion of a rule only where the pattern matches at all, so whether rules
are accepted depends on the text.  What one rule does is nevertheless its own affair:

* `check_append` — a check with two lists of rules is the two checks, one behind the other.
* `Rule.ranges_eq_error_iff` — when a rule is faulty, and which source is to blame.
* `check_eq_error_iff` — of several faulty rules the first is told, whatever stands behind it, and
  the findings of the rules before it are lost.
* `check_rules` — the laws together.

Everything about lists of rules comes from `check_append`, which holds with its failures: it is an
equation between two computations, so a fault of the first list is a fault of the whole without
another word.  That the first of several faulty rules is told is then an induction on the rules in
which the head is either the faulty one or stands in front of it, and the case of two lists in
`check_rules` reads the equation off in each of its three cases.

Everything about one rule comes from when its sources are compiled.  The companion is joined to the
pattern into one source, and this source is compiled only if the pattern has a match, since without
a match there is nothing that a companion could save.  Whether the pattern has a match is told by
`Program.Occurs`, which says nothing about how the search goes.  This is where the theory of
matching comes in, and the only place: `Program.matchesIn_ne_nil_iff` makes the laziness a statement
about the text.

Two rules with the same faulty pattern give the same error, so `Rule.Laws` adds to each error the
source that it names.  Otherwise one could not tell a bad pattern from a bad companion.
-/

set_option autoImplicit false

namespace Proofreader

open Text (withoutComments)

/-! ## One list of rules behind another -/

theorem findings_append (text : String) (first second : List Rule) :
    findings text (first ++ second) = do
      let before ← findings text first
      let behind ← findings text second
      return before ++ behind := by
  induction first with
  | nil => exact (bind_pure _).symm
  | cons rule first ih =>
    rw [List.cons_append, findings, findings, ih]
    simp only [bind_assoc, pure_bind, List.append_assoc]

/-- **A check with two lists of rules** is that with the first and then that with the second. -/
theorem check_append (text : String) (first second : List Rule) :
    check text (first ++ second) = do
      let before ← check text first
      let behind ← check text second
      return before ++ behind :=
  findings_append (withoutComments text) first second

/-- A check with one rule finds what the rule does. -/
theorem check_singleton (text : String) (rule : Rule) :
    check text [rule] = rule.findings (withoutComments text) := by
  have hfindings : check text [rule] = do
      let first ← rule.findings (withoutComments text)
      return first ++ [] := rfl
  rw [hfindings]
  simp only [List.append_nil, bind_pure]

/-! ## What one rule compiles

A rule that reports every match and one that expects a companion differ in one argument, the side:
`side?` tells them apart, so that there are two cases below and not three. -/

/-- The side on which a rule of a mode expects a companion, if it expects one at all. -/
def RuleMode.side? : RuleMode → Option Side
  | everyMatch => none
  | notPreceded => some .left
  | notFollowed => some .right

theorem matchRanges_eq_error_iff {text pattern : String} {e : PatternFault} :
    matchRanges text pattern = .error e ↔ Pattern.compile pattern = .error e := by
  rw [matchRanges, bind_eq_error_iff]
  simp [pure_ne_error]

/-- There is nothing to report where the pattern does not occur. -/
theorem matchRanges_eq_nil_iff {text pattern : String} {prog : Pattern.Program}
    (h : Pattern.compile pattern = .ok prog) :
    matchRanges text pattern = .ok [] ↔ ¬prog.Occurs text.toList := by
  have hranges : matchRanges text pattern = .ok (Search.ranges prog text.toList) :=
    matchRanges_eq_ok_iff.2 ⟨prog, h, rfl⟩
  rw [hranges, Except.ok.injEq, ← prog.matchesIn_ne_nil_iff, Decidable.not_not,
    Search.matchesIn_eq_map_ranges, List.map_eq_nil_iff]

/-- The companion is compiled, and can be at fault, only where the pattern occurs. -/
theorem loneMatches_eq_error_iff {text pattern companion : String} {side : Side}
    {e : PatternFault} :
    loneMatches text pattern companion side = .error e ↔ Pattern.compile pattern = .error e ∨
      ∃ prog, Pattern.compile pattern = .ok prog ∧ prog.Occurs text.toList ∧
        Pattern.compile (side.withCompanion pattern companion) = .error e := by
  rw [loneMatches, bind_eq_error_iff, matchRanges_eq_error_iff]
  refine or_congr_right ?_
  constructor
  · rintro ⟨found, hfound, h⟩
    obtain ⟨prog, hprog, -⟩ := matchRanges_eq_ok_iff.1 hfound
    split at h
    · exact absurd h pure_ne_error
    · rename_i hempty
      refine ⟨prog, hprog, ?_, ?_⟩
      · by_contra hnot
        obtain rfl := Except.ok.inj (hfound.symm.trans ((matchRanges_eq_nil_iff hprog).2 hnot))
        exact hempty rfl
      · rcases bind_eq_error_iff.1 h with hwhole | ⟨whole, -, h⟩
        · exact matchRanges_eq_error_iff.1 hwhole
        · split at h <;> exact absurd h pure_ne_error
  · rintro ⟨prog, hprog, hoccurs, hwhole⟩
    have hfound : matchRanges text pattern = .ok (Search.ranges prog text.toList) :=
      matchRanges_eq_ok_iff.2 ⟨prog, hprog, rfl⟩
    refine ⟨_, hfound, ?_⟩
    have hempty : ¬(Search.ranges prog text.toList).isEmpty = true := by
      intro hempty
      rw [List.isEmpty_iff.1 hempty] at hfound
      exact (matchRanges_eq_nil_iff hprog).1 hfound hoccurs
    rw [if_neg hempty]
    exact bind_eq_error_iff.2 (.inl (matchRanges_eq_error_iff.2 hwhole))

namespace Rule

variable {rule : Rule} {text : String} {e : PatternFault}

theorem ranges_of_side?_eq_none (h : rule.mode.side? = none) :
    rule.ranges text = matchRanges text rule.pattern := by
  rw [ranges]
  cases hmode : rule.mode <;> simp_all [RuleMode.side?]

theorem ranges_of_side?_eq_some {side : Side} (h : rule.mode.side? = some side) :
    rule.ranges text = loneMatches text rule.pattern rule.companion side := by
  rw [ranges]
  cases hmode : rule.mode <;> simp_all [RuleMode.side?]

/-- **When a rule is faulty** in a text: its pattern is, or, if it expects a companion and the
pattern occurs in the text, the two together are. -/
theorem ranges_eq_error_iff :
    rule.ranges text = .error e ↔ Pattern.compile rule.pattern = .error e ∨
      ∃ side prog, rule.mode.side? = some side ∧ Pattern.compile rule.pattern = .ok prog ∧
        prog.Occurs text.toList ∧
        Pattern.compile (side.withCompanion rule.pattern rule.companion) = .error e := by
  cases hside : rule.mode.side? with
  | none =>
    rw [ranges_of_side?_eq_none hside, matchRanges_eq_error_iff]
    simp
  | some side =>
    rw [ranges_of_side?_eq_some hside, loneMatches_eq_error_iff]
    simp

theorem findings_eq_error_iff : rule.findings text = .error e ↔ rule.ranges text = .error e := by
  rw [findings, bind_eq_error_iff]
  simp [pure_ne_error]

theorem findings_eq_ok_iff {ds : List Diagnostic} :
    rule.findings text = .ok ds ↔ ∃ rs, rule.ranges text = .ok rs ∧
      ds = rs.map fun r => ⟨r, rule.severity, composeMessage rule.message rule.suggestion⟩ := by
  rw [findings, bind_eq_ok_iff]
  simp only [pure_eq_ok_iff, eq_comm (a := ds)]

end Rule

/-! ## Several rules

A rule in front of others is a list of one rule in front of a list, which is how the induction takes
a list of rules apart. -/

theorem check_cons (text : String) (rule : Rule) (rules : List Rule) :
    check text (rule :: rules) = do
      let first ← check text [rule]
      let more ← check text rules
      return first ++ more :=
  check_append text [rule] rules

/-- **Of several faulty rules the first is told.**  By induction on the rules: a rule that is not
faulty goes to those in front of the first that is. -/
theorem check_eq_error_iff {text : String} {rules : List Rule} {e : PatternFault} :
    check text rules = .error e ↔ ∃ before rule behind ds, rules = before ++ rule :: behind ∧
      check text before = .ok ds ∧ check text [rule] = .error e := by
  induction rules with
  | nil =>
    have hnil : check text [] = .ok [] := rfl
    simp [hnil]
  | cons rule rules ih =>
    rw [check_cons, bind_eq_error_iff]
    constructor
    · rintro (hrule | ⟨first, hrule, hmore⟩)
      · exact ⟨[], rule, rules, [], rfl, rfl, hrule⟩
      · have hrules : check text rules = .error e :=
          (bind_eq_error_iff.1 hmore).resolve_right fun ⟨_, _, h⟩ => pure_ne_error h
        obtain ⟨before, faulty, behind, ds, rfl, hbefore, hfaulty⟩ := ih.1 hrules
        refine ⟨rule :: before, faulty, behind, first ++ ds, rfl, ?_, hfaulty⟩
        rw [check_cons, hrule, hbefore]
        rfl
    · rintro ⟨before, faulty, behind, ds, hsplit, hbefore, hfaulty⟩
      cases before with
      | nil =>
        obtain ⟨rfl, rfl⟩ := List.cons.inj hsplit
        exact .inl hfaulty
      | cons first before =>
        obtain ⟨rfl, rfl⟩ := List.cons.inj hsplit
        rw [check_cons, bind_eq_ok_iff] at hbefore
        obtain ⟨as, hfirst, hbefore⟩ := hbefore
        obtain ⟨bs, hbefore, -⟩ := bind_eq_ok_iff.1 hbefore
        have hrules := ih.2 ⟨before, faulty, behind, bs, rfl, hbefore, hfaulty⟩
        exact .inr ⟨as, hfirst, bind_eq_error_iff.2 (.inl hrules)⟩

/-! ## The laws -/

/-- What is said of a rule that is applied to a text by itself. -/
structure Rule.Laws (rule : Rule) (text : String) : Prop where
  /-- It is faulty exactly if its pattern is; or if it expects a companion, the pattern occurs in
  the text without its comments, and the two together are faulty.  What is faulty is named. -/
  error_iff : ∀ e, check text [rule] = .error e ↔
    Pattern.compile rule.pattern = .error e ∧ e.pattern = rule.pattern ∨
      ∃ side prog, rule.mode.side? = some side ∧ Pattern.compile rule.pattern = .ok prog ∧
        prog.Occurs (withoutComments text).toList ∧
        Pattern.compile (side.withCompanion rule.pattern rule.companion) = .error e ∧
        e.pattern = side.withCompanion rule.pattern rule.companion
  /-- If every match is reported, it makes no difference what companion is named. -/
  companion : rule.mode = .everyMatch →
    ∀ companion, check text [{ rule with companion }] = check text [rule]
  /-- Otherwise there is one finding for each range that the rule reports, in the same order, as
  serious as the rule says and with its message. -/
  ok_iff : ∀ ds, check text [rule] = .ok ds ↔
    rule.ranges (withoutComments text) = .ok (ds.map (·.range)) ∧
      ∀ d ∈ ds, d.severity = rule.severity ∧
        d.message = composeMessage rule.message rule.suggestion

theorem Rule.laws (rule : Rule) (text : String) : rule.Laws text where
  error_iff e := by
    rw [check_singleton, findings_eq_error_iff, ranges_eq_error_iff]
    have hnamed : ∀ source, Pattern.compile source = .error e ↔
        Pattern.compile source = .error e ∧ e.pattern = source := fun source =>
      ⟨fun h => ⟨h, Pattern.pattern_eq_of_compile_eq_error h⟩, And.left⟩
    refine or_congr (hnamed rule.pattern) (exists₂_congr fun side prog => ?_)
    rw [← hnamed (side.withCompanion rule.pattern rule.companion)]
  companion hmode companion := by
    have hranges : ∀ text, ({ rule with companion } : Rule).ranges text = rule.ranges text := by
      intro text
      simp only [ranges, hmode]
    rw [check_singleton, check_singleton, findings, findings, hranges]
  ok_iff ds := by
    rw [check_singleton, findings_eq_ok_iff]
    constructor
    · rintro ⟨rs, hrs, rfl⟩
      rw [List.map_map]
      refine ⟨hrs.trans (congrArg _ (List.map_id rs).symm), fun d hd => ?_⟩
      obtain ⟨r, -, rfl⟩ := List.mem_map.1 hd
      exact ⟨rfl, rfl⟩
    · rintro ⟨hrs, hds⟩
      refine ⟨_, hrs, ?_⟩
      rw [List.map_map]
      refine ((List.map_congr_left fun d hd => ?_).trans (List.map_id ds)).symm
      obtain ⟨hseverity, hmessage⟩ := hds d hd
      rw [Function.comp_apply, ← hseverity, ← hmessage]
      rfl

/-- **Rules do not interact.**  With two lists of rules, the fault of the first is told if it has
one, then that of the second, and else the findings of the first stand before those of the second.
In a list, the first faulty rule is told.  And each rule by itself keeps `Rule.Laws`. -/
theorem check_rules (text : String) :
    (∀ first second : List Rule, check text (first ++ second) =
      match check text first, check text second with
      | .error e, _ => .error e
      | .ok _, .error e => .error e
      | .ok before, .ok behind => .ok (before ++ behind)) ∧
      (∀ (rules : List Rule) (e : PatternFault), check text rules = .error e ↔
        ∃ before rule behind ds, rules = before ++ rule :: behind ∧
          check text before = .ok ds ∧ check text [rule] = .error e) ∧
      ∀ rule : Rule, rule.Laws text := by
  refine ⟨fun first second => ?_, fun rules e => check_eq_error_iff, fun rule => rule.laws text⟩
  rw [check_append]
  cases check text first with
  | error e => rfl
  | ok before => cases check text second <;> rfl

/-- A companion that is no pattern does no harm where the rule finds nothing; where it does, the two
together are told, although another rule has found something before. -/
example :
    let rules : List Rule := [.everyMatch "b" .warning "a slip" "",
      ⟨.notFollowed, .hint, "a", "(", "alone", ""⟩]
    check "b <!-- a -->" rules = .ok [⟨⟨0, 1⟩, .warning, "a slip"⟩] ∧
      (match check "b a" rules with
        | .error e => e.pattern
        | .ok _ => "") = "a(" := by
  decide +kernel

end Proofreader
