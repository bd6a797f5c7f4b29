import Proofreader.Grammar
import Proofreader.Proofs.Json.Records

/-!
# The format of grammar files

Which JSON texts are grammars, and of which rules.  `IsRule` and `IsGrammar` say it of values, by
what is given for each key and without an order of reading; `parse_laws` says that a grammar file is
read just so.

The way from a text to rules has three stages, and each has its section.

* The readers of modes, severities, texts and rules are shown to take something from each value:
  `reads_readRule` says that reading a rule is the function `rule?` on values.
* `rule?` still has the order of reading in it.  From an object it is a fold that fills the places
  of a draft, one for each field as it comes, and from an array a program that takes one element
  after the other.  `rule?_eq_some_iff` says that it finds a rule exactly if the value is a written
  form of one, by the format.
* A grammar is an array of rules, and a grammar file is a text of it (`parse_eq_ok_iff`).

`IsRule` is the specification, and it is written so that it can be compared with a description of
the format.  A key is given by the list of values that there are for it, `valuesOf`: a list of one
for a key that must be there, and otherwise the empty list too.  This says at once that a key may
not come twice, that the order of the keys does not matter, and that other keys do not.  For the
fold it has to be proved.  The six places of a draft do not touch each other, and each is filled
from the values for its own key, so the fold over all fields is six folds over six lists
(`foldlM_add_eq_some_iff`); and a place is filled by a list exactly if that has one value or is
empty (`fill`).

An array has no keys.  It is the same six values in a fixed order, and only the last may be missing:
the fourth also has a default, but it cannot be left out when the fifth is there.

`IsRecord` says of a value alone, without a rule, that it can be read.  It is proved to be the same
as having a rule (`isRecord_iff`), and it is what the laws on faults are stated with.
-/

set_option autoImplicit false

namespace Proofreader
namespace Grammar

open Json

variable {α : Type}

/-! ## The format

A mode and a severity are given by their codes, which are natural numbers written without a sign, a
point or an exponent. -/

/-- The values that the fields of an object give for a key, in order. -/
def valuesOf (key : String) (fs : List (String × Value)) : List Value :=
  (fs.filter (·.1 == key)).map (·.2)

/-- The keys of a rule that is written as an object. -/
def knownKeys : List String := ["mode", "severity", "pattern", "arg", "message", "suggestion"]

/-- The fields of an object make up a rule.  Other keys than these may be there, with any values. -/
structure IsRuleObject (fs : List (String × Value)) (rule : Rule) : Prop where
  /-- There is one `mode`, -/
  mode : ∃ v, valuesOf "mode" fs = [v] ∧ v.natural? = some rule.mode.code
  /-- one `severity`, -/
  severity : ∃ v, valuesOf "severity" fs = [v] ∧ v.natural? = some rule.severity.code
  /-- one `pattern` -/
  pattern : valuesOf "pattern" fs = [.string rule.pattern]
  /-- and one `message`. -/
  message : valuesOf "message" fs = [.string rule.message]
  /-- There may be an `arg`, -/
  companion : valuesOf "arg" fs = [.string rule.companion] ∨
    valuesOf "arg" fs = [] ∧ rule.companion = ""
  /-- and a `suggestion`. -/
  suggestion : valuesOf "suggestion" fs = [.string rule.suggestion] ∨
    valuesOf "suggestion" fs = [] ∧ rule.suggestion = ""

/-- A value is a written form of a rule: an object, or an array with the same values in a fixed
order, of which the last may be missing. -/
inductive IsRule : Value → Rule → Prop where
  /-- An object. -/
  | object {fs : List (String × Value)} {rule : Rule} (h : IsRuleObject fs rule) :
      IsRule (.object fs) rule
  /-- An array of six. -/
  | six {rule : Rule} {mode severity : Value} (hmode : mode.natural? = some rule.mode.code)
      (hseverity : severity.natural? = some rule.severity.code) :
      IsRule (.array [mode, severity, .string rule.pattern, .string rule.companion,
        .string rule.message, .string rule.suggestion]) rule
  /-- An array of five. -/
  | five {rule : Rule} {mode severity : Value} (hmode : mode.natural? = some rule.mode.code)
      (hseverity : severity.natural? = some rule.severity.code)
      (hsuggestion : rule.suggestion = "") :
      IsRule (.array [mode, severity, .string rule.pattern, .string rule.companion,
        .string rule.message]) rule

/-- A value is an integer from zero up to a limit, written without a sign. -/
def IsCode (limit : Nat) (v : Value) : Prop := ∃ n ≤ limit, v.natural? = some n

/-- A value is a record of which a rule can be made. -/
def IsRecord : Value → Prop
  | .object fs =>
    (∃ v, valuesOf "mode" fs = [v] ∧ IsCode 2 v) ∧
    (∃ v, valuesOf "severity" fs = [v] ∧ IsCode 3 v) ∧
    (∃ s, valuesOf "pattern" fs = [.string s]) ∧
    (∃ s, valuesOf "message" fs = [.string s]) ∧
    (valuesOf "arg" fs = [] ∨ ∃ s, valuesOf "arg" fs = [.string s]) ∧
    (valuesOf "suggestion" fs = [] ∨ ∃ s, valuesOf "suggestion" fs = [.string s])
  | .array vs =>
    ∃ (mode severity : Value) (texts : List String),
      vs = mode :: severity :: texts.map .string ∧ IsCode 2 mode ∧ IsCode 3 severity ∧
        (texts.length = 3 ∨ texts.length = 4)
  | _ => False

/-- A value is a written form of rules: an array with one rule after the other. -/
def IsGrammar (v : Value) (rules : List Rule) : Prop :=
  ∃ elements, v = .array elements ∧ List.Forall₂ IsRule elements rules

/-! ## Codes and texts

A code is read as one byte and then looked up.  Either step may refuse it; but no mode and no
severity has a code that is too large for a byte, so what is taken from a value is told by the
second step alone. -/

/-- What a value is the number of. -/
def coded? (ofCode : Nat → Except CodeFault α) (v : Value) : Option α :=
  v.natural?.bind fun n => (ofCode n).toOption

theorem coded?_eq_some_iff {ofCode : Nat → Except CodeFault α} {code : α → Nat}
    (hcode : ∀ a, ofCode (code a) = .ok a) (hof : ∀ n a, ofCode n = .ok a → code a = n)
    {v : Value} {a : α} : coded? ofCode v = some a ↔ v.natural? = some (code a) := by
  rw [coded?, Option.bind_eq_some_iff]
  constructor
  · rintro ⟨n, hn, ha⟩
    cases hcoded : ofCode n with
    | ok b =>
      rw [hcoded] at ha
      obtain rfl := Option.some_inj.1 ha
      rw [hn, hof n b hcoded]
    | error fault =>
      rw [hcoded] at ha
      cases ha
  · intro h
    exact ⟨code a, h, by rw [hcode]; rfl⟩

theorem mode?_eq_some_iff {v : Value} {m : RuleMode} :
    coded? RuleMode.ofCode v = some m ↔ v.natural? = some m.code :=
  coded?_eq_some_iff RuleMode.ofCode_code fun _ _ => RuleMode.code_of_ofCode

theorem severity?_eq_some_iff {v : Value} {s : Severity} :
    coded? Severity.ofCode v = some s ↔ v.natural? = some s.code :=
  coded?_eq_some_iff Severity.ofCode_code fun _ _ => Severity.code_of_ofCode

theorem yields_ofCode (code : Except CodeFault α) (t : List Char) :
    Yields (ofCode code) t (code.toOption.map (·, t)) := by
  cases code with
  | ok a => exact .pure a t
  | error fault => exact .failLater _ t

/-- Codes are read from natural numbers, of which one byte is enough. -/
theorem reads_code {ofNat : Nat → Except CodeFault α} (h : ∀ n a, ofNat n = .ok a → n < 256) :
    Reads (do ofCode (ofNat (← ReadM.expectNatural 256 "u8"))) (coded? ofNat) := by
  intro v before t r hbefore hv hr
  have hnatural := Reads.expectNatural (show 256 ≤ wordSize by decide) "u8" hbefore hv hr
  rw [coded?]
  cases hn : v.natural? with
  | none =>
    simp only [hn] at hnatural
    exact .bind_none hnatural _
  | some n =>
    simp only [hn, Option.filter_some] at hnatural
    by_cases hlt : n < 256
    · rw [if_pos (decide_eq_true hlt)] at hnatural
      exact .bind hnatural (yields_ofCode _ r)
    · rw [if_neg (by simpa using hlt)] at hnatural
      rw [Option.bind_some]
      cases hcode : ofNat n with
      | ok a => exact absurd (h n a hcode) hlt
      | error fault => exact .bind_none hnatural _

theorem reads_readMode : Reads readMode (coded? RuleMode.ofCode) :=
  reads_code fun n m h => by
    rw [← RuleMode.code_of_ofCode h]
    cases m <;> decide

theorem reads_readSeverity : Reads readSeverity (coded? Severity.ofCode) :=
  reads_code fun n s h => by
    rw [← Severity.code_of_ofCode h]
    cases s <;> decide

theorem reads_readText : Reads readText Value.string? := .expectString _

/-! ## Objects

A field is put into a draft under its key.  A known key must not have been there before; under an
unknown one any value is stepped over, and nothing changes.  A key may be written with escapes: it
is compared after they were read. -/

/-- What is taken from a value for a place that must be empty. -/
def once (take : Value → Option α) (old : Option α) (v : Value) : Option α :=
  if old.isSome then none else take v

/-- A field into a draft. -/
def Draft.add (d : Draft) (f : String × Value) : Option Draft :=
  match f.1 with
  | "mode" => (once (coded? RuleMode.ofCode) d.mode f.2).map fun m => { d with mode := some m }
  | "severity" =>
    (once (coded? Severity.ofCode) d.severity f.2).map fun s => { d with severity := some s }
  | "pattern" => (once Value.string? d.pattern f.2).map fun s => { d with pattern := some s }
  | "arg" => (once Value.string? d.companion f.2).map fun s => { d with companion := some s }
  | "message" => (once Value.string? d.message f.2).map fun s => { d with message := some s }
  | "suggestion" =>
    (once Value.string? d.suggestion f.2).map fun s => { d with suggestion := some s }
  | _ => some d

/-- Fields with unknown keys are stepped over. -/
theorem readField_of_unknown {key : String} (hkey : key ∉ knownKeys) (d : Draft) :
    readField key d = do
      ReadM.skipField
      return d := by
  unfold readField
  split
  case h_7 => rfl
  all_goals exact absurd (by decide) hkey

theorem Draft.add_of_unknown {key : String} (hkey : key ∉ knownKeys) (d : Draft) (v : Value) :
    d.add (key, v) = some d := by
  unfold Draft.add
  dsimp only
  split
  case h_7 => rfl
  all_goals exact absurd (by decide) hkey

theorem readsField_readField (key : String) (d : Draft) :
    ReadsField (readField key d) fun v => d.add (key, v) := by
  by_cases hkey : key ∈ knownKeys
  · simp only [knownKeys, List.mem_cons, List.not_mem_nil, or_false] at hkey
    rcases hkey with rfl | rfl | rfl | rfl | rfl | rfl
    · exact (ReadsField.readOnce reads_readMode _ _).map _
    · exact (ReadsField.readOnce reads_readSeverity _ _).map _
    · exact (ReadsField.readOnce reads_readText _ _).map _
    · exact (ReadsField.readOnce reads_readText _ _).map _
    · exact (ReadsField.readOnce reads_readText _ _).map _
    · exact (ReadsField.readOnce reads_readText _ _).map _
  · rw [readField_of_unknown hkey]
    simp only [Draft.add_of_unknown hkey]
    exact ReadsField.skipField.map _

/-- The rule that a draft has become, if nothing is missing. -/
def Draft.rule? (d : Draft) : Option Rule := do
  let mode ← d.mode
  let severity ← d.severity
  let pattern ← d.pattern
  let message ← d.message
  return ⟨mode, severity, pattern, d.companion.getD "", message, d.suggestion.getD ""⟩

theorem yields_required (name : String) (o : Option α) (t : List Char) :
    Yields (ReadM.required name o) t (o.map (·, t)) := by
  cases o with
  | none => exact .failLater _ t
  | some a => exact .pure a t

theorem yields_finish (d : Draft) (t : List Char) : Yields d.finish t (d.rule?.map (·, t)) := by
  simp only [Draft.finish, Draft.rule?, Option.bind_eq_bind, Option.map_bind,
    Function.comp_def]
  exact .bind_option (yields_required _ _ t) fun _ _ =>
    .bind_option (yields_required _ _ t) fun _ _ => .bind_option (yields_required _ _ t) fun _ _ =>
    .bind_option (yields_required _ _ t) fun _ _ => .pure _ t

/-- What is taken from the fields of an object. -/
def ofFields (fs : List (String × Value)) : Option Rule :=
  (fs.foldlM Draft.add .blank).bind Draft.rule?

theorem yields_readRuleObject {fs : List (String × Value)} {t r : List Char}
    (h : Written (.fields true fs) t r) :
    Yields readRuleObject t ((ofFields fs).map (·, '\x7d' :: r)) := by
  have hfields := Yields.readFields readsField_readField h .blank (t.length + 1)
    (Nat.lt_succ_self _)
  refine .bind (.enough t) ?_
  rw [ofFields, Option.map_bind]
  exact .bind_option hfields fun d _ => yields_finish d _

/-! ## Arrays

The reader and what it takes are two programs with the same shape, so that the one takes what the
other says follows from their parts. -/

/-- What is taken from the elements of an array. -/
def ofElements : StateT (List Value) Option Rule := do
  let mode ← takeElement (coded? RuleMode.ofCode)
  let severity ← takeElement (coded? Severity.ofCode)
  let pattern ← takeElement Value.string?
  let companion ← takeElementOr "" Value.string?
  let message ← takeElement Value.string?
  let suggestion ← takeElementOr "" Value.string?
  return ⟨mode, severity, pattern, companion, message, suggestion⟩

theorem takes_readRuleArray : Takes readRuleArray true ofElements :=
  .bind (.element reads_readMode 0 _) fun _ => .bind (.element reads_readSeverity 1 _) fun _ =>
  .bind (.element reads_readText 2 _) fun _ => .bind (.elementOr reads_readText 3 _) fun _ =>
  .bind (.element reads_readText 4 _) fun _ => .bind (.elementOr reads_readText 5 _) fun _ =>
  .pure _

/-- What is taken from a value. -/
def rule? : Value → Option Rule := takeRecord ofFields ofElements

theorem reads_readRule : Reads readRule rule? :=
  .expectRecord (fun _ _ _ => yields_readRuleObject) takes_readRuleArray _

/-! ## What is taken, by the format

For an array both directions go through the six elements one by one.  For an object they go through
the places of a draft, which are dealt with first. -/

theorem string?_eq_some_iff {v : Value} {s : String} : v.string? = some s ↔ v = .string s := by
  cases v <;> simp [Value.string?]

theorem rule?_array_iff {vs : List Value} {rule : Rule} :
    rule? (.array vs) = some rule ↔ IsRule (.array vs) rule := by
  rw [rule?, takeRecord_array_eq_some_iff, ofElements]
  simp only [bind_eq_some_iff, takeElement_eq_some_iff, takeElementOr_eq_some_iff,
    mode?_eq_some_iff, severity?_eq_some_iff, string?_eq_some_iff]
  constructor
  · rintro ⟨mode, vs, ⟨vmode, rfl, hmode⟩, severity, vs, ⟨vseverity, rfl, hseverity⟩,
      pattern, vs, ⟨_, rfl, rfl⟩, companion, vs, hcompanion, message, vs, ⟨_, rfl, rfl⟩,
      suggestion, vs, hsuggestion, hrule⟩
    obtain rfl : rule = ⟨mode, severity, pattern, companion, message, suggestion⟩ :=
      (Prod.mk.inj (Option.some_inj.1 hrule)).1.symm
    obtain rfl : vs = [] := (Prod.mk.inj (Option.some_inj.1 hrule)).2
    obtain ⟨_, rfl, rfl⟩ | ⟨-, hnil, -⟩ := hcompanion
    · obtain ⟨_, rfl, rfl⟩ | ⟨rfl, -, rfl⟩ := hsuggestion
      · exact @IsRule.six ⟨_, _, _, _, _, _⟩ _ _ hmode hseverity
      · exact @IsRule.five ⟨_, _, _, _, _, _⟩ _ _ hmode hseverity rfl
    · cases hnil
  · intro h
    cases h with
    | six hmode hseverity =>
      exact ⟨_, _, ⟨_, rfl, hmode⟩, _, _, ⟨_, rfl, hseverity⟩, _, _, ⟨_, rfl, rfl⟩, _, _,
        .inl ⟨_, rfl, rfl⟩, _, _, ⟨_, rfl, rfl⟩, _, _, .inl ⟨_, rfl, rfl⟩, rfl⟩
    | five hmode hseverity hsuggestion =>
      exact ⟨_, _, ⟨_, rfl, hmode⟩, _, _, ⟨_, rfl, hseverity⟩, _, _, ⟨_, rfl, rfl⟩, _, _,
        .inl ⟨_, rfl, rfl⟩, _, _, ⟨_, rfl, rfl⟩, _, _, .inr ⟨rfl, rfl, hsuggestion⟩, rfl⟩

/-! ### Fields -/

/-- What comes to stand in a place, from all the values for its key. -/
def fill (take : Value → Option α) (old : Option α) (vs : List Value) : Option (Option α) :=
  vs.foldlM (fun old v => (once take old v).map some) old

theorem fill_cons_eq_some_iff {take : Value → Option α} {old o : Option α} {v : Value}
    {vs : List Value} : fill take old (v :: vs) = some o ↔
      ∃ a, once take old v = some a ∧ fill take (some a) vs = some o := by
  rw [fill, List.foldlM_cons, Option.bind_eq_bind, Option.bind_map, Option.bind_eq_some_iff]
  rfl

/-- A place that is filled already stays as it is, as no other value may come. -/
theorem fill_some_eq_some_iff {take : Value → Option α} {a : α} {vs : List Value} {o : Option α} :
    fill take (some a) vs = some o ↔ vs = [] ∧ o = some a := by
  cases vs with
  | nil =>
    rw [fill, List.foldlM_nil]
    exact ⟨fun h => ⟨rfl, (Option.some_inj.1 h).symm⟩, fun h => by rw [h.2]; rfl⟩
  | cons v vs =>
    rw [fill_cons_eq_some_iff]
    constructor
    · rintro ⟨b, hnone, -⟩
      cases hnone
    · rintro ⟨hnil, -⟩
      cases hnil

/-- A place that is empty at first stays so, or takes the only value there is. -/
theorem fill_none_eq_some_iff {take : Value → Option α} {vs : List Value} {o : Option α} :
    fill take none vs = some o ↔
      vs = [] ∧ o = none ∨ ∃ v a, vs = [v] ∧ take v = some a ∧ o = some a := by
  cases vs with
  | nil =>
    rw [fill, List.foldlM_nil]
    constructor
    · intro h
      exact .inl ⟨rfl, (Option.some_inj.1 h).symm⟩
    · rintro (⟨-, rfl⟩ | ⟨v, a, hv, -⟩)
      · rfl
      · cases hv
  | cons v vs =>
    simp only [fill_cons_eq_some_iff, fill_some_eq_some_iff]
    constructor
    · rintro ⟨a, ha, rfl, rfl⟩
      exact .inr ⟨v, a, rfl, ha, rfl⟩
    · rintro (⟨hv, -⟩ | ⟨w, a, hw, ha, rfl⟩)
      · cases hv
      · cases hw
        exact ⟨a, ha, rfl, rfl⟩

theorem valuesOf_cons (key : String) (f : String × Value) (fs : List (String × Value)) :
    valuesOf key (f :: fs) = if f.1 = key then f.2 :: valuesOf key fs else valuesOf key fs := by
  rw [valuesOf, List.filter_cons]
  by_cases h : f.1 = key
  · rw [if_pos h, if_pos (beq_iff_eq.2 h), List.map_cons]
    rfl
  · rw [if_neg h, if_neg fun heq => h (beq_iff_eq.1 heq)]
    rfl

/-- Each place of a draft is filled from the values for its own key. -/
theorem foldlM_add_eq_some_iff {fs : List (String × Value)} {d d' : Draft} :
    fs.foldlM Draft.add d = some d' ↔
      fill (coded? RuleMode.ofCode) d.mode (valuesOf "mode" fs) = some d'.mode ∧
      fill (coded? Severity.ofCode) d.severity (valuesOf "severity" fs) = some d'.severity ∧
      fill Value.string? d.pattern (valuesOf "pattern" fs) = some d'.pattern ∧
      fill Value.string? d.companion (valuesOf "arg" fs) = some d'.companion ∧
      fill Value.string? d.message (valuesOf "message" fs) = some d'.message ∧
      fill Value.string? d.suggestion (valuesOf "suggestion" fs) = some d'.suggestion := by
  induction fs generalizing d with
  | nil =>
    obtain ⟨mode, severity, pattern, companion, message, suggestion⟩ := d
    obtain ⟨mode', severity', pattern', companion', message', suggestion'⟩ := d'
    simp [valuesOf, fill]
  | cons f fs ih =>
    obtain ⟨key, v⟩ := f
    rw [List.foldlM_cons, Option.bind_eq_bind, Option.bind_eq_some_iff]
    simp only [ih, valuesOf_cons]
    simp only [Draft.add]
    -- The key says which place takes the value.  In all others nothing changes, and no value is
    -- added to those for their keys.
    split
    all_goals simp [fill_cons_eq_some_iff]; grind

theorem Draft.rule?_eq_some_iff {d : Draft} {rule : Rule} :
    d.rule? = some rule ↔ d.mode = some rule.mode ∧ d.severity = some rule.severity ∧
      d.pattern = some rule.pattern ∧ d.companion.getD "" = rule.companion ∧
      d.message = some rule.message ∧ d.suggestion.getD "" = rule.suggestion := by
  obtain ⟨mode, severity, pattern, companion, message, suggestion⟩ := d
  obtain ⟨mode', severity', pattern', companion', message', suggestion'⟩ := rule
  rw [Draft.rule?]
  cases mode <;> cases severity <;> cases pattern <;> cases message <;> simp

/-- A place that must be filled. -/
theorem fill_required_iff {take : Value → Option α} {vs : List Value} {a : α} :
    fill take none vs = some (some a) ↔ ∃ v, vs = [v] ∧ take v = some a := by
  rw [fill_none_eq_some_iff]
  simp

theorem fill_text_iff {vs : List Value} {s : String} :
    fill Value.string? none vs = some (some s) ↔ vs = [.string s] := by
  simp only [fill_required_iff, string?_eq_some_iff]
  constructor
  · rintro ⟨_, rfl, rfl⟩
    rfl
  · rintro rfl
    exact ⟨_, rfl, rfl⟩

/-- A text that may be missing. -/
theorem fill_optional_iff {vs : List Value} {s : String} :
    (∃ o, fill Value.string? none vs = some o ∧ o.getD "" = s) ↔
      vs = [.string s] ∨ vs = [] ∧ s = "" := by
  simp only [fill_none_eq_some_iff, string?_eq_some_iff]
  constructor
  · rintro ⟨_, ⟨rfl, rfl⟩ | ⟨_, s, rfl, rfl, rfl⟩, rfl⟩
    · exact .inr ⟨rfl, rfl⟩
    · exact .inl rfl
  · rintro (rfl | ⟨rfl, rfl⟩)
    · exact ⟨some s, .inr ⟨_, s, rfl, rfl, rfl⟩, rfl⟩
    · exact ⟨none, .inl ⟨rfl, rfl⟩, rfl⟩

theorem ofFields_eq_some_iff {fs : List (String × Value)} {rule : Rule} :
    ofFields fs = some rule ↔ IsRuleObject fs rule := by
  rw [ofFields, Option.bind_eq_some_iff]
  simp only [foldlM_add_eq_some_iff, Draft.rule?_eq_some_iff, Draft.blank]
  constructor
  · rintro ⟨d, ⟨hmode, hseverity, hpattern, hcompanion, hmessage, hsuggestion⟩,
      hmode', hseverity', hpattern', hcompanion', hmessage', hsuggestion'⟩
    rw [hmode', fill_required_iff] at hmode
    rw [hseverity', fill_required_iff] at hseverity
    rw [hpattern', fill_text_iff] at hpattern
    rw [hmessage', fill_text_iff] at hmessage
    simp only [mode?_eq_some_iff] at hmode
    simp only [severity?_eq_some_iff] at hseverity
    exact ⟨hmode, hseverity, hpattern, hmessage, fill_optional_iff.1 ⟨_, hcompanion, hcompanion'⟩,
      fill_optional_iff.1 ⟨_, hsuggestion, hsuggestion'⟩⟩
  · intro h
    obtain ⟨mode, hmode, hcode⟩ := h.mode
    obtain ⟨severity, hseverity, hcode'⟩ := h.severity
    obtain ⟨companion, hcompanion, hcompanion'⟩ := fill_optional_iff.2 h.companion
    obtain ⟨suggestion, hsuggestion, hsuggestion'⟩ := fill_optional_iff.2 h.suggestion
    refine ⟨⟨some rule.mode, some rule.severity, some rule.pattern, companion, some rule.message,
      suggestion⟩, ⟨?_, ?_, ?_, hcompanion, ?_, hsuggestion⟩, rfl, rfl, rfl, hcompanion', rfl,
      hsuggestion'⟩
    · exact fill_required_iff.2 ⟨mode, hmode, mode?_eq_some_iff.2 hcode⟩
    · exact fill_required_iff.2 ⟨severity, hseverity, severity?_eq_some_iff.2 hcode'⟩
    · exact fill_text_iff.2 h.pattern
    · exact fill_text_iff.2 h.message

/-- **What is taken from a value is the rule that it is a written form of.** -/
theorem rule?_eq_some_iff {v : Value} {rule : Rule} : rule? v = some rule ↔ IsRule v rule := by
  cases v with
  | array vs => exact rule?_array_iff
  | object fs =>
    refine ofFields_eq_some_iff.trans ⟨.object, fun h => ?_⟩
    cases h with
    | object h => exact h
  | _ => exact ⟨nofun, nofun⟩

theorem mapM_rule?_eq_some_iff {vs : List Value} {rules : List Rule} :
    vs.mapM rule? = some rules ↔ List.Forall₂ IsRule vs rules := by
  induction vs generalizing rules with
  | nil =>
    rw [List.mapM_nil, List.forall₂_nil_left_iff]
    exact ⟨fun h => (Option.some_inj.1 h).symm, fun h => congrArg some h.symm⟩
  | cons v vs ih =>
    rw [List.mapM_cons, List.forall₂_cons_left_iff]
    simp only [Option.bind_eq_bind, Option.bind_eq_some_iff, rule?_eq_some_iff, ih]
    constructor
    · rintro ⟨rule, hrule, rules', hrules, heq⟩
      exact ⟨rule, rules', hrule, hrules, (Option.some_inj.1 heq).symm⟩
    · rintro ⟨rule, rules', hrule, hrules, rfl⟩
      exact ⟨rule, hrule, rules', hrules, rfl⟩

/-! ## Records

A code in a range is the code of some mode or severity, and texts can be anything. -/

theorem isCode_two_iff {v : Value} :
    IsCode 2 v ↔ ∃ m : RuleMode, v.natural? = some m.code := by
  constructor
  · rintro ⟨n, hn, hv⟩
    obtain rfl | rfl | rfl : n = 0 ∨ n = 1 ∨ n = 2 := by omega
    · exact ⟨.everyMatch, hv⟩
    · exact ⟨.notPreceded, hv⟩
    · exact ⟨.notFollowed, hv⟩
  · rintro ⟨m, hm⟩
    exact ⟨m.code, by cases m <;> decide, hm⟩

theorem isCode_three_iff {v : Value} :
    IsCode 3 v ↔ ∃ s : Severity, v.natural? = some s.code := by
  constructor
  · rintro ⟨n, hn, hv⟩
    obtain rfl | rfl | rfl | rfl : n = 0 ∨ n = 1 ∨ n = 2 ∨ n = 3 := by omega
    · exact ⟨.hint, hv⟩
    · exact ⟨.info, hv⟩
    · exact ⟨.warning, hv⟩
    · exact ⟨.error, hv⟩
  · rintro ⟨s, hs⟩
    exact ⟨s.code, by cases s <;> decide, hs⟩

theorem exists_text_iff {vs : List Value} :
    (vs = [] ∨ ∃ s, vs = [.string s]) ↔ ∃ s, vs = [.string s] ∨ vs = [] ∧ s = "" := by
  constructor
  · rintro (hnil | ⟨s, hs⟩)
    · exact ⟨"", .inr ⟨hnil, rfl⟩⟩
    · exact ⟨s, .inl hs⟩
  · rintro ⟨s, hs | ⟨hnil, -⟩⟩
    · exact .inr ⟨s, hs⟩
    · exact .inl hnil

/-- **Records are what rules are written as.** -/
theorem isRecord_iff {v : Value} : IsRecord v ↔ ∃ rule, IsRule v rule := by
  cases v with
  | object fs =>
    rw [IsRecord]
    simp only [isCode_two_iff, isCode_three_iff, exists_text_iff]
    constructor
    · rintro ⟨⟨mode, hmode, m, hm⟩, ⟨severity, hseverity, s, hs⟩, ⟨pattern, hpattern⟩,
        ⟨message, hmessage⟩, ⟨companion, hcompanion⟩, ⟨suggestion, hsuggestion⟩⟩
      exact ⟨⟨m, s, pattern, companion, message, suggestion⟩, .object
        ⟨⟨mode, hmode, hm⟩, ⟨severity, hseverity, hs⟩, hpattern, hmessage, hcompanion, hsuggestion⟩⟩
    · rintro ⟨rule, ⟨⟨mode, hmode, hm⟩, ⟨severity, hseverity, hs⟩, hpattern, hmessage, hcompanion,
        hsuggestion⟩⟩
      exact ⟨⟨mode, hmode, _, hm⟩, ⟨severity, hseverity, _, hs⟩, ⟨_, hpattern⟩, ⟨_, hmessage⟩,
        ⟨_, hcompanion⟩, ⟨_, hsuggestion⟩⟩
  | array vs =>
    rw [IsRecord]
    simp only [isCode_two_iff, isCode_three_iff]
    constructor
    · rintro ⟨mode, severity, texts, rfl, ⟨m, hm⟩, ⟨s, hs⟩, hlength⟩
      match texts, hlength with
      | [pattern, companion, message], _ =>
        exact ⟨_, @IsRule.five ⟨m, s, pattern, companion, message, ""⟩ _ _ hm hs rfl⟩
      | [pattern, companion, message, suggestion], _ =>
        exact ⟨_, @IsRule.six ⟨m, s, pattern, companion, message, suggestion⟩ _ _ hm hs⟩
    · rintro ⟨rule, h⟩
      cases h with
      | six hmode hseverity =>
        exact ⟨_, _, [rule.pattern, rule.companion, rule.message, rule.suggestion], rfl,
          ⟨_, hmode⟩, ⟨_, hseverity⟩, .inr rfl⟩
      | five hmode hseverity =>
        exact ⟨_, _, [rule.pattern, rule.companion, rule.message], rfl, ⟨_, hmode⟩,
          ⟨_, hseverity⟩, .inl rfl⟩
  | _ => exact ⟨nofun, nofun⟩

/-! ## Grammar files

What a reader of the format would ask: which rules come out, when a file is refused, and what makes
no difference. -/

/-- **A grammar file is read as its format says.** -/
theorem parse_eq_ok_iff {text : String} {v : Value} (h : IsTextOf text v) (rules : List Rule) :
    parse text = .ok rules ↔ IsGrammar v rules := by
  rw [parse, (reads_readRule.expectArray _).decode h, IsGrammar]
  cases v with
  | array vs =>
    refine mapM_rule?_eq_some_iff.trans ⟨fun h => ⟨vs, rfl, h⟩, ?_⟩
    rintro ⟨elements, heq, h⟩
    obtain rfl := Value.array.inj heq
    exact h
  | _ => exact ⟨nofun, fun ⟨_, heq, _⟩ => nomatch heq⟩

/-- Two values are the same but for unknown keys and for the order of the others. -/
inductive Alike : Value → Value → Prop where
  /-- The same value. -/
  | refl (v : Value) : Alike v v
  /-- Objects whose fields with known keys are the same in some order. -/
  | object {fs fs' : List (String × Value)}
      (h : (fs.filter (·.1 ∈ knownKeys)).Perm (fs'.filter (·.1 ∈ knownKeys))) :
      Alike (.object fs) (.object fs')

theorem Alike.symm {v v' : Value} (h : Alike v v') : Alike v' v := by
  cases h with
  | refl => exact .refl _
  | object h => exact .object h.symm

theorem valuesOf_perm {fs fs' : List (String × Value)}
    (h : (fs.filter (·.1 ∈ knownKeys)).Perm (fs'.filter (·.1 ∈ knownKeys))) {key : String}
    (hkey : key ∈ knownKeys) : (valuesOf key fs).Perm (valuesOf key fs') := by
  have hfilter : ∀ fs : List (String × Value), fs.filter (·.1 == key) =
      (fs.filter (·.1 ∈ knownKeys)).filter (·.1 == key) := by
    intro fs
    rw [List.filter_filter]
    refine List.filter_congr fun f _ => ?_
    by_cases hf : f.1 = key
    · simp [hf, hkey]
    · simp [hf]
  rw [valuesOf, valuesOf, hfilter fs, hfilter fs']
  exact (h.filter _).map _

/-- Values that are alike are written forms of the same rules. -/
theorem Alike.isRule {v v' : Value} {rule : Rule} (h : Alike v v') (hv : IsRule v rule) :
    IsRule v' rule := by
  cases h with
  | refl => exact hv
  | @object fs fs' h =>
    have hone : ∀ key ∈ knownKeys, ∀ v, valuesOf key fs = [v] → valuesOf key fs' = [v] :=
      fun key hkey v hv => List.perm_singleton.1 (hv ▸ (valuesOf_perm h hkey).symm)
    have hnone : ∀ key ∈ knownKeys, valuesOf key fs = [] → valuesOf key fs' = [] :=
      fun key hkey hv => List.perm_nil.1 (hv ▸ (valuesOf_perm h hkey).symm)
    cases hv with
    | object hv =>
      obtain ⟨mode, hmode, hm⟩ := hv.mode
      obtain ⟨severity, hseverity, hs⟩ := hv.severity
      exact .object ⟨⟨mode, hone _ (by decide) _ hmode, hm⟩,
        ⟨severity, hone _ (by decide) _ hseverity, hs⟩, hone _ (by decide) _ hv.pattern,
        hone _ (by decide) _ hv.message,
        hv.companion.imp (hone _ (by decide) _) (And.imp_left (hnone _ (by decide))),
        hv.suggestion.imp (hone _ (by decide) _) (And.imp_left (hnone _ (by decide)))⟩

theorem Alike.forall₂ {vs vs' : List Value} {rules : List Rule} (h : List.Forall₂ Alike vs vs')
    (hvs : List.Forall₂ IsRule vs rules) : List.Forall₂ IsRule vs' rules := by
  induction h generalizing rules with
  | nil => exact hvs
  | cons hv _ ih =>
    cases hvs with
    | cons hrule hrules => exact .cons (hv.isRule hrule) (ih hrules)

/-- A list of records is a list of written forms of rules. -/
theorem exists_forall₂_iff {vs : List Value} :
    (∃ rules, List.Forall₂ IsRule vs rules) ↔ ∀ v ∈ vs, IsRecord v := by
  induction vs with
  | nil => simp
  | cons v vs ih =>
    rw [List.forall_mem_cons, isRecord_iff, ← ih]
    simp only [List.forall₂_cons_left_iff]
    constructor
    · rintro ⟨_, rule, rules, hrule, hrules, -⟩
      exact ⟨⟨rule, hrule⟩, ⟨rules, hrules⟩⟩
    · rintro ⟨⟨rule, hrule⟩, ⟨rules, hrules⟩⟩
      exact ⟨_, rule, rules, hrule, hrules, rfl⟩

/-- What holds of the text of a grammar file with a value. -/
structure ParseLaws (text : String) (v : Value) : Prop where
  /-- The rules that come out are those that the value is a written form of, one for each element.
  -/
  ok_iff : ∀ rules, parse text = .ok rules ↔ IsGrammar v rules
  /-- Rules come out if the value is an array of records, -/
  exists_ok_iff : (∃ rules, parse text = .ok rules) ↔
    ∃ elements, v = .array elements ∧ ∀ e ∈ elements, IsRecord e
  /-- and a single element that is no record makes a fault of the whole. -/
  error_of_mem : ∀ elements, v = .array elements → ∀ e ∈ elements, ¬ IsRecord e →
    ∃ fault, parse text = .error fault
  /-- The order of keys and unknown keys do not matter. -/
  ok_iff_of_alike : ∀ text' elements elements', v = .array elements →
    IsTextOf text' (.array elements') → List.Forall₂ Alike elements elements' →
      ∀ rules, parse text = .ok rules ↔ parse text' = .ok rules

/-- **Grammar files.**  Whatever well-formed text a grammar file has, the rules in it are those that
its value is a written form of: one rule for each element, if all elements are records, and none
otherwise.  Neither the order of keys nor unknown keys matter. -/
theorem parse_laws {text : String} {v : Value} (h : IsTextOf text v) : ParseLaws text v := by
  have hexists : (∃ rules, parse text = .ok rules) ↔
      ∃ elements, v = .array elements ∧ ∀ e ∈ elements, IsRecord e := by
    simp only [parse_eq_ok_iff h, ← exists_forall₂_iff]
    constructor
    · rintro ⟨rules, elements, hv, hrules⟩
      exact ⟨elements, hv, rules, hrules⟩
    · rintro ⟨elements, hv, rules, hrules⟩
      exact ⟨rules, elements, hv, hrules⟩
  refine ⟨parse_eq_ok_iff h, hexists, ?_, ?_⟩
  · rintro elements rfl e he hne
    cases hparse : parse text with
    | ok rules =>
      obtain ⟨_, heq, hall⟩ := hexists.1 ⟨rules, hparse⟩
      obtain rfl := Value.array.inj heq
      exact absurd (hall e he) hne
    | error fault => exact ⟨fault, rfl⟩
  · rintro text' elements elements' rfl h' halike rules
    rw [parse_eq_ok_iff h, parse_eq_ok_iff h']
    constructor
    · rintro ⟨_, heq, hrules⟩
      obtain rfl := Value.array.inj heq
      exact ⟨elements', rfl, Alike.forall₂ halike hrules⟩
    · rintro ⟨_, heq, hrules⟩
      obtain rfl := Value.array.inj heq
      have hsymm := halike.flip.imp fun _ _ h => Alike.symm h
      exact ⟨elements, rfl, Alike.forall₂ hsymm hrules⟩

/-- An object with an unknown key and with an escape in a known one, and an array. -/
theorem parse_laws_two_records :
    let natural (n : Nat) : Value := .number ⟨false, n, none, none⟩
    let text := "[\x7b\"m\\u006fde\":0, \"severity\":2,\"x\":[],\"message\":\"b\"," ++
      "\"pattern\":\"a\"\x7d,[1,3,\"p\",\"q\",\"r\"]]"
    let v : Value := .array [
      .object [("mode", natural 0), ("severity", natural 2), ("x", .array []),
        ("message", .string "b"), ("pattern", .string "a")],
      .array [natural 1, natural 3, .string "p", .string "q", .string "r"]]
    IsTextOf text v ∧ parse text = .ok [⟨.everyMatch, .warning, "a", "", "b", ""⟩,
      ⟨.notPreceded, .error, "p", "q", "r", ""⟩] := by
  intro natural text v
  have hcode : ∀ r, Code 'o'.toNat ('0' :: '0' :: '6' :: 'f' :: r) r := fun r =>
    ⟨[0, 0, 6, 15], ['0', '0', '6', 'f'], rfl, rfl, .cons ⟨by decide, .inl rfl⟩
      (.cons ⟨by decide, .inl rfl⟩ (.cons ⟨by decide, .inl rfl⟩
        (.cons ⟨by decide, .inl rfl⟩ .nil))), rfl⟩
  have hmode : ∀ r, InString ['m', 'o', 'd', 'e']
      ('m' :: '\\' :: 'u' :: '0' :: '0' :: '6' :: 'f' :: 'd' :: 'e' :: '"' :: r) r := fun r =>
    .plain (by decide) (by decide) (by decide) (.escape (.code (hcode _))
      (@InString.of_plain ['d', 'e'] (by decide) r))
  have htext : text.toList =
      ['[', '\x7b', '"', 'm', '\\', 'u', '0', '0', '6', 'f', 'd', 'e', '"', ':', '0', ',', ' '] ++
      (['"', 's', 'e', 'v', 'e', 'r', 'i', 't', 'y', '"', ':', '2', ',', '"', 'x', '"', ':', '[',
        ']', ','] ++
      (['"', 'm', 'e', 's', 's', 'a', 'g', 'e', '"', ':', '"', 'b', '"', ',', '"', 'p', 'a', 't',
        't', 'e', 'r', 'n', '"', ':', '"', 'a', '"', '\x7d'] ++
      [',', '[', '1', ',', '3', ',', '"', 'p', '"', ',', '"', 'q', '"', ',', '"', 'r', '"', ']',
        ']'])) := by
    decide +kernel
  have h : IsTextOf text v := by
    rw [IsTextOf, htext]
    refine ⟨_, _, .refl _, .array ?_, .refl _⟩
    apply Written.element (.first _)
    · apply Written.object
      apply Written.field (.first _) (hmode _) (.refl _) (.refl _) (.natural 0 _)
      apply Written.plainField ['s', 'e', 'v', 'e', 'r', 'i', 't', 'y'] (by decide)
        (.commaSpace _) (.natural 2 _)
      apply Written.plainField ['x'] (by decide) (.comma _) (.array (.endElements (.refl _)))
      apply Written.plainField ['m', 'e', 's', 's', 'a', 'g', 'e'] (by decide) (.comma _)
        (.plain "b" (by decide) _)
      apply Written.plainField ['p', 'a', 't', 't', 'e', 'r', 'n'] (by decide) (.comma _)
        (.plain "a" (by decide) _)
      exact .endFields (.refl _)
    apply Written.element (.comma _)
    · apply Written.array
      apply Written.element (.first _) (.natural 1 _)
      apply Written.element (.comma _) (.natural 3 _)
      apply Written.element (.comma _) (.plain "p" (by decide) _)
      apply Written.element (.comma _) (.plain "q" (by decide) _)
      apply Written.element (.comma _) (.plain "r" (by decide) _)
      exact .endElements (.refl _)
    exact .endElements (.refl _)
  refine ⟨h, ((parse_laws h).ok_iff _).2 ⟨_, rfl, .cons ?_ (.cons ?_ .nil)⟩⟩
  · exact .object ⟨⟨_, rfl, rfl⟩, ⟨_, rfl, rfl⟩, rfl, rfl, .inr ⟨rfl, rfl⟩, .inr ⟨rfl, rfl⟩⟩
  · exact @IsRule.five ⟨.notPreceded, .error, "p", "q", "r", ""⟩ _ _ rfl rfl rfl

end Grammar
end Proofreader
