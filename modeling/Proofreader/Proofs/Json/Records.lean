import Proofreader.Proofs.Json.Values

/-!
# Reading arrays and records

What reading an array or an object element by element and field by field comes to, by what its
reader takes from each value.

* `Reads.expectArray` — an array of values of one kind.
* `Takes` — a reader of some elements of an array, by what it takes from the list of them.
* `Reads.expectRecord` — a record, written as an object or as an array.

The two forms of a record are read in different ways.  The elements of an array are read by a
program that asks for one after the other, each of another kind, so what it takes is a program too:
it runs in `StateT` over the list of elements that are still to come.  `Takes` relates the two, and
it is kept by `>>=`, so that a reader of six elements needs no proof beyond those of its six parts.

The fields of an object come in any order.  Each is put into what was read before, and what is taken
from all of them is a fold over the list of fields (`Yields.readFields`).

An array must be closed behind the elements that were taken.  If some are left this is a fault, but
it is found only after everything was taken, so the two forms end differently in
`Reads.expectRecord`.
-/

set_option autoImplicit false

namespace Proofreader
namespace Json

open ReadM (enough)

variable {α β σ : Type}

/-! ## Elements

Before an element there is a comma or not, and `Lead` says which.  The elements of a list are read
by induction on the list, while the fuel only has to exceed what is left of the text. -/

namespace Yields

/-- Behind the last element there is none. -/
theorem hasElement_nil (first : Bool) {t r : List Char} (h : Blanks t (']' :: r)) :
    Yields (ReadM.hasElement first) t (some (false, ']' :: r)) :=
  bind (peekPastSpace_cons h (by decide)) (pure _ _)

/-- Before an element there is one, and reading stands before it. -/
theorem hasElement_cons {first : Bool} {v : Value} {t u w : List Char} (hlead : Lead first t u)
    (hv : Written (.value v) u w) : Yields (ReadM.hasElement first) t (some (true, u)) := by
  obtain ⟨c, x, rfl, hc, hne⟩ := hv.exists_first
  cases first with
  | true =>
    refine bind (peekPastSpace_cons hlead hc) ?_
    split
    · next heq => cases heq
    · next heq => exact absurd (Option.some_inj.1 heq) hne
    · exact pure _ _
  | false =>
    obtain ⟨y, hcomma, hblanks⟩ := hlead
    refine bind (peekPastSpace_cons hcomma (by decide)) (bind (bump _ _) ?_)
    refine bind (peekPastSpace_cons hblanks hc) ?_
    split
    · next heq => exact absurd (Option.some_inj.1 heq) hne
    · exact pure _ _
    · next heq => cases heq

/-- An array is closed if no element is left. -/
theorem closeArray {vs : List Value} {t r : List Char} (h : Written (.elements false vs) t r) :
    Yields ReadM.closeArray t (if vs.isEmpty then some ((), r) else none) := by
  cases h with
  | endElements h => exact bind (peekPastSpace_cons h (by decide)) (bump _ _)
  | element hlead hv hvs =>
    obtain ⟨c, x, rfl, hc, hne⟩ := hv.exists_first
    obtain ⟨y, hcomma, hblanks⟩ := hlead
    refine bind (peekPastSpace_cons hcomma (by decide)) (bind (bump _ _) ?_)
    refine bind (peekPastSpace_cons hblanks hc) ?_
    split
    · exact failAtNext _ _
    · exact failAtNext _ _

/-- The elements of an array are read one by one, and the end is left. -/
theorem readElements {read : ReadM α} {take : Value → Option α} (hread : Reads read take)
    {first : Bool} {vs : List Value} {t r : List Char} (h : Written (.elements first vs) t r)
    (fuel : Nat) (hfuel : t.length < fuel) :
    Yields (ReadM.readElements read fuel first) t ((vs.mapM take).map (·, ']' :: r)) := by
  induction vs generalizing first t fuel with
  | nil =>
    obtain ⟨fuel, rfl⟩ := Nat.exists_eq_add_of_lt hfuel
    cases h with
    | endElements h => exact bind (hasElement_nil first h) (pure _ _)
  | cons v vs ih =>
    obtain ⟨fuel, rfl⟩ := Nat.exists_eq_add_of_lt hfuel
    cases h with
    | @element _ _ _ _ u w _ hlead hv hvs =>
      have hle := hlead.length_le
      have hlt := hv.length_lt
      have hfirst := hread (.refl u) hv hvs.delimited_elements
      have hmore := ih hvs (t.length + fuel) (by omega)
      refine bind (hasElement_cons hlead hv) ?_
      rw [List.mapM_cons, Option.bind_eq_bind, Option.map_bind]
      refine bind_option hfirst fun a _ => ?_
      simp only [Function.comp_apply, Option.bind_eq_bind, Option.map_bind]
      exact bind_option hmore fun as _ => pure _ _

end Yields

/-- The elements of an array. -/
def Value.array? : Value → Option (List Value)
  | array vs => some vs
  | _ => none

/-- An array is read by reading its elements. -/
theorem Reads.expectArray {read : ReadM α} {take : Value → Option α} (hread : Reads read take)
    (expected : String) :
    Reads (ReadM.expectArray expected read) fun v => v.array?.bind (·.mapM take) := by
  intro v before t r hbefore h hr
  cases h with
  | number n r =>
    exact Reads.yields_number hbefore expected fun c hmem =>
      if_neg fun heq => hmem (by rw [eq_of_beq heq]; decide)
  | @array vs t r h =>
    refine .bind (.valueStart hbefore rfl) (.bind (.bump _ _) (.located ?_))
    have hbody : Yields (do ReadM.readElements read (← enough) true) t _ :=
      .bind (.enough t) (.readElements hread h _ (Nat.lt_succ_self _))
    show Yields _ t ((vs.mapM take).map (·, r))
    cases htake : vs.mapM take with
    | none =>
      rw [htake] at hbody
      exact .closing_none hbody _
    | some as =>
      rw [htake] at hbody
      exact .closing hbody (.closeArray (.endElements (.refl _)))
  | _ => exact .bind (.valueStart hbefore rfl) (.refuse _ _)

/-! ## Some elements

What is taken, and what is left in the list, is compared with where the reader stands in the text:
behind what it took, and before a written form of what is left. -/

/-- A reader of elements of an array, behind its bracket (`first`) or behind an element: it takes
what `take` says from the list of elements that are still to come, and leaves the others. -/
def Takes (read : ReadM α) (first : Bool) (take : StateT (List Value) Option α) : Prop :=
  ∀ ⦃vs : List Value⦄ ⦃t r : List Char⦄, Written (.elements first vs) t r →
    (take vs = none ∧ Yields read t none) ∨
      ∃ a left w, take vs = some (a, left) ∧ Yields read t (some (a, w)) ∧
        Written (.elements false left) w r

/-- What is taken from the first element. -/
def takeElement (take : Value → Option α) : StateT (List Value) Option α
  | [] => none
  | v :: vs => (take v).map (·, vs)

/-- What is taken from the first element, or a default if there is none. -/
def takeElementOr (default : α) (take : Value → Option α) : StateT (List Value) Option α
  | [] => some (default, [])
  | v :: vs => (take v).map (·, vs)

theorem takeElement_eq_some_iff {take : Value → Option α} {vs left : List Value} {a : α} :
    takeElement take vs = some (a, left) ↔ ∃ v, vs = v :: left ∧ take v = some a := by
  cases vs with
  | nil => simp [takeElement]
  | cons v vs =>
    rw [takeElement]
    simp only [Option.map_eq_some_iff, Prod.mk.injEq, List.cons.injEq]
    constructor
    · rintro ⟨a, ha, rfl, rfl⟩
      exact ⟨v, ⟨rfl, rfl⟩, ha⟩
    · rintro ⟨v, ⟨rfl, rfl⟩, ha⟩
      exact ⟨a, ha, rfl, rfl⟩

theorem takeElementOr_eq_some_iff {default : α} {take : Value → Option α} {vs left : List Value}
    {a : α} : takeElementOr default take vs = some (a, left) ↔
      (∃ v, vs = v :: left ∧ take v = some a) ∨ vs = [] ∧ left = [] ∧ a = default := by
  cases vs with
  | nil =>
    rw [takeElementOr, Option.some_inj, Prod.mk.injEq]
    constructor
    · rintro ⟨rfl, rfl⟩
      exact .inr ⟨rfl, rfl, rfl⟩
    · rintro (⟨v, hv, -⟩ | ⟨-, rfl, rfl⟩)
      · cases hv
      · exact ⟨rfl, rfl⟩
  | cons v vs =>
    have h : takeElementOr default take (v :: vs) = takeElement take (v :: vs) := rfl
    rw [h, takeElement_eq_some_iff]
    simp

/-- What is taken in two steps. -/
theorem bind_eq_some_iff {take : StateT (List Value) Option α}
    {next : α → StateT (List Value) Option β} {vs left : List Value} {b : β} :
    (take >>= next) vs = some (b, left) ↔
      ∃ a rest, take vs = some (a, rest) ∧ next a rest = some (b, left) := by
  show (take vs).bind _ = _ ↔ _
  rw [Option.bind_eq_some_iff]
  exact ⟨fun ⟨p, hp, hnext⟩ => ⟨p.1, p.2, hp, hnext⟩, fun ⟨a, rest, hp, hnext⟩ => ⟨_, hp, hnext⟩⟩

namespace Takes

theorem pure (a : α) : Takes (pure a) false (pure a) :=
  fun vs t _ h => .inr ⟨a, vs, t, rfl, .pure a t, h⟩

theorem bind {x : ReadM α} {f : α → ReadM β} {first : Bool} {take : StateT (List Value) Option α}
    {next : α → StateT (List Value) Option β} (hx : Takes x first take)
    (hf : ∀ a, Takes (f a) false (next a)) : Takes (x >>= f) first (take >>= next) := by
  intro vs t r h
  rcases hx h with ⟨hnone, hyields⟩ | ⟨a, left, w, hsome, hyields, hw⟩
  · refine .inl ⟨?_, .bind_none hyields f⟩
    show (take vs).bind _ = none
    rw [hnone]
    rfl
  · have hnext : (take >>= next) vs = next a left := by
      show (take vs).bind _ = _
      rw [hsome]
      rfl
    rw [hnext]
    rcases hf a hw with ⟨hnone', hyields'⟩ | ⟨b, left', w', hsome', hyields', hw'⟩
    · exact .inl ⟨hnone', .bind hyields hyields'⟩
    · exact .inr ⟨b, left', w', hsome', .bind hyields hyields', hw'⟩

/-- A reader of values takes the first element, and leaves the others. -/
theorem of_yields {x : ReadM α} {o : Option α} {vs : List Value} {t w r : List Char}
    (hx : Yields x t (o.map (·, w))) (hvs : Written (.elements false vs) w r) :
    (o.map (·, vs) = none ∧ Yields x t none) ∨
      ∃ a left w, o.map (·, vs) = some (a, left) ∧ Yields x t (some (a, w)) ∧
        Written (.elements false left) w r := by
  cases o with
  | none => exact .inl ⟨rfl, hx⟩
  | some a => exact .inr ⟨a, vs, w, rfl, hx, hvs⟩

theorem element {read : ReadM α} {take : Value → Option α} (hread : Reads read take)
    (index : Nat) (expected : String) :
    Takes (ReadM.element index expected read) (index == 0) (takeElement take) := by
  intro vs t r h
  cases h with
  | endElements h => exact .inl ⟨rfl, .bind (.hasElement_nil _ h) (.failLater _ _)⟩
  | element hlead hv hvs =>
    have hfirst := hread (.refl _) hv hvs.delimited_elements
    exact of_yields (.bind (.hasElement_cons hlead hv) hfirst) hvs

theorem elementOr {read : ReadM α} {take : Value → Option α} (hread : Reads read take)
    (index : Nat) (default : α) :
    Takes (ReadM.elementOr index default read) (index == 0) (takeElementOr default take) := by
  intro vs t r h
  cases h with
  | endElements h =>
    exact .inr ⟨default, [], _, rfl, .bind (.hasElement_nil _ h) (.pure _ _),
      .endElements (.refl _)⟩
  | element hlead hv hvs =>
    have hfirst := hread (.refl _) hv hvs.delimited_elements
    exact of_yields (.bind (.hasElement_cons hlead hv) hfirst) hvs

end Takes

/-! ## Fields

A field is read from the colon on, as its key was read before to choose the reader. -/

namespace Yields

/-- Behind the last field there is no key. -/
theorem nextKey_nil (first : Bool) {t r : List Char} (h : Blanks t ('\x7d' :: r)) :
    Yields (ReadM.nextKey first) t (some (none, '\x7d' :: r)) :=
  bind (peekPastSpace_cons h (by decide)) (pure _ _)

/-- Before a field there is its key, and reading stands behind it. -/
theorem nextKey_cons {first : Bool} {key t k a : List Char} (hlead : Lead first t ('"' :: k))
    (hkey : InString key k a) :
    Yields (ReadM.nextKey first) t (some (some (String.ofList key), a)) := by
  have hrest : Yields (do
      ReadM.bump
      return some (String.ofList (← ReadM.readString))) ('"' :: k)
      (some (some (String.ofList key), a)) := bind (bump _ _) (bind (readString hkey) (pure _ _))
  cases first with
  | true => exact bind (peekPastSpace_cons hlead (by decide)) hrest
  | false =>
    obtain ⟨x, hcomma, hblanks⟩ := hlead
    refine bind (peekPastSpace_cons hcomma (by decide)) (bind (bump _ _) ?_)
    exact bind (peekPastSpace_cons hblanks (by decide)) hrest

theorem expectColon {a b : List Char} (h : Blanks a (':' :: b)) :
    Yields ReadM.expectColon a (some ((), b)) :=
  bind (peekPastSpace_cons h (by decide)) (bump _ _)

theorem closeObject (r : List Char) : Yields ReadM.closeObject ('\x7d' :: r) (some ((), r)) :=
  bind (peekPastSpace_cons (.refl _) (by decide)) (bump _ _)

end Yields

/-- A reader of the field with a given key, from the colon on: it takes what `take` says from the
value of the field. -/
def ReadsField (read : ReadM α) (take : Value → Option α) : Prop :=
  ∀ ⦃v : Value⦄ ⦃a b u w : List Char⦄, Blanks a (':' :: b) → Blanks b u → Written (.value v) u w →
    Delimited w → Yields read a ((take v).map (·, w))

namespace ReadsField

theorem readOnce {read : ReadM α} {take : Value → Option α} (hread : Reads read take)
    (name : String) (old : Option α) :
    ReadsField (ReadM.readOnce name old read) fun v => if old.isSome then none else take v := by
  intro v a b u w hcolon hblanks hv hw
  rw [ReadM.readOnce]
  cases old with
  | some old => exact .bind_none (.failLater _ a) _
  | none => exact .bind (.expectColon hcolon) (hread hblanks hv hw)

theorem skipField : ReadsField ReadM.skipField fun _ => some () :=
  fun _ _ _ _ _ hcolon hblanks hv hw => .bind (.expectColon hcolon) (Reads.skipAny hblanks hv hw)

theorem map {read : ReadM α} {take : Value → Option α} (hread : ReadsField read take)
    (f : α → β) : ReadsField (do return f (← read)) fun v => (take v).map f :=
  fun _ _ _ _ _ hcolon hblanks hv hw => .map f (hread hcolon hblanks hv hw)

end ReadsField

/-- The fields of an object are read one by one, and the end is left. -/
theorem Yields.readFields {readField : String → σ → ReadM σ} {add : σ → String × Value → Option σ}
    (hread : ∀ key record, ReadsField (readField key record) fun v => add record (key, v))
    {first : Bool} {fs : List (String × Value)} {t r : List Char}
    (h : Written (.fields first fs) t r) (record : σ) (fuel : Nat) (hfuel : t.length < fuel) :
    Yields (ReadM.readFields readField fuel first record) t
      ((fs.foldlM add record).map (·, '\x7d' :: r)) := by
  induction fs generalizing first t record fuel with
  | nil =>
    obtain ⟨fuel, rfl⟩ := Nat.exists_eq_add_of_lt hfuel
    cases h with
    | endFields h => exact bind (nextKey_nil first h) (pure _ _)
  | cons f fs ih =>
    obtain ⟨fuel, rfl⟩ := Nat.exists_eq_add_of_lt hfuel
    cases h with
    | @field _ key v _ _ k a b u w _ hlead hkey hcolon hblanks hv hfs =>
      have hlt := hlead.length_lt_of_key hkey hcolon hblanks
      have hlt' := hv.length_lt
      have hfield : Yields (readField (String.ofList key) record) a
          ((add record (String.ofList key, v)).map (·, w)) :=
        hread _ record hcolon hblanks hv hfs.delimited_fields
      refine bind (nextKey_cons hlead hkey) ?_
      rw [List.foldlM_cons, Option.bind_eq_bind, Option.map_bind]
      exact bind_option hfield fun record' _ => ih hfs record' _ (by omega)

/-! ## Records -/

/-- What is taken from a record: from its fields, or from all of its elements. -/
def takeRecord (takeFields : List (String × Value) → Option α)
    (takeElements : StateT (List Value) Option α) : Value → Option α
  | .object fs => takeFields fs
  | .array vs => (takeElements vs).bind fun (a, left) => if left.isEmpty then some a else none
  | _ => none

theorem takeRecord_array_eq_some_iff {takeFields : List (String × Value) → Option α}
    {takeElements : StateT (List Value) Option α} {vs : List Value} {a : α} :
    takeRecord takeFields takeElements (.array vs) = some a ↔ takeElements vs = some (a, []) := by
  rw [takeRecord]
  cases takeElements vs with
  | none => exact ⟨nofun, nofun⟩
  | some p =>
    obtain ⟨b, left⟩ := p
    cases left with
    | nil => exact ⟨fun h => by rw [Option.some_inj.1 h], fun h => by cases h; rfl⟩
    | cons v left => exact ⟨nofun, nofun⟩

/-- A record is read by reading its fields, if it is written as an object, or else its elements. -/
theorem Reads.expectRecord {asObject asArray : ReadM α}
    {takeFields : List (String × Value) → Option α} {takeElements : StateT (List Value) Option α}
    (hobject : ∀ fs t r, Written (.fields true fs) t r →
      Yields asObject t ((takeFields fs).map (·, '\x7d' :: r)))
    (harray : Takes asArray true takeElements) (expected : String) :
    Reads (ReadM.expectRecord expected asObject asArray) (takeRecord takeFields takeElements) := by
  intro v before t r hbefore h hr
  cases h with
  | number n r =>
    refine Reads.yields_number hbefore expected fun c hmem => ?_
    rw [if_neg fun heq => hmem (by rw [eq_of_beq heq]; decide),
      if_neg fun heq => hmem (by rw [eq_of_beq heq]; decide)]
  | @array vs t r h =>
    refine .bind (.valueStart hbefore rfl) (.bind (.bump _ _) (.located ?_))
    rw [takeRecord]
    rcases harray h with ⟨hnone, hyields⟩ | ⟨a, left, w, hsome, hyields, hw⟩
    · rw [hnone]
      exact .closing_none hyields _
    · rw [hsome]
      have hclosing := Yields.closing hyields (.closeArray hw)
      cases left with
      | nil => exact hclosing
      | cons v left => exact hclosing
  | @object fs t r h =>
    refine .bind (.valueStart hbefore rfl) (.bind (.bump _ _) (.located ?_))
    have hbody := hobject fs t r h
    rw [takeRecord]
    cases htake : takeFields fs with
    | none =>
      rw [htake] at hbody
      exact .closing_none hbody _
    | some a =>
      rw [htake] at hbody
      exact .closing hbody (.closeObject r)
  | _ => exact .bind (.valueStart hbefore rfl) (.refuse _ _)

/-! ## Whole texts

Before and behind the value of a text there may be blanks, and nothing else. -/

/-- **A text is decoded** to what its reader takes from its value, or to a fault if it refuses the
value. -/
theorem Reads.decode {read : ReadM α} {take : Value → Option α} (hread : Reads read take)
    {text : String} {v : Value} (h : IsTextOf text v) (a : α) :
    decode read text = .ok a ↔ take v = some a := by
  obtain ⟨t, r, hblanks, hv, hend⟩ := h
  have hr : Delimited r := hend.delimited (by rintro c ⟨⟩)
  have hyields : Yields (do let a ← read; ReadM.expectEnd; return a) text.toList
      ((take v).map (·, [])) := by
    have hexpectEnd : Yields ReadM.expectEnd r (some ((), [])) :=
      .bind (.peekPastSpace hend (by rintro c ⟨⟩)) (.pure _ _)
    rw [Option.map_eq_bind]
    exact .bind_option (hread hblanks hv hr) fun a _ => .bind hexpectEnd (.pure _ _)
  have hrun : outcome (EStateM.run _ (Cursor.ofText text.toList)) = (take v).map (·, []) :=
    hyields _ rfl
  rw [Json.decode]
  split
  · next b s heq =>
    rw [heq] at hrun
    obtain ⟨c, htake, hc⟩ := Option.map_eq_some_iff.1 hrun.symm
    rw [htake, Except.ok.injEq, Option.some_inj, (Prod.mk.inj hc).1]
  · next fault s heq =>
    rw [heq] at hrun
    rw [Option.map_eq_none_iff.1 hrun.symm]
    exact ⟨nofun, nofun⟩

end Json
end Proofreader
