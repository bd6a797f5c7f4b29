import Proofreader.Pattern.Match

/-!
# Which match is found

The search follows all ways at once and keeps one way for each address.  What it finds is what
trying the ways one after the other would find, each to its end and the preferred one first:
`Program.match?_eq_leftmost?`, for every program.

* `Program.stop?` tries the ways, from an address on: it is plain backtracking.
* `Frontier.Settled` is the invariant of a frontier: from an address that was passed, nothing is
  reached that was not.
* `Frontier.Extends` relates following a way in a frontier to following it where nothing was passed
  yet.  Since what was passed is settled, the one does less than the other by just the addresses
  that some preferred way had passed (`Frontier.threads_add`).
* Such an address is worth nothing if the preferred way through it fails, so leaving it out changes
  no result (`Program.preferred_add`, `Program.preferred_advance`, `Program.run_eq`).

So a search comes back without a match just if none begins anywhere in the text
(`Program.matchesIn_ne_nil_iff`).

## How the proof goes

What the search does with one way depends on all those it followed before, through the addresses
that are marked as passed.  Backtracking has no such marks.  To compare the two, each addition of a
way is compared with the same addition to an empty frontier: `Code.waiting` lists the addresses that
a way comes to on its own, and what it adds to a frontier is this list less the addresses marked
there.  The marks must not cut off too much for that.  If an address was marked but something behind
it was not, then a way could find the one and lose the other, and what it adds would no longer be
told by a filter.  That this does not happen is `Settled`: it holds of an empty frontier and is kept
by an addition.  It does not hold in the middle of one, so there it has the addresses still to be
followed as a parameter.

The function that follows a way has fuel, and two runs that are compared use it up at different
speeds.  So the comparison is made on the relation `Follows`, which counts nothing.  It has a
constructor for each branch of the function; it has one outcome, and the function computes it, since
each step either marks an address, and adds at most two, or drops one.

The second half is about results only.  The marked addresses are left out of a list in which a match
is looked for, and they are left out because some way waits there already.  That way is preferred.
If it leads to a match, the list is not even looked at, and if it does not, then neither does the
address that was left out.  This is the whole reason why a search that keeps one way for each
address loses nothing, and it is used in one place, `Program.preferred_add`.

No assumption is made on the program.  Jumps may lead outside of the code, and loops may take up no
character.
-/

set_option autoImplicit false

namespace Proofreader
namespace Pattern

/-! ## Following a way

`Code.ways?` puts the instructions into two kinds: those that lead on at once, to at most two
addresses, and those at which a way waits for a character or for the end of the match.  With it the
function that follows a way has three cases instead of one for each instruction (`follow_cons`), and
so does everything that is proved of it. -/

/-- Where an address leads without taking up a character, the preferred way first, unless it is one
to wait at. -/
def Code.ways? (code : Code) (p : Place) (address : Nat) : Option (List Nat) :=
  match code[address]? with
  | some (.split first second) => some [first, second]
  | some (.look l next) => some (if l.holds p.before p.rest.head? then [next] else [])
  | _ => none

namespace Frontier

/-- A way that comes to the address goes no further: some way was there, or it is no address. -/
def Passed (f : Frontier) (address : Nat) : Prop := f.seen.getD address true = true

instance (f : Frontier) (address : Nat) : Decidable (f.Passed address) :=
  inferInstanceAs (Decidable (_ = _))

/-- The frontier once a way came to an address. -/
def pass (f : Frontier) (address : Nat) : Frontier :=
  ⟨f.seen.setIfInBounds address true, f.reversed⟩

/-- The ways of a frontier, the most preferred first. -/
def threads (f : Frontier) : List Thread := f.reversed.reverse

variable {code : Code} {p : Place} {start address : Nat} {todo : List Nat} {f g : Frontier}

theorem passed_pass_iff {b : Nat} : (f.pass address).Passed b ↔ b = address ∨ f.Passed b := by
  simp only [Passed, pass, Array.getD_eq_getD_getElem?, Array.getElem?_setIfInBounds]
  by_cases hb : address = b
  · subst hb
    by_cases hsize : address < f.seen.size <;> simp [hsize]
  · simp [hb, Ne.symm hb]

theorem passed_none_iff {size : Nat} : (none size).Passed address ↔ size ≤ address := by
  by_cases h : address < size
  · simp [Passed, none, Array.getD, h]
  · simpa [Passed, none, Array.getD, h] using Nat.not_lt.1 h

/-- **Following a way**, without counting the steps: from the addresses `todo` on, the frontier `f`
becomes the last one. -/
inductive Follows (code : Code) (p : Place) (start : Nat) :
    (todo : List Nat) → Frontier → Frontier → Prop
  | done {f : Frontier} : Follows code p start [] f f
  | passed {address : Nat} {todo : List Nat} {f g : Frontier} : f.Passed address →
      Follows code p start todo f g → Follows code p start (address :: todo) f g
  | goesOn {address : Nat} {ways todo : List Nat} {f g : Frontier} : ¬f.Passed address →
      code.ways? p address = some ways → Follows code p start (ways ++ todo) (f.pass address) g →
      Follows code p start (address :: todo) f g
  | waits {address : Nat} {todo : List Nat} {f g : Frontier} : ¬f.Passed address →
      code.ways? p address = .none →
      Follows code p start todo
        ⟨(f.pass address).seen, ⟨address, start⟩ :: f.reversed⟩ g →
      Follows code p start (address :: todo) f g

/-- The addresses that are left to pass. -/
def left (f : Frontier) : Nat := f.seen.count false

theorem left_pass (h : ¬f.Passed address) : (f.pass address).left + 1 = f.left := by
  have hlt : address < f.seen.size := Decidable.byContradiction fun hge =>
    h (by simp [Passed, Array.getD, hge])
  have hfalse : f.seen[address] = false := by
    simpa [Passed, Array.getD, hlt] using h
  have hpos : 0 < f.seen.count false := Array.count_pos_iff.2 (hfalse ▸ Array.getElem_mem hlt)
  rw [left, left, pass, Array.setIfInBounds_def, dif_pos hlt, Array.count_set, hfalse,
    if_pos (beq_self_eq_true false), if_neg (by decide)]
  omega

theorem length_ways?_le {ways : List Nat} (h : code.ways? p address = some ways) :
    ways.length ≤ 2 := by
  rw [Code.ways?] at h
  split at h
  · obtain rfl := Option.some.inj h
    simp
  · obtain rfl := Option.some.inj h
    split <;> simp
  · simp at h

/-- One step of following a way. -/
theorem follow_cons (fuel : Nat) :
    follow code p start (fuel + 1) (address :: todo) f =
      if f.Passed address then follow code p start fuel todo f
      else match code.ways? p address with
        | some ways => follow code p start fuel (ways ++ todo) (f.pass address)
        | .none =>
          follow code p start fuel todo
            ⟨(f.pass address).seen, ⟨address, start⟩ :: f.reversed⟩ := by
  have hpassed : (f.seen.getD address true = true) = f.Passed address := rfl
  rw [follow, Code.ways?]
  simp only [hpassed]
  split
  · rfl
  · cases code[address]? with
    | none => rfl
    | some instr =>
      cases instr with
      | look l next =>
        dsimp only
        split <;> rfl
      | _ => rfl

/-- Each step passes an address, which adds at most two, or drops one: the fuel is enough. -/
theorem follows_follow :
    ∀ (fuel : Nat) (todo : List Nat) (f : Frontier), 2 * f.left + todo.length ≤ fuel →
      Follows code p start todo f (follow code p start fuel todo f)
  | 0, todo, f, h => by
    obtain rfl : todo = [] := List.length_eq_zero_iff.1 (by omega)
    exact .done
  | fuel + 1, [], f, h => .done
  | fuel + 1, address :: todo, f, h => by
    rw [List.length_cons] at h
    rw [follow_cons]
    split
    · rename_i hpassed
      exact .passed hpassed (follows_follow fuel todo f (by omega))
    · rename_i hpassed
      have hleft := left_pass hpassed
      split
      · rename_i ways hways
        have hlength := length_ways?_le hways
        refine .goesOn hpassed hways (follows_follow fuel _ _ ?_)
        rw [List.length_append]
        omega
      · rename_i hways
        refine .waits hpassed hways (follows_follow fuel _ _ ?_)
        have : left ⟨(f.pass address).seen, ⟨address, start⟩ :: f.reversed⟩ =
          (f.pass address).left := rfl
        omega

/-- Following a way has one outcome. -/
theorem Follows.unique {g' : Frontier} (h : Follows code p start todo f g) :
    Follows code p start todo f g' → g = g' := by
  induction h with
  | done =>
    rintro ⟨⟩
    rfl
  | passed hpassed _ ih =>
    intro h'
    cases h' with
    | passed _ h' => exact ih h'
    | goesOn hnot => exact absurd hpassed hnot
    | waits hnot => exact absurd hpassed hnot
  | goesOn hnot hways _ ih =>
    intro h'
    cases h' with
    | passed hpassed => exact absurd hpassed hnot
    | goesOn _ hways' h' =>
      obtain rfl := Option.some.inj (hways.symm.trans hways')
      exact ih h'
    | waits _ hways' => simp [hways] at hways'
  | waits hnot hways _ ih =>
    intro h'
    cases h' with
    | passed hpassed => exact absurd hpassed hnot
    | goesOn _ hways' => simp [hways] at hways'
    | waits _ _ h' => exact ih h'

/-! ## What was passed is settled

An address is marked before what it leads to is followed, and a loop may come back to it in between.
So an address may be marked while what is behind it is still to come; but then it is on the list. -/

/-- **The invariant of a frontier**, when `todo` is still to be followed: whatever an address that
was passed leads to was passed as well, and a way waits there if it is one to wait at. -/
structure Settled (code : Code) (p : Place) (todo : List Nat) (f : Frontier) : Prop where
  /-- There are no more addresses than in the code. -/
  size_le : f.seen.size ≤ code.size
  /-- Where an address leads was passed, or will be. -/
  ways : ∀ {address : Nat} {ways : List Nat}, f.Passed address →
    code.ways? p address = some ways → ∀ next ∈ ways, f.Passed next ∨ next ∈ todo
  /-- Some way waits where there is something to wait for. -/
  waits : ∀ {address : Nat}, address < code.size → f.Passed address →
    code.ways? p address = .none → ∃ t ∈ f.reversed, t.address = address

theorem settled_none (code : Code) (p : Place) : (none code.size).Settled code p [] where
  size_le := by simp [none]
  ways := by
    intro address ways hpassed hways
    rw [Code.ways?, Array.getElem?_eq_none (passed_none_iff.1 hpassed)] at hways
    simp at hways
  waits := by
    intro address hlt hpassed
    have := passed_none_iff.1 hpassed
    omega

/-- Once a way came to the next address, it is no longer among those to follow. -/
theorem Settled.passed_or_mem (hf : f.Settled code p (address :: todo)) {b next : Nat}
    {ways : List Nat} (hb : f.Passed b) (hways : code.ways? p b = some ways) (hnext : next ∈ ways) :
    (f.pass address).Passed next ∨ next ∈ todo := by
  rcases hf.ways hb hways next hnext with hpassed | hmem
  · exact .inl (passed_pass_iff.2 (.inr hpassed))
  · rcases List.mem_cons.1 hmem with rfl | hmem
    · exact .inl (passed_pass_iff.2 (.inl rfl))
    · exact .inr hmem

theorem Settled.follows (h : Follows code p start todo f g) :
    f.Settled code p todo → g.Settled code p [] := by
  induction h with
  | done => exact id
  | @passed address todo f g hpassed _ ih =>
    intro hf
    refine ih ⟨hf.size_le, fun hb hways next hnext => ?_, hf.waits⟩
    rcases hf.passed_or_mem hb hways hnext with hnext | hnext
    · rcases passed_pass_iff.1 hnext with rfl | hnext
      · exact .inl hpassed
      · exact .inl hnext
    · exact .inr hnext
  | @goesOn address ways todo f g hnot hways _ ih =>
    intro hf
    refine ih ⟨by simpa [pass] using hf.size_le, fun {b} {bways} hb hbways next hnext => ?_,
      fun {b} hlt hb hbways => ?_⟩
    · rcases passed_pass_iff.1 hb with rfl | hb
      · obtain rfl := Option.some.inj (hways.symm.trans hbways)
        exact .inr (List.mem_append_left _ hnext)
      · exact (hf.passed_or_mem hb hbways hnext).imp_right (List.mem_append_right _)
    · rcases passed_pass_iff.1 hb with rfl | hb
      · simp [hways] at hbways
      · exact hf.waits hlt hb hbways
  | @waits address todo f g hnot hways _ ih =>
    intro hf
    have hpassed : ∀ {b : Nat}, Passed ⟨(f.pass address).seen, ⟨address, start⟩ :: f.reversed⟩ b ↔
        b = address ∨ f.Passed b := passed_pass_iff
    refine ih ⟨by simpa [pass] using hf.size_le, fun {b} {bways} hb hbways next hnext => ?_,
      fun {b} hlt hb hbways => ?_⟩
    · rcases hpassed.1 hb with rfl | hb
      · simp [hways] at hbways
      · exact hf.passed_or_mem hb hbways hnext
    · rcases hpassed.1 hb with rfl | hb
      · exact ⟨_, List.mem_cons_self, rfl⟩
      · obtain ⟨t, ht, hta⟩ := hf.waits hlt hb hbways
        exact ⟨t, List.mem_cons_of_mem _ ht, hta⟩

theorem Settled.follows_add (hf : f.Settled code p []) (start address : Nat) :
    Follows code p start [address] f (f.add code p start address) := by
  refine follows_follow _ _ _ ?_
  have hcount : f.left ≤ f.seen.size := Array.count_le_size
  have hsize := hf.size_le
  rw [List.length_singleton]
  omega

theorem Settled.add (hf : f.Settled code p []) (start address : Nat) :
    (f.add code p start address).Settled code p [] := by
  refine Settled.follows (hf.follows_add start address) ⟨hf.size_le, fun hp hways next hnext => ?_,
    hf.waits⟩
  exact .inl ((hf.ways hp hways next hnext).resolve_right List.not_mem_nil)

/-! ## What a way adds

The frontier `f` grows on top of `base` while `g` grows from nothing, by the same way.  At an
address that `base` has passed, `f` stops and `g` goes on; but all that `g` comes to from there,
`base` has passed too, since it is settled.  `Extends` is kept, and it says at the end what the way
has added. -/

/-- The frontier `f` is `base`, and on top of it what is new in `g`. -/
structure Extends (base g f : Frontier) : Prop where
  /-- What was passed in one of them was passed. -/
  passed_iff : ∀ address, f.Passed address ↔ base.Passed address ∨ g.Passed address
  /-- Of the ways of `g`, those wait that are not at an address passed in `base`. -/
  reversed_eq : f.reversed = g.reversed.filter (¬base.Passed ·.address) ++ base.reversed

theorem Extends.not_passed {base : Frontier} (h : Extends base g f) (hbase : ¬base.Passed address)
    (hg : ¬g.Passed address) : ¬f.Passed address := by
  rw [h.passed_iff]
  exact not_or.2 ⟨hbase, hg⟩

theorem Extends.pass {base : Frontier} (h : Extends base g f) (address : Nat) :
    Extends base (g.pass address) (f.pass address) where
  passed_iff b := by rw [passed_pass_iff, passed_pass_iff, h.passed_iff, or_left_comm]
  reversed_eq := h.reversed_eq

/-- What is passed in `base` makes no difference. -/
theorem Extends.pass_of_passed {base : Frontier} (h : Extends base g f)
    (hbase : base.Passed address) : Extends base (g.pass address) f where
  passed_iff b := by
    rw [passed_pass_iff, h.passed_iff, or_left_comm]
    refine ⟨.inr, fun hb => ?_⟩
    rcases hb with rfl | hb
    · exact .inl hbase
    · exact hb
  reversed_eq := h.reversed_eq

/-- What was passed is not followed again. -/
theorem Follows.of_append {ways : List Nat} (hways : ∀ next ∈ ways, f.Passed next)
    (h : Follows code p start (ways ++ todo) f g) : Follows code p start todo f g := by
  induction ways with
  | nil => exact h
  | cons next ways ih =>
    obtain ⟨hnext, hways⟩ := List.forall_mem_cons.1 hways
    cases h with
    | passed _ h => exact ih hways h
    | goesOn hnot => exact absurd hnext hnot
    | waits hnot => exact absurd hnext hnot

/-- **Following a way on top of a settled frontier**, step by step: an address that was passed there
is skipped, and so is all it leads to. -/
theorem Follows.extends {base g' : Frontier} (hbase : base.Settled code p [])
    (h : Follows code p start todo g g') :
    ∀ {f : Frontier}, Extends base g f →
      ∃ f', Follows code p start todo f f' ∧ Extends base g' f' := by
  induction h with
  | done => exact fun hf => ⟨_, .done, hf⟩
  | @passed address todo g g' hpassed _ ih =>
    intro f hf
    obtain ⟨f', hfollows, hf'⟩ := ih hf
    exact ⟨f', .passed ((hf.passed_iff address).2 (.inr hpassed)) hfollows, hf'⟩
  | @goesOn address ways todo g g' hnot hways _ ih =>
    intro f hf
    by_cases hskip : base.Passed address
    · -- from here on, the way that starts with nothing passed comes to what `base` passed only
      obtain ⟨f', hfollows, hf'⟩ := ih (hf.pass_of_passed hskip)
      have hall : ∀ next ∈ ways, f.Passed next := fun next hnext =>
        (hf.passed_iff next).2
          (.inl ((hbase.ways hskip hways next hnext).resolve_right List.not_mem_nil))
      exact ⟨f', .passed ((hf.passed_iff address).2 (.inl hskip)) (.of_append hall hfollows), hf'⟩
    · obtain ⟨f', hfollows, hf'⟩ := ih (hf.pass address)
      exact ⟨f', .goesOn (hf.not_passed hskip hnot) hways hfollows, hf'⟩
  | @waits address todo g g' hnot hways _ ih =>
    intro f hf
    by_cases hskip : base.Passed address
    · have hsame : Extends base ⟨(g.pass address).seen, ⟨address, start⟩ :: g.reversed⟩ f :=
        ⟨(hf.pass_of_passed hskip).passed_iff, by
          rw [List.filter_cons_of_neg (by simpa using hskip), hf.reversed_eq]⟩
      obtain ⟨f', hfollows, hf'⟩ := ih hsame
      exact ⟨f', .passed ((hf.passed_iff address).2 (.inl hskip)) hfollows, hf'⟩
    · have hmore : Extends base ⟨(g.pass address).seen, ⟨address, start⟩ :: g.reversed⟩
          ⟨(f.pass address).seen, ⟨address, start⟩ :: f.reversed⟩ :=
        ⟨(hf.pass address).passed_iff, by
          rw [List.filter_cons_of_pos (by simpa using hskip), List.cons_append, hf.reversed_eq]⟩
      obtain ⟨f', hfollows, hf'⟩ := ih hmore
      exact ⟨f', .waits (hf.not_passed hskip hnot) hways hfollows, hf'⟩

/-- The start of a way has no part in where it leads. -/
theorem follow_restart (code : Code) (p : Place) (start start' : Nat) :
    ∀ (fuel : Nat) (todo : List Nat) (seen : Array Bool) (ts : List Thread),
      (follow code p start' fuel todo ⟨seen, ts.map fun t => ⟨t.address, start'⟩⟩).reversed =
        (follow code p start fuel todo ⟨seen, ts⟩).reversed.map fun t => ⟨t.address, start'⟩
  | 0, todo, seen, ts => by simp [follow]
  | fuel + 1, [], seen, ts => by simp [follow]
  | fuel + 1, address :: todo, seen, ts => by
    have hpassed : Passed ⟨seen, ts.map fun t => ⟨t.address, start'⟩⟩ address ↔
        Passed ⟨seen, ts⟩ address := Iff.rfl
    rw [follow_cons, follow_cons]
    simp only [hpassed]
    split
    · exact follow_restart code p start start' fuel todo seen ts
    · split
      · exact follow_restart code p start start' fuel _ _ ts
      · exact follow_restart code p start start' fuel todo _ (⟨address, start⟩ :: ts)

end Frontier

/-- The addresses at which ways wait that come from an address, the preferred ones first. -/
def Code.waiting (code : Code) (p : Place) (address : Nat) : List Nat :=
  ((Frontier.none code.size).add code p 0 address).threads.map (·.address)

/-- From an address to wait at, a way goes no further. -/
theorem Code.waiting_eq_self {code : Code} {p : Place} {address : Nat} (hlt : address < code.size)
    (hways : code.ways? p address = none) : code.waiting p address = [address] := by
  have hnot : ¬(Frontier.none code.size).Passed address := by
    rw [Frontier.passed_none_iff]
    omega
  rw [waiting, Frontier.add, Frontier.follow_cons, if_neg hnot, hways]
  rfl

namespace Frontier

variable {code : Code} {p : Place} {f : Frontier}

theorem threads_add_none (code : Code) (p : Place) (start address : Nat) :
    ((none code.size).add code p start address).threads =
      (code.waiting p address).map fun a => ⟨a, start⟩ := by
  rw [Code.waiting, threads, threads, List.map_map, List.map_reverse, List.reverse_inj]
  exact follow_restart code p 0 start _ [address] (none code.size).seen []

/-- **What a way adds** are its addresses to wait at, less those that were passed. -/
theorem threads_add (hf : f.Settled code p []) (start address : Nat) :
    (f.add code p start address).threads = f.threads ++
      ((code.waiting p address).filter (¬f.Passed ·)).map fun a => ⟨a, start⟩ := by
  have hnone : Extends f (none code.size) f := by
    refine ⟨fun b => ⟨.inl, ?_⟩, by simp [none]⟩
    rintro (hb | hb)
    · exact hb
    · have hsize := hf.size_le
      have hge := passed_none_iff.1 hb
      have : ¬b < f.seen.size := by omega
      simp [Passed, Array.getD, this]
  obtain ⟨f', hfollows, hf'⟩ :=
    ((settled_none code p).follows_add start address).extends hf hnone
  rw [(hf.follows_add start address).unique hfollows, threads, hf'.reversed_eq,
    List.reverse_append, ← List.filter_reverse]
  have hfresh := threads_add_none code p start address
  rw [threads] at hfresh
  rw [hfresh, List.filter_map]
  rfl

end Frontier

/-! ## Trying the ways

These functions recurse on the text that is left.  Between two characters there may be a loop, so
they do not go from instruction to instruction; they use the addresses at which ways wait. -/

namespace Program

/-- **Backtracking.**  From a way that waits at an address, the end of the match that it leads to,
if it leads to one: of several, that of the preferred way. -/
def stop? (prog : Program) : (rest : List Char) → (pos address : Nat) → Option Nat
  | [], pos, address =>
    match prog.code[address]? with
    | some .accept => some pos
    | _ => none
  | c :: rest, pos, address =>
    match prog.code[address]? with
    | some .accept => some pos
    | some (.set s next) =>
      if s.contains c then
        let after := pos + c.utf8Size
        (prog.code.waiting ⟨some c, after, rest⟩ next).findSome? (prog.stop? rest after)
      else none
    | _ => none

/-- The match of a list of ways, the preferred ones first. -/
def preferred (prog : Program) (rest : List Char) (pos : Nat) (ts : List Thread) :
    Option ByteSpan :=
  ts.findSome? fun t => (prog.stop? rest pos t.address).map fun stop => ⟨t.start, stop⟩

/-- The same for a way that has yet to be followed from the address on. -/
def arrive? (prog : Program) (p : Place) (address : Nat) : Option Nat :=
  (prog.code.waiting p address).findSome? (prog.stop? p.rest p.pos)

/-- The match that begins at a place, if one does. -/
def matchAt? (prog : Program) (p : Place) : Option ByteSpan :=
  (prog.arrive? p prog.start).map fun stop => ⟨p.pos, stop⟩

/-- The match that begins at the first place where one does. -/
def leftmost? (prog : Program) :
    (rest : List Char) → (before : Option Char) → (pos : Nat) → Option ByteSpan
  | [], before, pos => prog.matchAt? ⟨before, pos, []⟩
  | c :: rest, before, pos =>
    (prog.matchAt? ⟨before, pos, c :: rest⟩).or (prog.leftmost? rest (some c) (pos + c.utf8Size))

variable {prog : Program} {p : Place} {rest : List Char} {c : Char} {pos : Nat} {f : Frontier}

theorem stop?_eq_none {address : Nat} {ways : List Nat}
    (h : prog.code.ways? p address = some ways) : prog.stop? rest pos address = none := by
  rw [Code.ways?] at h
  cases rest <;> rw [stop?] <;> split at h <;> simp_all

/-! ## The search

A way whose match was found cuts off all ways behind it, and those before it go on.  So the match
kept so far is worth less than any that a living way leads to, and more than any that begins
later.  This order is the `or` of `run_eq`, and one step of the search moves an item from one end
to the other: a place that was yet to be tried becomes a way, and a way that ends becomes the
match kept. -/

theorem preferred_append (ts us : List Thread) :
    prog.preferred rest pos (ts ++ us) =
      (prog.preferred rest pos ts).or (prog.preferred rest pos us) :=
  List.findSome?_append

theorem preferred_map (start : Nat) (addresses : List Nat) :
    prog.preferred rest pos (addresses.map fun a => ⟨a, start⟩) =
      (addresses.findSome? (prog.stop? rest pos)).map fun stop => ⟨start, stop⟩ := by
  rw [preferred, List.findSome?_map, List.map_findSome?]
  rfl

/-- Addresses from which nothing is found can be left out. -/
theorem findSome?_filter {q : Nat → Bool} (addresses : List Nat)
    (h : ∀ a ∈ addresses, q a = false → prog.stop? rest pos a = none) :
    (addresses.filter q).findSome? (prog.stop? rest pos) =
      addresses.findSome? (prog.stop? rest pos) := by
  induction addresses with
  | nil => rfl
  | cons a addresses ih =>
    obtain ⟨ha, haddresses⟩ := List.forall_mem_cons.1 h
    cases hq : q a with
    | true => rw [List.filter_cons_of_pos hq, List.findSome?_cons, List.findSome?_cons,
        ih haddresses]
    | false =>
      rw [List.filter_cons_of_neg (by simp [hq]), List.findSome?_cons, ha hq, ih haddresses]

/-- **Adding a way**: its match counts where there was none.  Of the addresses that were passed and
are left out, none would have led to a match, for some way waits there already. -/
theorem preferred_add (hf : f.Settled prog.code p []) (start address : Nat) :
    prog.preferred p.rest p.pos (f.add prog.code p start address).threads =
      (prog.preferred p.rest p.pos f.threads).or
        ((prog.arrive? p address).map fun stop => ⟨start, stop⟩) := by
  rw [Frontier.threads_add hf, preferred_append, preferred_map]
  cases hnone : prog.preferred p.rest p.pos f.threads with
  | some m => rfl
  | none =>
    rw [findSome?_filter, arrive?]
    intro a _ hpassed
    rw [decide_eq_false_iff_not, Decidable.not_not] at hpassed
    cases hways : prog.code.ways? p a with
    | some ways => exact stop?_eq_none hways
    | none =>
      by_cases hlt : a < prog.code.size
      · -- the way `t` waits there, and no match came of it
        obtain ⟨t, ht, rfl⟩ := hf.waits hlt hpassed hways
        rw [preferred, List.findSome?_eq_none_iff] at hnone
        exact Option.map_eq_none_iff.1 (hnone t (List.mem_reverse.2 ht))
      · have hcode : prog.code[a]? = none := Array.getElem?_eq_none (by omega)
        cases p.rest <;> rw [stop?, hcode]

/-- **Taking a character.**  What the ways lead to is what they lead to behind it, or else the match
that ends before it. -/
theorem preferred_advance (prog : Program) (c : Char) (rest : List Char) (pos : Nat) :
    ∀ (ts : List Thread) (f : Frontier),
      f.Settled prog.code ⟨some c, pos + c.utf8Size, rest⟩ [] →
      (prog.advance c ⟨some c, pos + c.utf8Size, rest⟩ ts f).1.Settled prog.code
          ⟨some c, pos + c.utf8Size, rest⟩ [] ∧
        (prog.preferred rest (pos + c.utf8Size)
            (prog.advance c ⟨some c, pos + c.utf8Size, rest⟩ ts f).1.threads).or
          ((prog.advance c ⟨some c, pos + c.utf8Size, rest⟩ ts f).2.map
            fun start => ⟨start, pos⟩) =
        (prog.preferred rest (pos + c.utf8Size) f.threads).or (prog.preferred (c :: rest) pos ts)
  | [], f, hf => ⟨hf, rfl⟩
  | t :: ts, f, hf => by
    have hcons : prog.preferred (c :: rest) pos (t :: ts) =
        ((prog.stop? (c :: rest) pos t.address).map fun stop => ⟨t.start, stop⟩).or
          (prog.preferred (c :: rest) pos ts) := by
      rw [preferred, List.findSome?_cons]
      cases prog.stop? (c :: rest) pos t.address <;> rfl
    rw [hcons, stop?, advance]
    cases prog.code[t.address]? with
    | none => exact preferred_advance prog c rest pos ts f hf
    | some instr =>
      cases instr with
      | accept => exact ⟨hf, rfl⟩
      | look l next => exact preferred_advance prog c rest pos ts f hf
      | split first second => exact preferred_advance prog c rest pos ts f hf
      | set s next =>
        dsimp only
        split
        · obtain ⟨hsettled, hrest⟩ := preferred_advance prog c rest pos ts _ (hf.add t.start next)
          have hadd := preferred_add hf t.start next
          dsimp only at hadd
          refine ⟨hsettled, hrest.trans ?_⟩
          rw [hadd, Option.or_assoc, arrive?]
        · exact preferred_advance prog c rest pos ts f hf

theorem preferred_nil (pos : Nat) (ts : List Thread) :
    prog.preferred [] pos ts = (prog.acceptAtEnd ts).map fun start => ⟨start, pos⟩ := by
  induction ts with
  | nil => rfl
  | cons t ts ih =>
    rw [preferred, List.findSome?_cons, ← preferred, ih, stop?, acceptAtEnd]
    cases prog.code[t.address]? with
    | none => rfl
    | some instr => cases instr <;> rfl

/-- Where no match was found yet, a new way begins. -/
theorem preferred_begin (hf : f.Settled prog.code p []) (best more : Option ByteSpan) :
    let g := if best.isNone then f.add prog.code p p.pos prog.start else f
    g.Settled prog.code p [] ∧
      (prog.preferred p.rest p.pos g.threads).or (best.or more) =
        (prog.preferred p.rest p.pos f.threads).or (best.or ((prog.matchAt? p).or more)) := by
  cases best with
  | some m => exact ⟨hf, rfl⟩
  | none =>
    refine ⟨hf.add _ _, ?_⟩
    show (prog.preferred p.rest p.pos (f.add prog.code p p.pos prog.start).threads).or more =
      (prog.preferred p.rest p.pos f.threads).or ((prog.matchAt? p).or more)
    rw [preferred_add hf, Option.or_assoc, matchAt?]

/-- **The invariant of the search**: what is found is the match of the preferred way that is alive,
or else the one found before, or else the first one from here on. -/
theorem run_eq (prog : Program) :
    ∀ (rest : List Char) (before : Option Char) (pos : Nat) (f : Frontier) (best : Option ByteSpan),
      f.Settled prog.code ⟨before, pos, rest⟩ [] →
      prog.run rest before pos f best =
        (prog.preferred rest pos f.threads).or (best.or (prog.leftmost? rest before pos))
  | [], before, pos, f, best, hf => by
    obtain ⟨hsettled, hbegin⟩ := preferred_begin hf best none
    rw [Option.or_none, Option.or_none] at hbegin
    rw [leftmost?, ← hbegin, run, preferred_nil]
    dsimp only
    rw [Frontier.threads]
    cases prog.acceptAtEnd _ <;> rfl
  | c :: rest, before, pos, f, best, hf => by
    obtain ⟨hsettled, hbegin⟩ :=
      preferred_begin hf best (prog.leftmost? rest (some c) (pos + c.utf8Size))
    rw [leftmost?, ← hbegin, run]
    dsimp only at hsettled ⊢
    generalize (if best.isNone then f.add prog.code ⟨before, pos, c :: rest⟩ pos prog.start
      else f) = g at hsettled ⊢
    split
    · rename_i hdone
      obtain ⟨hempty, hbest⟩ := Bool.and_eq_true_iff.1 hdone
      obtain ⟨m, rfl⟩ := Option.isSome_iff_exists.1 hbest
      rw [Frontier.threads, List.isEmpty_iff.1 hempty]
      rfl
    · obtain ⟨hnext, hadvance⟩ := preferred_advance prog c rest pos g.reversed.reverse
        (.none prog.code.size) (Frontier.settled_none prog.code _)
      rw [run_eq prog rest (some c) _ _ _ hnext]
      have hnone : prog.preferred rest (pos + c.utf8Size)
        (Frontier.none prog.code.size).threads = none := rfl
      rw [hnone, Option.none_or] at hadvance
      have hthreads : g.threads = g.reversed.reverse := rfl
      rw [hthreads, ← hadvance, Option.or_assoc]
      cases (prog.advance c ⟨some c, pos + c.utf8Size, rest⟩ g.reversed.reverse
        (.none prog.code.size)).2 <;> rfl

/-- **What is found** from a place on is the match that begins first; among those that begin there,
it is the preferred one. -/
theorem match?_eq_leftmost? (prog : Program) (p : Place) :
    prog.match? p = prog.leftmost? p.rest p.before p.pos := by
  rw [match?, run_eq prog _ _ _ _ _ (Frontier.settled_none prog.code _)]
  rfl

/-! ## Whether there is a match

Where a match begins depends on the text before it, through the conditions that look back.  So the
text is split in two, and the character before the place is the last one of the first part. -/

/-- Somewhere in a text, a match begins. -/
def Occurs (prog : Program) (text : List Char) : Prop :=
  ∃ front back, text = front ++ back ∧
    (prog.matchAt? ⟨front.getLast?, byteLength front, back⟩).isSome = true

/-- Nothing is found from a place on exactly if no match begins there or further on. -/
theorem leftmost?_eq_none_iff (prog : Program) :
    ∀ (rest : List Char) (before : Option Char) (pos : Nat),
      prog.leftmost? rest before pos = none ↔ ∀ front back, rest = front ++ back →
        prog.matchAt? ⟨front.getLast?.or before, pos + byteLength front, back⟩ = none
  | [], before, pos => by
    rw [leftmost?]
    constructor
    · intro h front back hsplit
      obtain ⟨rfl, rfl⟩ := List.nil_eq_append_iff.1 hsplit
      exact h
    · exact fun h => h [] [] rfl
  | c :: rest, before, pos => by
    have hlast : ∀ front : List Char,
        (c :: front).getLast?.or before = front.getLast?.or (some c) := by
      intro front
      rw [List.getLast?_cons]
      cases front.getLast? <;> rfl
    rw [leftmost?, Option.or_eq_none_iff, leftmost?_eq_none_iff prog rest]
    constructor
    · rintro ⟨hhere, hlater⟩ front back hsplit
      cases front with
      | nil =>
        obtain rfl : c :: rest = back := hsplit
        exact hhere
      | cons d front =>
        obtain ⟨rfl, htail⟩ := List.cons.inj hsplit
        rw [hlast, byteLength, ← Nat.add_assoc]
        exact hlater front back htail
    · intro h
      refine ⟨h [] (c :: rest) rfl, fun front back hsplit => ?_⟩
      have hcons := h (c :: front) back (congrArg (c :: ·) hsplit)
      rw [hlast, byteLength, ← Nat.add_assoc] at hcons
      exact hcons

/-- There are matches in a text exactly if one begins somewhere. -/
theorem matchesIn_ne_nil_iff (prog : Program) (text : List Char) :
    prog.matchesIn text ≠ [] ↔ prog.Occurs text := by
  have hnone : prog.matchesIn text = [] ↔ prog.match? (.start text) = none := by
    rw [matchesIn, matchesFrom]
    cases prog.match? (.start text) with
    | none => simp
    | some m =>
      dsimp only
      rw [Bool.false_and, if_neg Bool.false_ne_true]
      split
      · split <;> simp
      · simp
  rw [Ne, hnone, match?_eq_leftmost?, Place.start, leftmost?_eq_none_iff, Occurs]
  simp only [Option.or_none, Nat.zero_add, Classical.not_forall, Option.isSome_iff_ne_none,
    exists_prop, Ne]

/-! ## Where ways lead

What a caller needs who wants to know where the matches of a given program are: one equation for
each instruction at which ways wait, and then one for a row of them that takes a fixed text. -/

theorem arrive?_of_accept {address : Nat} (h : prog.code[address]? = some .accept) :
    prog.arrive? p address = some p.pos := by
  have hways : prog.code.ways? p address = none := by rw [Code.ways?, h]
  obtain ⟨hlt, -⟩ := Array.getElem?_eq_some_iff.1 h
  rw [arrive?, Code.waiting_eq_self hlt hways, List.findSome?_singleton]
  cases p.rest <;> rw [stop?, h]

theorem arrive?_of_set {address next : Nat} {s : Charset}
    (h : prog.code[address]? = some (.set s next)) :
    prog.arrive? p address =
      match p.rest with
      | [] => none
      | c :: rest =>
        if s.contains c then prog.arrive? ⟨some c, p.pos + c.utf8Size, rest⟩ next else none := by
  have hways : prog.code.ways? p address = none := by rw [Code.ways?, h]
  obtain ⟨hlt, -⟩ := Array.getElem?_eq_some_iff.1 h
  rw [arrive?, Code.waiting_eq_self hlt hways, List.findSome?_singleton]
  cases p.rest with
  | nil => rw [stop?, h]
  | cons c rest =>
    rw [stop?, h]
    rfl

/-- From the address `a` on, the code takes the characters of a text, and goes on at `b`. -/
inductive Spells (code : Code) : (a : Nat) → List Char → (b : Nat) → Prop
  | nil {a : Nat} : Spells code a [] a
  | cons {a next b : Nat} {c : Char} {cs : List Char} : code[a]? = some (.set (.single c) next) →
      Spells code next cs b → Spells code a (c :: cs) b

/-- Where the text is another, such a way leads nowhere. -/
theorem Spells.arrive?_eq_none {a b : Nat} {cs : List Char}
    (h : Spells prog.code a cs b) : ∀ {p : Place}, ¬cs <+: p.rest → prog.arrive? p a = none := by
  induction h with
  | nil => exact fun hnot => absurd List.nil_prefix hnot
  | @cons a next b c cs hcode _ ih =>
    intro p hnot
    rw [arrive?_of_set hcode]
    cases hrest : p.rest with
    | nil => rfl
    | cons d rest =>
      dsimp only
      rw [hrest, List.cons_prefix_cons, not_and] at hnot
      rw [Charset.contains_single]
      by_cases hd : d = c
      · rw [if_pos (by simp [hd]), ih (hnot hd.symm)]
      · rw [if_neg (by simp [hd])]

/-- Where the text is the right one, the way goes on behind it. -/
theorem Spells.arrive?_append {a b : Nat} {cs : List Char} (h : Spells prog.code a cs b)
    (rest : List Char) : ∀ (before : Option Char) (pos : Nat), ∃ before',
      prog.arrive? ⟨before, pos, cs ++ rest⟩ a =
        prog.arrive? ⟨before', pos + byteLength cs, rest⟩ b := by
  induction h with
  | nil => exact fun before pos => ⟨before, rfl⟩
  | @cons a next b c cs hcode _ ih =>
    intro before pos
    obtain ⟨before', hbefore⟩ := ih (some c) (pos + c.utf8Size)
    refine ⟨before', ?_⟩
    rw [arrive?_of_set hcode, List.cons_append]
    dsimp only
    rw [Charset.contains_single, if_pos (by simp), hbefore, byteLength, Nat.add_assoc]

end Program
end Pattern
end Proofreader
