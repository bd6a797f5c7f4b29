import Proofreader.Pattern.Place
import Proofreader.Pattern.Program

/-!
# Running a program

All ways through a program are followed at once, one character of the text at a time, so the time
grows with the length of the text whatever the pattern is.  A `Thread` is one way, and a `Frontier`
holds the ways alive at a place in order of preference: of two that reached the same instruction
only the preferred one is kept.

The match that is found begins as early as any; among those that begin there, preference decides.
Behind a match the search goes on at its end, and an empty match right behind another one does not
count (`matchesIn`).
-/

set_option autoImplicit false

namespace Proofreader
namespace Pattern

/-- A match, in bytes. -/
structure ByteSpan where
  /-- How many bytes are before the match. -/
  start : Nat
  /-- How many bytes are before its end. -/
  stop : Nat
deriving Repr, DecidableEq

/-- One way through a program that is waiting for the next character. -/
structure Thread where
  /-- The instruction it waits at. -/
  address : Nat
  /-- Where its match begins. -/
  start : Nat
deriving Repr, DecidableEq

/-- The ways that are alive at a place. -/
structure Frontier where
  /-- The addresses that some way has reached at this place. -/
  seen : Array Bool
  /-- The ways that wait for a character, the most preferred last. -/
  reversed : List Thread
deriving Repr, DecidableEq

namespace Frontier

/-- No ways yet, for a program of the given size. -/
def none (size : Nat) : Frontier := ⟨Array.replicate size false, []⟩

/-- Follow a way, whose match begins at `start`, through all instructions that take up no character.
`todo` are the addresses to go through, the preferred ones first; every address is gone through
once, and it adds at most two, so that `fuel` is enough. -/
def follow (code : Code) (p : Place) (start : Nat) :
    (fuel : Nat) → (todo : List Nat) → Frontier → Frontier
  | 0, _, f => f
  | _, [], f => f
  | fuel + 1, address :: todo, f =>
    if f.seen.getD address true then follow code p start fuel todo f
    else
      let seen := f.seen.setIfInBounds address true
      match code[address]? with
      | some (.split first second) =>
        follow code p start fuel (first :: second :: todo) ⟨seen, f.reversed⟩
      | some (.look l next) =>
        if l.holds p.before p.rest.head? then
          follow code p start fuel (next :: todo) ⟨seen, f.reversed⟩
        else follow code p start fuel todo ⟨seen, f.reversed⟩
      | _ => follow code p start fuel todo ⟨seen, ⟨address, start⟩ :: f.reversed⟩

/-- Add the way that begins at an address. -/
def add (code : Code) (p : Place) (start address : Nat) (f : Frontier) : Frontier :=
  follow code p start (2 * code.size + 2) [address] f

end Frontier

namespace Program

/-- The first of the ways, in order of preference, that accepts at the end of the text. -/
def acceptAtEnd (prog : Program) : List Thread → Option Nat
  | [] => none
  | t :: threads =>
    match prog.code[t.address]? with
    | some .accept => some t.start
    | _ => prog.acceptAtEnd threads

/-- Let the ways take the character `c`, which leads to the place `p`.  A way that accepts ends the
list, since all behind it are less preferred; its start is the second part of the result. -/
def advance (prog : Program) (c : Char) (p : Place) :
    List Thread → Frontier → Frontier × Option Nat
  | [], f => (f, none)
  | t :: threads, f =>
    match prog.code[t.address]? with
    | some .accept => (f, some t.start)
    | some (.set s next) =>
      if s.contains c then advance prog c p threads (f.add prog.code p t.start next)
      else advance prog c p threads f
    | _ => advance prog c p threads f

/-- Go on with the search from a place.  `best` is the match found so far; as long as there is none,
a new way begins at every place, less preferred than those that began before. -/
def run (prog : Program) : (rest : List Char) → (before : Option Char) → (pos : Nat) → Frontier →
    (best : Option ByteSpan) → Option ByteSpan
  | [], before, pos, f, best =>
    let f := if best.isNone then f.add prog.code ⟨before, pos, []⟩ pos prog.start else f
    match prog.acceptAtEnd f.reversed.reverse with
    | some start => some ⟨start, pos⟩
    | none => best
  | c :: rest, before, pos, f, best =>
    let f := if best.isNone then f.add prog.code ⟨before, pos, c :: rest⟩ pos prog.start else f
    if f.reversed.isEmpty && best.isSome then best
    else
      let after := pos + c.utf8Size
      let (f, found) :=
        prog.advance c ⟨some c, after, rest⟩ f.reversed.reverse (.none prog.code.size)
      let best := match found with
        | some start => some ⟨start, pos⟩
        | none => best
      run prog rest (some c) after f best

/-- The first match from a place on. -/
def match? (prog : Program) (p : Place) : Option ByteSpan :=
  prog.run p.rest p.before p.pos (.none prog.code.size) none

/-- The matches from a place on, one behind the other.  `taken` says that a match that is not empty
ends right here, so that an empty one does not count.  Every step goes at least one character on, so
one step for every character and one for the end are enough. -/
def matchesFrom (prog : Program) : (fuel : Nat) → (taken : Bool) → Place → List ByteSpan
  | 0, _, _ => []
  | fuel + 1, taken, p =>
    match prog.match? p with
    | none => []
    | some m =>
      if taken && m.stop == p.pos then
        match p.next? with
        | none => []
        | some p => prog.matchesFrom fuel false p
      else
        let stop := p.goTo m.stop
        if m.start == m.stop then
          match stop.next? with
          | none => [m]
          | some p => m :: prog.matchesFrom fuel false p
        else m :: prog.matchesFrom fuel true stop

/-- All matches in a text, from left to right. -/
def matchesIn (prog : Program) (text : List Char) : List ByteSpan :=
  prog.matchesFrom (text.length + 1) false (.start text)

end Program

end Pattern
end Proofreader
