import Proofreader.Charset.Folding

/-!
# Character sets

A pattern speaks of single characters through sets: one letter, a range, "any digit", and what set
algebra makes of those.  A `Charset` is the *expression* for such a set, and `contains` evaluates it
at one character.  Keeping the expression instead of a normal form makes every operation one
constructor and every law of `contains` true by definition; only the leaves carry data.

A leaf is a list of code points at which membership changes, so `[0x41, 0x5B]` is `A`–`Z` and the
empty list is the empty set.  Complements need no care for the top of the code space, since only
characters are ever asked about.
-/

set_option autoImplicit false

namespace Proofreader

/-- An expression for a set of characters. -/
inductive Charset where
  /-- The code points at which membership changes, in increasing order, starting outside. -/
  | bounds (flips : List Nat)
  /-- What is in either set. -/
  | union (a b : Charset)
  /-- What is in both sets. -/
  | inter (a b : Charset)
  /-- What is in the first set and not in the second. -/
  | diff (a b : Charset)
  /-- What is in exactly one of the sets. -/
  | symmDiff (a b : Charset)
  /-- What is not in the set. -/
  | compl (a : Charset)
  /-- The set with every case variant of its members. -/
  | folded (a : Charset)
  /-- The set with the other case of its ASCII letters. -/
  | asciiFolded (a : Charset)
deriving Repr, DecidableEq

namespace Charset

/-- Whether `n` is inside, `inside` being the answer before the first of `flips`. -/
def within (n : Nat) : List Nat → Bool → Bool
  | [], inside => inside
  | flip :: flips, inside => if n < flip then inside else within n flips (!inside)

/-- Whether the code point `n` is in the set. -/
def holds : Charset → Nat → Bool
  | bounds flips, n => within n flips false
  | union a b, n => a.holds n || b.holds n
  | inter a b, n => a.holds n && b.holds n
  | diff a b, n => a.holds n && !b.holds n
  | symmDiff a b, n => a.holds n != b.holds n
  | compl a, n => !a.holds n
  | folded a, n => (caseVariants n).any a.holds
  | asciiFolded a, n => a.holds n || a.holds (otherAsciiCase n)

/-- Whether `c` is in the set. -/
def contains (s : Charset) (c : Char) : Bool := s.holds c.toNat

/-- The set without members. -/
def empty : Charset := bounds []

/-- The set of all characters. -/
def full : Charset := bounds [0]

/-- The code points from `lo` to `hi`, both included. -/
def range (lo hi : Nat) : Charset := bounds [lo, hi + 1]

/-- The set of one character. -/
def single (c : Char) : Charset := range c.toNat c.toNat

/-- The union of a list of sets. -/
def unionAll : List Charset → Charset
  | [] => empty
  | [a] => a
  | a :: rest => union a (unionAll rest)

theorem contains_compl (a : Charset) (c : Char) : a.compl.contains c = !a.contains c := rfl

theorem contains_range (lo hi : Nat) (c : Char) :
    (range lo hi).contains c = (decide (lo ≤ c.toNat) && decide (c.toNat ≤ hi)) := by
  simp only [contains, holds, range, within]
  by_cases h₁ : c.toNat < lo <;> by_cases h₂ : c.toNat < hi + 1 <;>
    simp [h₁, h₂] <;> omega

theorem contains_single (c d : Char) : (single c).contains d = decide (d = c) := by
  rw [single, contains_range, ← Bool.decide_and]
  refine decide_eq_decide.2 ⟨fun h => Char.toNat_inj.1 (by omega), fun h => by subst h; simp⟩

end Charset
end Proofreader
