/-!
# Computations that can fail

A computation in steps has a result exactly if each of its steps has one, and it fails with the
first of its steps that fails.

Both directions matter.  A program in steps is taken apart by reading the lemmas from left to right,
one `obtain` for each step, and nothing of it has to be unfolded; read from right to left they give
each step its result, and with it the whole.  The reader of settings, the checks, the command line
and the walks with guarded access are all taken apart in this way.
-/

set_option autoImplicit false

namespace Proofreader

variable {ε α β : Type}

/-- Two steps have a result if the first has one, and the second has one from there. -/
theorem bind_eq_ok_iff {x : Except ε α} {f : α → Except ε β} {b : β} :
    (x >>= f) = .ok b ↔ ∃ a, x = .ok a ∧ f a = .ok b := by
  constructor
  · intro h
    cases x with
    | error e => cases h
    | ok a => exact ⟨a, rfl, h⟩
  · rintro ⟨a, rfl, h⟩
    exact h

/-- Two steps fail if the first fails, or the second fails from what the first has given. -/
theorem bind_eq_error_iff {x : Except ε α} {f : α → Except ε β} {e : ε} :
    (x >>= f) = .error e ↔ x = .error e ∨ ∃ a, x = .ok a ∧ f a = .error e := by
  constructor
  · intro h
    cases x with
    | error e' => exact .inl (congrArg Except.error (Except.error.inj h))
    | ok a => exact .inr ⟨a, rfl, h⟩
  · rintro (rfl | ⟨a, rfl, h⟩)
    · rfl
    · exact h

theorem pure_ne_error {a : α} {e : ε} : (pure a : Except ε α) ≠ .error e := nofun

theorem pure_eq_ok_iff {a b : α} : (pure a : Except ε α) = .ok b ↔ a = b :=
  Except.ok.injEq a b ▸ Iff.rfl

end Proofreader
