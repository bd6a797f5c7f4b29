import Proofreader.Text.Comment

/-!
# What is left of a text without its comments

Taking comments out makes a text shorter, and shifts what comes behind the first of them.
Everything before it stays in its place (`Text.take_stripFrom`).

`stripFrom` walks a text with a number of characters still to be skipped.  It is not zero only
inside of a comment, so each statement is about `stripFrom 0` wherever it can be; the bound on the
length is proved for any number, since the induction goes through the comments.  `NoCommentBefore`
asks the scanner itself whether a comment begins at a place.  What makes it say yes is the subject
of the module on scanning, and of no interest here.
-/

set_option autoImplicit false

namespace Proofreader
namespace Text

theorem stripFrom_of_none {c : Char} {rest : List Char} (h : commentLength? (c :: rest) = none) :
    stripFrom 0 (c :: rest) = c :: stripFrom 0 rest := by
  rw [stripFrom, h]

theorem stripFrom_of_some {c : Char} {rest : List Char} {n : Nat}
    (h : commentLength? (c :: rest) = some n) :
    stripFrom 0 (c :: rest) = stripFrom (n - 1) rest := by
  rw [stripFrom, h]

theorem length_stripFrom_le (skip : Nat) (text : List Char) :
    (stripFrom skip text).length ≤ text.length := by
  induction text generalizing skip with
  | nil => simp [stripFrom]
  | cons c rest ih =>
    cases skip with
    | succ skip => exact Nat.le_succ_of_le (ih skip)
    | zero =>
      cases h : commentLength? (c :: rest) with
      | none =>
        rw [stripFrom_of_none h]
        exact Nat.succ_le_succ (ih 0)
      | some n =>
        rw [stripFrom_of_some h]
        exact Nat.le_succ_of_le (ih (n - 1))

/-- No comment begins among the first `n` characters of a text. -/
def NoCommentBefore (text : List Char) (n : Nat) : Prop :=
  ∀ i < n, commentLength? (text.drop i) = none

/-- What comes before the first comment stays in its place. -/
theorem take_stripFrom {text : List Char} {n : Nat} (h : NoCommentBefore text n) :
    (stripFrom 0 text).take n = text.take n := by
  induction n generalizing text with
  | zero => rfl
  | succ n ih =>
    cases text with
    | nil => rfl
    | cons c rest =>
      rw [stripFrom_of_none (h 0 (Nat.succ_pos n)), List.take_succ_cons, List.take_succ_cons,
        ih fun i hi => h (i + 1) (Nat.succ_lt_succ hi)]

end Text
end Proofreader
