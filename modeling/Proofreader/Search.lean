import Proofreader.Pattern.Compile
import Proofreader.Text.Offsets
import Proofreader.Text.Range

/-!
# Searching a text

`matchRanges` gives every match of a pattern.  `loneMatches` gives the matches that lack a companion
on one side: a companion pattern is put before or behind the pattern, and a match that shares its
anchor with a match of the whole is complete and left out.

The two lists of matches are compared in one pass.  A cursor into the matches of the whole stands
still until a match shares its anchor with the one under the cursor, and it never goes behind the
last.
-/

set_option autoImplicit false

namespace Proofreader

/-- The side on which a companion is expected. -/
inductive Side where
  /-- Before the match. -/
  | left
  /-- Behind the match. -/
  | right
deriving Repr, DecidableEq

namespace Side

/-- The pattern together with its companion. -/
def withCompanion (side : Side) (pattern companion : String) : String :=
  match side with
  | left => companion ++ pattern
  | right => pattern ++ companion

/-- The end of a match that it shares with a match of the whole: the one away from the companion. -/
def anchor (side : Side) (r : TextRange) : Nat :=
  match side with
  | left => r.stop
  | right => r.start

end Side

namespace Search

/-- The ranges of a program's matches in a text. -/
def ranges (prog : Pattern.Program) (text : List Char) : List TextRange :=
  let found := prog.matchesIn text
  if found.isEmpty then []
  else
    let offsets := Text.Offsets.ofText text
    found.map fun m => ⟨offsets.charOffset m.start, offsets.charOffset m.stop⟩

/-- The matches without a partner.  `cursor` is the match of the whole that the cursor is on, and
`ahead` are those behind it. -/
def unpaired (side : Side) :
    List TextRange → (cursor : TextRange) → (ahead : List TextRange) → List TextRange
  | [], _, _ => []
  | r :: rest, cursor, ahead =>
    if side.anchor r = side.anchor cursor then
      match ahead with
      | [] => unpaired side rest cursor []
      | next :: ahead => unpaired side rest next ahead
    else r :: unpaired side rest cursor ahead

end Search

/-- Every match of a pattern in a text, from left to right. -/
def matchRanges (text pattern : String) : Except PatternFault (List TextRange) := do
  let prog ← Pattern.compile pattern
  return Search.ranges prog text.toList

/-- The matches of a pattern that lack their companion.  The companion is not even looked at where
the pattern does not match. -/
def loneMatches (text pattern companion : String) (side : Side) :
    Except PatternFault (List TextRange) := do
  let found ← matchRanges text pattern
  if found.isEmpty then return []
  match ← matchRanges text (side.withCompanion pattern companion) with
  | [] => return found
  | cursor :: ahead => return Search.unpaired side found cursor ahead

end Proofreader
