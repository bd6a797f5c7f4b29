/-!
# Lines of a text

Two ways to cut a text at its line feeds.  `pieces` cuts at every line feed, so that a text always
has one more piece than it has line feeds.  `lines` is for showing text: a carriage return before a
line feed belongs to the line end, and nothing follows the last line end.
-/

set_option autoImplicit false

namespace Proofreader
namespace Text

/-- The parts between line feeds, the first of them apart since there always is one. -/
def cutAtFeeds : List Char → List Char × List (List Char)
  | [] => ([], [])
  | c :: rest =>
    let (piece, more) := cutAtFeeds rest
    if c == '\n' then ([], piece :: more) else (c :: piece, more)

/-- The parts of a text between its line feeds. -/
def pieces (text : List Char) : List (List Char) :=
  (cutAtFeeds text).1 :: (cutAtFeeds text).2

/-- A text without the carriage return at its end, if it has one. -/
def dropReturn (line : List Char) : List Char :=
  if line.getLast? == some '\r' then line.dropLast else line

/-- The lines from a list of pieces: all but the last piece were ended by a line feed. -/
def linesOfPieces : List (List Char) → List (List Char)
  | [] => []
  | [last] => if last.isEmpty then [] else [last]
  | piece :: more => dropReturn piece :: linesOfPieces more

/-- The lines of a text, without their line ends. -/
def lines (text : List Char) : List (List Char) := linesOfPieces (pieces text)

/-- A text has one piece more than it has line feeds. -/
theorem length_pieces (text : List Char) : (pieces text).length = text.count '\n' + 1 := by
  have h : (cutAtFeeds text).2.length = text.count '\n' := by
    induction text with
    | nil => rfl
    | cons c rest ih =>
      simp only [cutAtFeeds, List.count_cons]
      split <;> simp [ih]
  simp [pieces, h]

variable {text rest : List Char}

theorem cutAtFeeds_of_not_mem (h : '\n' ∉ text) : cutAtFeeds text = (text, []) := by
  induction text with
  | nil => rfl
  | cons c text ih =>
    rw [List.mem_cons, not_or] at h
    simp [cutAtFeeds, ih h.2, Ne.symm h.1]

theorem cutAtFeeds_append_feed (h : '\n' ∉ text) :
    cutAtFeeds (text ++ '\n' :: rest) = (text, pieces rest) := by
  induction text with
  | nil => rfl
  | cons c text ih =>
    rw [List.mem_cons, not_or] at h
    simp [cutAtFeeds, ih h.2, Ne.symm h.1]

/-- A text without line feeds is one piece. -/
theorem pieces_of_not_mem (h : '\n' ∉ text) : pieces text = [text] := by
  rw [pieces, cutAtFeeds_of_not_mem h]

/-- The first piece ends at the first line feed. -/
theorem pieces_append_feed (h : '\n' ∉ text) :
    pieces (text ++ '\n' :: rest) = text :: pieces rest := by
  rw [pieces, cutAtFeeds_append_feed h]

end Text
end Proofreader
