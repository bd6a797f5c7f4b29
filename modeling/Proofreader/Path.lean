import Proofreader.Text.Bytes

/-!
# Paths

A path names a file by bytes.  Mostly they are text, but they need not be: any bytes without a zero
can name a file.  What is printed of a path is the text that its bytes are shown as, so two paths
that are not text may look alike.
-/

set_option autoImplicit false

namespace Proofreader

/-- The path of a file or of a directory. -/
structure Path where
  /-- The bytes of the path. -/
  bytes : Bytes
deriving Repr, DecidableEq

namespace Path

/-- The path that a text writes. -/
@[coe]
def ofString (s : String) : Path := ⟨Text.encode s⟩

instance : Coe String Path := ⟨ofString⟩

/-- The text that a path is shown as. -/
def display (path : Path) : String := Text.decode path.bytes

/-- The byte between the parts of a path, `/`. -/
def slash : UInt8 := 0x2F

/-- The part `.`, which stays in a directory. -/
def current : Bytes := [0x2E]

/-- The part `..`, which leads to the directory around one. -/
def parent : Bytes := [0x2E, 0x2E]

/-- The parts of a path between slashes. -/
def partsOf : Bytes → List Bytes
  | [] => [[]]
  | b :: rest =>
    match partsOf rest with
    | [] => [[]]
    | part :: more => if b == slash then [] :: part :: more else (b :: part) :: more

end Path
end Proofreader
