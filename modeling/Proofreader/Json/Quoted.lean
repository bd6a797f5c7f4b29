import Proofreader.Charset.Property

/-!
# Quoted text

How a string is shown in a message: between quotation marks, with escapes for the marks themselves,
for control characters, and for whatever cannot be seen by itself.
-/

set_option autoImplicit false

namespace Proofreader
namespace Json

/-- The digits of a number to base 16, in small letters. -/
def hexText (n : Nat) : List Char := Nat.toDigits 16 n

/-- Whether a character can be seen by itself: it is neither blank, except for the space, nor
without a shape of its own, nor a mark on the character before it. -/
def isVisible (c : Char) : Bool :=
  c == ' ' || !(Charset.other.contains c || Charset.separator.contains c ||
    Charset.graphemeExtend.contains c)

/-- A character as it is shown between quotation marks. -/
def quoteChar (c : Char) : List Char :=
  match c with
  | '\x00' => ['\\', '0']
  | '\t' => ['\\', 't']
  | '\r' => ['\\', 'r']
  | '\n' => ['\\', 'n']
  | '\\' => ['\\', '\\']
  | '"' => ['\\', '"']
  | _ => if isVisible c then [c] else ['\\', 'u', '\x7b'] ++ hexText c.toNat ++ ['\x7d']

/-- A text between quotation marks. -/
def quoted (text : List Char) : String :=
  String.ofList ('"' :: (text.map quoteChar).flatten ++ ['"'])

end Json
end Proofreader
