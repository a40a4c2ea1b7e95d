import Stencil.Text.CharRange
import Stencil.Text.Search

/-!
# Blanks

The blanks are the characters with the Unicode property White_Space.
-/

namespace Stencil.Text

/-- The 25 code points with the property White_Space. -/
def blankRanges : CharRanges :=
  [(0x09, 0x0D), (0x20, 0x20), (0x85, 0x85), (0xA0, 0xA0), (0x1680, 0x1680), (0x2000, 0x200A),
   (0x2028, 0x2029), (0x202F, 0x202F), (0x205F, 0x205F), (0x3000, 0x3000)]

/-- Whether the character is a blank. -/
def isBlank (c : Char) : Bool := blankRanges.contains c.toNat

/-- The text without the blanks at its two ends. -/
def trim (s : List Char) : List Char := trimWhile isBlank s

end Stencil.Text
