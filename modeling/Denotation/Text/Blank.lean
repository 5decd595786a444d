import Denotation.Text.Ranges

/-!
# Blanks

The characters that Unicode calls white space: the space, the tab and the ends of lines, and the
spaces of other widths.
-/

namespace Denotation.Text

/-- The blanks of Unicode 17, as ascending ranges with both ends included. -/
def blankRanges : List (Nat × Nat) := [
  (0x9, 0xD), (0x20, 0x20), (0x85, 0x85), (0xA0, 0xA0), (0x1680, 0x1680), (0x2000, 0x200A),
  (0x2028, 0x2029), (0x202F, 0x202F), (0x205F, 0x205F), (0x3000, 0x3000)]

def isBlank (char : Char) : Bool := inRanges blankRanges char

end Denotation.Text
