/-!
# Tables of characters

A property of characters is given by the ranges of code points that have it.
-/

namespace Denotation.Text

def inRanges (ranges : List (Nat × Nat)) (char : Char) : Bool :=
  ranges.any fun range => range.1 ≤ char.toNat && char.toNat ≤ range.2

end Denotation.Text
