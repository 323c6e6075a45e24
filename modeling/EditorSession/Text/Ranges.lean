/-! # Sets of characters as ranges

A set of characters of the Unicode standard is a list of ranges of code points in ascending order.
-/

namespace EditorSession.Text

/-- The character lies in one of the ranges, both ends included. -/
def inRanges (ranges : List (Nat × Nat)) (c : Char) : Bool :=
  ranges.any fun (first, last) => first ≤ c.toNat && c.toNat ≤ last

end EditorSession.Text
