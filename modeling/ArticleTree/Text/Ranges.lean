/-! # Ranges of characters

Properties of characters are written as ranges of code points, by ascending code point.
-/

namespace ArticleTree.Text

/-- The character is in one of the ranges, their ends included. -/
def inRanges (ranges : List (Nat × Nat)) (c : Char) : Bool :=
  ranges.any fun (first, last) => first ≤ c.toNat && c.toNat ≤ last

end ArticleTree.Text
