/-! Runs of code points, in order and apart from each other, for tables of characters. -/

namespace ServerUi

/-- Whether a character is in one of the runs, each given by its first and last code point. -/
def inRanges (ranges : List (Nat × Nat)) (c : Char) : Bool :=
  (ranges.dropWhile fun range => range.2 < c.toNat).head?.any (·.1 ≤ c.toNat)

end ServerUi
