namespace CompositeObjects.Text

/-- Whether one of the ranges, each given by its first and its last number, holds the character. -/
def inRanges (ranges : List (Nat × Nat)) (c : Char) : Bool :=
  ranges.any fun r => r.1 ≤ c.toNat && c.toNat ≤ r.2

end CompositeObjects.Text
