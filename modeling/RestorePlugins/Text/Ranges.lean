namespace RestorePlugins

/-!
# Sets of characters as ranges

Properties of characters are tables of code point ranges, both ends included.
-/

/-- Whether a character lies in one of the ranges. -/
def inRanges (ranges : Array (Nat × Nat)) (c : Char) : Bool :=
  ranges.any fun r => r.1 ≤ c.toNat && c.toNat ≤ r.2

end RestorePlugins
