/-!
# Ranges of characters

A class of characters is given by the ranges of its code points.
-/

namespace ServiceHost.Text

/-- Ranges of code points, each by its first and its last one, in increasing order. -/
abbrev Ranges := Array (Nat × Nat)

/-- The code point of the character lies in one of the ranges. -/
def Ranges.contains (ranges : Ranges) (c : Char) : Bool :=
  ranges.any fun (first, last) ↦ decide (first ≤ c.toNat ∧ c.toNat ≤ last)

end ServiceHost.Text
