set_option autoImplicit false

/-! # Ranges of characters

A class of characters is a list of closed ranges of code points. -/

namespace Stablecoin.Text

/-- The character's code point lies in one of the ranges. -/
def inRanges (ranges : List (Nat × Nat)) (c : Char) : Bool :=
  ranges.any fun r => r.1 ≤ c.toNat && c.toNat ≤ r.2

/-- The character is the first of one of the ranges or an even number of places after it. -/
def inAlternating (ranges : List (Nat × Nat)) (c : Char) : Bool :=
  ranges.any fun r => r.1 ≤ c.toNat && c.toNat ≤ r.2 && (c.toNat - r.1) % 2 == 0

end Stablecoin.Text
