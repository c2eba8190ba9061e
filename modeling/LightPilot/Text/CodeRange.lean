set_option autoImplicit false

/-! # Ranges of code points -/

namespace LightPilot.Text

/-- Whether a character lies in one of some ranges, each given by its first and its last code point. -/
def isWithin (ranges : List (Nat × Nat)) (c : Char) : Bool :=
  ranges.any fun (first, last) => decide (first ≤ c.toNat ∧ c.toNat ≤ last)

end LightPilot.Text
