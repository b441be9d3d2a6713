set_option autoImplicit false

/-!
# Text: sets of characters

A set of characters as a table of ranges of their numbers.
-/

namespace Questline.Text

/-- The character lies in one of the ranges. -/
def inRanges (ranges : Array (Nat × Nat)) (c : Char) : Bool :=
  ranges.any fun r => r.1 ≤ c.toNat && c.toNat ≤ r.2

example : inRanges #[(0x41, 0x5A)] 'Q' = true ∧ inRanges #[(0x41, 0x5A)] 'q' = false := by
  decide +kernel

end Questline.Text
