import Countersign.Text.Basic
/-! Sets of characters, told as ranges of code points. -/

namespace Countersign.Text

abbrev Ranges := List (Nat × Nat)

/-- Whether a character lies in one of the ranges. -/
def Ranges.has (rs : Ranges) (c : Char) : Bool :=
  rs.any fun (a, b) => decide (a ≤ c.toNat ∧ c.toNat ≤ b)

end Countersign.Text
