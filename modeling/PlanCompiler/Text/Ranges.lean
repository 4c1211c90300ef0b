/-
# Text.Ranges -- sets of code points

A property of characters is tabled as the closed ranges of code points that have
it, in ascending order.
-/

namespace PlanCompiler.Text

set_option autoImplicit false

/-- A set of code points: the union of the closed ranges. -/
abbrev Ranges := List (Nat × Nat)

namespace Ranges

def contains (ranges : Ranges) (code : Nat) : Bool :=
  ranges.any fun (low, high) => low ≤ code && code ≤ high

end Ranges

end PlanCompiler.Text
