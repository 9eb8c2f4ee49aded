/-!
# Ranges of code points

A character property is kept as a list of inclusive ranges of code points; `inRanges` looks one up.
-/

set_option autoImplicit false

namespace SqlBuilder.Text

/-- `n` lies in one of the inclusive ranges. -/
def inRanges (ranges : List (Nat × Nat)) (n : Nat) : Bool :=
  ranges.any fun (first, last) => first ≤ n && n ≤ last

end SqlBuilder.Text
