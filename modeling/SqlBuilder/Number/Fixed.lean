import SqlBuilder.Number.Double

/-!
# Fixed places

`Double.fixed` writes a double with a fixed number of places after the point, rounding its exact
value with a half to the even neighbour.
-/

set_option autoImplicit false

namespace SqlBuilder.Number.Double

/-- A number of units of `10 ^ -places`, with the point put in. -/
def placed (places units : Nat) : List Char :=
  let ds := Nat.toDigits 10 units
  let ds := List.replicate (places + 1 - ds.length) '0' ++ ds
  ds.take (ds.length - places) ++ '.' :: ds.drop (ds.length - places)

/-- The double with `places` digits after the point. -/
def fixed (places : Nat) : Double → String
  | .nan => "nan"
  | .infinite negative => if negative then "-inf" else "inf"
  | .finite negative m e =>
    let (num, den) := quotient m e
    let body := placed places (roundDiv (num * Nat.pow 10 places) den)
    String.ofList (if negative then '-' :: body else body)

/-! ## Examples -/

example : (nearest false 5 10).fixed 6 = "0.500000" := by decide
example : (nearest true 1 4).fixed 1 = "-0.2" := by decide

end SqlBuilder.Number.Double
