import SqlBuilder.Fault
import SqlBuilder.Sorting.Sorted

/-!
# Order of values

Texts and octets are ordered by their characters, numbers by their value, moments by time, and
tuples by the first items that differ. Nothing else is ordered, nor values of two kinds
(`Value.less`).

`Value.sorted` puts values in order. Not a number is neither less nor greater than any number, so
where it is among the values the result depends on which of them are compared.
-/

set_option autoImplicit false

namespace SqlBuilder.Value

open SqlBuilder.Number

/-! ## Comparing -/

/-- A number comes before another. A decimal and not a number cannot be ordered if one of them is a
decimal that is not a number. -/
def lessNumber (a b : Value) (x y : Exact) : Result Bool :=
  let unordered := x == .notANumber || y == .notANumber
  match a, b with
  | .decimal _ _, _ | _, .decimal _ _ => if unordered then misuse .invalidOperation
    else .ok (x.less y)
  | _, _ => .ok (x.less y)

/-- The first value comes before the second, for values that are not made of others. -/
def lessScalar (a b : Value) : Result Bool :=
  match a, b with
  | .text s, .text t => .ok (s < t)
  | .bytes s, .bytes t => .ok (s < t)
  | .moment k s, .moment k' t =>
    let (m, m') := (Moment.read k s, Moment.read k' t)
    if m.isComparable m' then .ok (m.earlier m') else misuse .wrongType
  | a, b =>
    match a.number?, b.number? with
    | some x, some y => lessNumber a b x y
    | _, _ => misuse .wrongType

mutual

/-- The first value comes before the second. -/
def less : Value → Value → Result Bool
  | .tuple xs, .tuple ys => lessItems xs ys
  | a, b => lessScalar a b

/-- The first items that differ decide; where there are none, the shorter tuple comes first. -/
def lessItems : List Value → List Value → Result Bool
  | [], ys => .ok !ys.isEmpty
  | _ :: _, [] => .ok false
  | x :: xs, y :: ys =>
    match alike x y (x.equal? y) with
    | some true => lessItems xs ys
    | some false => less x y
    | none => misuse .invalidOperation

end

/-! ## Sorting -/

/-- The values in order. -/
def sorted (vs : List Value) : Result (List Value) := Sorting.sorted less vs

end SqlBuilder.Value
