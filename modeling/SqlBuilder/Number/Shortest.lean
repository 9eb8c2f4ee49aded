import SqlBuilder.Number.Double

/-!
# The shortest numeral of a double

`Double.text` writes a double with the fewest decimal digits that read back as the same number, and
of those the nearest. A grid of `n` digits is tried for `n = 1, 2, …, 17`: if any of its points
reads back, one of the two neighbours of the number does. The format puts numbers from `10 ^ -4` up
to `10 ^ 16` positionally, always with a point, and the others with an exponent of two digits or
more.
-/

set_option autoImplicit false

namespace SqlBuilder.Number.Double

/-- The interval of reals that round to a double, in quarters of its last place: the two ends over
four, and whether the ends belong to it. The gap below a power of two is half as wide. -/
def roundingInterval (significand : Nat) (exponent : Int) : Nat × Nat × Bool :=
  let low :=
    if significand = Nat.pow 2 52 && minExponent < exponent then 4 * significand - 1
    else 4 * significand - 2
  (low, 4 * significand + 2, significand % 2 == 0)

/-- `10 ^ point` is above `num / den` and `10 ^ (point - 1)` is not. -/
def decimalPoint (num den : Nat) : Int :=
  if den ≤ num then digitCount (num / den)
  else 1 - (digitCount ((den + num - 1) / num - 1) : Int)

/-- The neighbours of `num / den` on the grid of multiples of `10 ^ unit` that lie strictly or
weakly between `low / den` and `high / den`, the nearer one first. All of `num`, `low` and `high`
have the denominator `den`. -/
def gridPoint? (num low high den : Nat) (closed : Bool) (unit : Int) : Option Nat :=
  let (scale, den) := match unit with
    | .ofNat u => (1, den * Nat.pow 10 u)
    | .negSucc u => (Nat.pow 10 (u + 1), den)
  let (num, low, high) := (num * scale, low * scale, high * scale)
  let inside (k : Nat) : Bool :=
    if closed then low ≤ k * den && k * den ≤ high else low < k * den && k * den < high
  let below := num / den
  let above := below + 1
  match inside below, inside above with
  | true, true => some (roundDiv num den)
  | true, false => some below
  | false, true => some above
  | false, false => none

/-- The first grid from `count` digits on that has a point which reads back: that point and the unit
of its last digit. -/
def shortestFrom (num low high den : Nat) (closed : Bool) (point : Int) (count : Nat) :
    Nat → Nat × Int
  | 0 => (roundDiv num den, 0)
  | more + 1 =>
    let unit := point - count
    match gridPoint? num low high den closed unit with
    | some k => (k, unit)
    | none => shortestFrom num low high den closed point (count + 1) more

/-- The digits of the shortest numeral of a positive double and the place of its decimal point. -/
def shortest (significand : Nat) (exponent : Int) : List Char × Int :=
  let (low, high, closed) := roundingInterval significand exponent
  let (num, den) := quotient (4 * significand) (exponent - 2)
  let (low, _) := quotient low (exponent - 2)
  let (high, _) := quotient high (exponent - 2)
  let (k, unit) := shortestFrom num low high den closed (decimalPoint num den) 1 17
  let ds := Nat.toDigits 10 k
  let trimmed := (ds.reverse.dropWhile (· == '0')).reverse
  (trimmed, unit + ds.length)

/-- How a numeral is laid out: the exponents written positionally lie between the two limits, and an
exponent has at least `exponentWidth` digits. -/
structure Layout where
  leastPositional : Int
  positionalLimit : Int
  exponentWidth : Nat

/-- Zeros in front of a text up to a width. -/
def padZeros (width : Nat) (cs : List Char) : List Char :=
  List.replicate (width - cs.length) '0' ++ cs

/-- The digits with the decimal point at `point`, and at least one digit on both sides of it. -/
def positional (ds : List Char) (point : Int) : List Char :=
  match point with
  | .ofNat p =>
    if p = 0 then '0' :: '.' :: ds
    else
      let whole := ds.take p ++ List.replicate (p - ds.length) '0'
      let fraction := ds.drop p
      whole ++ '.' :: (if fraction.isEmpty then ['0'] else fraction)
  | .negSucc p => '0' :: '.' :: List.replicate (p + 1) '0' ++ ds

/-- The digits with the point after the first one, and an exponent. -/
def scientific (layout : Layout) (ds : List Char) (point : Int) : List Char :=
  let e := point - 1
  let mantissa := match ds with
    | d :: [] => [d]
    | d :: more => d :: '.' :: more
    | [] => ['0']
  mantissa ++ 'e' :: (if e < 0 then '-' else '+') ::
    padZeros layout.exponentWidth (Nat.toDigits 10 e.natAbs)

/-- Numbers from `10 ^ -4` up to `10 ^ 16` are positional and exponents have two digits. -/
def layout : Layout := ⟨-4, 16, 2⟩

/-- The shortest numeral that reads back as the same double. -/
def text : Double → String
  | .nan => "nan"
  | .infinite negative => if negative then "-inf" else "inf"
  | .finite negative m e =>
    let body :=
      if m = 0 then "0.0".toList
      else
        let (ds, point) := shortest m e
        if layout.leastPositional ≤ point - 1 && point - 1 < layout.positionalLimit then
          positional ds point
        else scientific layout ds point
    String.ofList (if negative then '-' :: body else body)

end SqlBuilder.Number.Double
