import SqlBuilder.Number.Numeral
import SqlBuilder.Number.Rounding

/-!
# Double precision

`Double` is a binary floating-point number of 64 bits, taken apart: a finite one is `± significand ·
2 ^ exponent` with a significand below `2 ^ 53` and an exponent of at least `-1074`.
`Double.nearest` rounds a quotient to the nearest one, a half to the even significand.
-/

set_option autoImplicit false

namespace SqlBuilder.Number

/-- A double-precision number. -/
inductive Double where
  | finite (negative : Bool) (significand : Nat) (exponent : Int)
  | infinite (negative : Bool)
  | nan
  deriving Repr, DecidableEq

instance : Inhabited Double := ⟨.nan⟩

namespace Double

/-- The least exponent. -/
def minExponent : Int := -1074

/-- The greatest exponent. -/
def maxExponent : Int := 971

/-- `num / (den · 2 ^ e)` as a quotient of natural numbers. -/
def scaled (num den : Nat) : Int → Nat × Nat
  | .ofNat e => (num, den * Nat.pow 2 e)
  | .negSucc e => (num * Nat.pow 2 (e + 1), den)

/-- The exponent at which `num / den` has 53 binary digits, or the least one. -/
def exponentOf (num den : Nat) : Int :=
  let guess := (Nat.log2 num : Int) - Nat.log2 den - 53
  let (n, d) := scaled num den guess
  max minExponent (if n / d < Nat.pow 2 53 then guess else guess + 1)

/-- The double nearest to `± num / den`. -/
def nearest (negative : Bool) (num den : Nat) : Double :=
  if num = 0 then .finite negative 0 minExponent
  else
    let e := exponentOf num den
    let (n, d) := scaled num den e
    let m := roundDiv n d
    let (m, e) := if m = Nat.pow 2 53 then (Nat.pow 2 52, e + 1) else (m, e)
    if maxExponent < e then .infinite negative else .finite negative m e

/-- The decimal digits of a natural number. -/
def digitCount (n : Nat) : Nat := (Nat.toDigits 10 n).length

/-- The double nearest to a numeral. Powers of ten far outside the range are not multiplied out. -/
def ofNumeral : Numeral → Double
  | .notANumber => .nan
  | .infinite negative => .infinite negative
  | .finite negative coefficient exponent =>
    if coefficient = 0 then .finite negative 0 minExponent
    else
      let magnitude := exponent + digitCount coefficient
      if 400 < magnitude then .infinite negative
      else if magnitude < -400 then .finite negative 0 minExponent
      else match exponent with
        | .ofNat e => nearest negative (coefficient * Nat.pow 10 e) 1
        | .negSucc e => nearest negative coefficient (Nat.pow 10 (e + 1))

/-- The double nearest to an integer; none if it is out of range. -/
def ofInt? (n : Int) : Option Double :=
  match nearest (n < 0) n.natAbs 1 with
  | .infinite _ => none
  | x => some x

/-- The double a text denotes. -/
def ofText? (s : String) : Option Double :=
  (readNumeral? s).map ofNumeral

/-- The absolute value of a finite double as a quotient. -/
def quotient (significand : Nat) : Int → Nat × Nat
  | .ofNat e => (significand * Nat.pow 2 e, 1)
  | .negSucc e => (significand, Nat.pow 2 (e + 1))

end Double

end SqlBuilder.Number
