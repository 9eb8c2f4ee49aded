import SqlBuilder.Number.Double

/-!
# Exact comparison of numbers

`Exact` is the value of a number whatever its format: a power of ten with a coefficient, an
infinity, or not a number. The coefficient is kept without the zeros at its end (`Exact.scaled`), so
integers, doubles and decimals are equal when the exact values are, and no power of ten has to be
multiplied out to see it.
-/

set_option autoImplicit false

namespace SqlBuilder.Number

/-- The exact value of a number. -/
inductive Exact where
  /-- `± coefficient · 10 ^ exponent`. -/
  | finite (negative : Bool) (coefficient : Nat) (exponent : Int)
  | infinite (negative : Bool)
  | notANumber
  deriving Repr, DecidableEq

/-- The decimal digits of a natural number, the last one first. -/
def lastDigits (n : Nat) : List Char := (Nat.toDigits 10 n).reverse

namespace Exact

/-- Zero, which has no sign. -/
def zero : Exact := .finite false 0 0

/-- How many zeros a number has at its end. -/
def zerosAtEnd (n : Nat) : Nat :=
  if n % 10 = 0 then ((lastDigits n).takeWhile (· == '0')).length else 0

/-- The number `± coefficient · 10 ^ exponent`, the coefficient without the zeros at its end. -/
def scaled (negative : Bool) (coefficient : Nat) (exponent : Int) : Exact :=
  if coefficient = 0 then zero
  else
    let zeros := zerosAtEnd coefficient
    .finite negative (coefficient / Nat.pow 10 zeros) (exponent + zeros)

/-- The value of an integer. -/
def ofInt (n : Int) : Exact := scaled (n < 0) n.natAbs 0

/-- The value of a double. Of a fraction with a power of two below the line as much is left as
cannot be cancelled, and this is a power of five over a power of ten. -/
def ofDouble : Double → Exact
  | .finite negative m (.ofNat e) => scaled negative (m * Nat.pow 2 e) 0
  | .finite negative m (.negSucc e) =>
    let unit := Nat.pow 2 (e + 1)
    let common := Nat.gcd m unit
    let places := Nat.log2 (unit / common)
    scaled negative (m / common * Nat.pow 5 places) (-Int.ofNat places)
  | .infinite negative => .infinite negative
  | .nan => .notANumber

/-- The value of a decimal numeral. -/
def ofNumeral : Numeral → Exact
  | .finite negative c e => scaled negative c e
  | .infinite negative => .infinite negative
  | .notANumber => .notANumber

/-- The same number. Not-a-number equals nothing. -/
def same (a b : Exact) : Bool := a == b && a != .notANumber

/-- The number is below zero. -/
def isNegative : Exact → Bool
  | .finite negative c _ => negative && c != 0
  | .infinite negative => negative
  | .notANumber => false

/-- The first of two magnitudes is less. Where the first digits do not stand for the same power of
ten they decide it, and no power has to be multiplied out. -/
def magnitudeLess (c : Nat) (e : Int) (c' : Nat) (e' : Int) : Bool :=
  let first := e + (lastDigits c).length
  let first' := e' + (lastDigits c').length
  if c = 0 then c' != 0
  else if c' = 0 then false
  else if first != first' then first < first'
  else
    let least := min e e'
    c * Nat.pow 10 (e - least).toNat < c' * Nat.pow 10 (e' - least).toNat

/-- The first number is less than the second. -/
def less : Exact → Exact → Bool
  | .finite false c e, .finite false c' e' => magnitudeLess c e c' e'
  | .finite true c e, .finite true c' e' => magnitudeLess c' e' c e
  | .finite true c _, .finite false c' _ => c != 0 || c' != 0
  | .finite false _ _, .finite true _ _ => false
  | .infinite s, .infinite s' => s && !s'
  | .infinite s, .finite _ _ _ => s
  | .finite _ _ _, .infinite s => !s
  | _, _ => false

/-- A sign and a magnitude. -/
def signed (negative : Bool) (n : Nat) : Int :=
  if negative then -Int.ofNat n else Int.ofNat n

/-- The number without its places after the point. Of a magnitude below one nothing is left. -/
def whole? : Exact → Option Int
  | .finite negative c (.ofNat e) => some (signed negative (c * Nat.pow 10 e))
  | .finite negative c (.negSucc e) =>
    some (if (lastDigits c).length ≤ e + 1 then 0 else signed negative (c / Nat.pow 10 (e + 1)))
  | .infinite _ | .notANumber => none

/-- The number, if it has no places after the point. -/
def integer? : Exact → Option Int
  | .finite _ _ (.negSucc _) => none
  | x => x.whole?

/-! ## Laws -/

theorem eq_of_same {a b : Exact} (h : a.same b = true) : a = b := by
  simp [same] at h
  exact h.1

end Exact

end SqlBuilder.Number
