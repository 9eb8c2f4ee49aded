import SqlBuilder.Number.Exact

/-!
# Sums

The sum of two numbers of one format, rounded with a half to the even neighbour: `Double.add` to the
nearest double, `Numeral.add` to a decimal of at most `sumDigits` digits, which keeps the places
after the point that either of them has as far as the range of exponents goes. `Numeral.text` writes
a decimal with the exponent it has.
-/

set_option autoImplicit false

namespace SqlBuilder.Number

/-- The sum of two numbers that count units of powers of a base, in units of the lesser power. -/
def unitSum (base : Nat) (s : Bool) (m : Nat) (e : Int) (s' : Bool) (m' : Nat) (e' : Int) : Int :=
  let least := min e e'
  Exact.signed s (m * Nat.pow base (e - least).toNat) +
    Exact.signed s' (m' * Nat.pow base (e' - least).toNat)

/-- The sign of a sum: of nothing it is a minus only if both numbers have one. -/
def sumSign (s s' : Bool) (total : Int) : Bool :=
  if total = 0 then s && s' else total < 0

/-- The sum of two doubles. -/
def Double.add : Double → Double → Double
  | .nan, _ | _, .nan => .nan
  | .infinite s, .infinite s' => if s == s' then .infinite s else .nan
  | .infinite s, _ | _, .infinite s => .infinite s
  | .finite s m e, .finite s' m' e' =>
    let total := unitSum 2 s m e s' m' e'
    let (num, den) := Double.quotient total.natAbs (min e e')
    Double.nearest (sumSign s s' total) num den

/-- Why two decimals have no sum. -/
inductive SumFault where
  /-- An infinity meets its opposite. -/
  | undefined
  /-- The sum is beyond the greatest decimal. -/
  | tooLarge
  deriving Repr, DecidableEq

namespace Numeral

/-! ## The range of sums -/

/-- The digits a sum of decimals has at most. -/
def sumDigits : Nat := 28

/-- The greatest power of ten the first digit of a sum can stand for. -/
def greatestPower : Int := 999999

/-- The least power of ten the last digit of a sum can stand for. -/
def leastPlace : Int := -greatestPower - (sumDigits - 1)

/-- The power of ten the first digit of a decimal stands for. -/
def firstPower (coefficient : Nat) (exponent : Int) : Int :=
  exponent + Double.digitCount coefficient - 1

/-- A coefficient without its last digits, rounded. Of digits that all are left out, and another
one, nothing can be left. -/
def withoutDigits (coefficient count : Nat) : Nat :=
  if Double.digitCount coefficient < count then 0
  else roundDiv coefficient (Nat.pow 10 count)

/-- A decimal in the range. One whose first digit stands for less than the least power keeps the
places down to `leastPlace`; any other has room for `sumDigits` digits, so its places are left as
they are. -/
def inRange (negative : Bool) (coefficient : Nat) (exponent : Int) : Except SumFault Numeral :=
  if coefficient = 0 then
    .ok (.finite negative 0 (max leastPlace (min greatestPower exponent)))
  else if greatestPower < firstPower coefficient exponent then .error .tooLarge
  else if firstPower coefficient exponent < -greatestPower && exponent < leastPlace then
    .ok (.finite negative (withoutDigits coefficient (leastPlace - exponent).toNat) leastPlace)
  else .ok (.finite negative coefficient exponent)

/-- A decimal of at most `sumDigits` digits. -/
def shortened : Numeral → Numeral
  | .finite negative c e =>
    let excess := Double.digitCount c - sumDigits
    let c := withoutDigits c excess
    if c = Nat.pow 10 sumDigits then
      .finite negative (Nat.pow 10 (sumDigits - 1)) (e + excess + 1)
    else .finite negative c (e + excess)
  | x => x

/-- A decimal rounded to the digits and the range of sums. -/
def rounded (negative : Bool) (coefficient : Nat) (exponent : Int) : Except SumFault Numeral := do
  match shortened (← inRange negative coefficient exponent) with
  | .finite negative c e => inRange negative c e
  | x => pure x

/-! ## Sums -/

/-- What is added to a decimal of an exponent that is not less: something of a size too small to
matter counts as a single unit far below the last digit that can be kept. -/
def notBelow (greater : Nat) (exponent : Int) (lesser : Nat) (exponent' : Int) : Nat × Int :=
  let digits := Double.digitCount greater
  let below := exponent - 1 - (if sumDigits < digits then 0 else sumDigits + 1 - digits)
  if greater ≠ 0 && firstPower lesser exponent' < below then (min lesser 1, below)
  else (lesser, exponent')

/-- The sum of two finite decimals, the first with an exponent that is not less. -/
def addOrdered (s : Bool) (c : Nat) (e : Int) (s' : Bool) (c' : Nat) (e' : Int) :
    Except SumFault Numeral :=
  let (c', e') := notBelow c e c' e'
  let total := if c = 0 then Exact.signed s' c' else unitSum 10 s c e s' c' e'
  rounded (sumSign s s' total) total.natAbs e'

/-- The sum of two decimals. -/
def add : Numeral → Numeral → Except SumFault Numeral
  | .notANumber, _ | _, .notANumber => .ok .notANumber
  | .infinite s, .infinite s' => if s == s' then .ok (.infinite s) else .error .undefined
  | .infinite s, _ | _, .infinite s => .ok (.infinite s)
  | .finite s c e, .finite s' c' e' =>
    if e' ≤ e then addOrdered s c e s' c' e' else addOrdered s' c' e' s c e

/-! ## Writing -/

/-- The digits with the point at `point`, or with the point after the first one and an exponent
where zeros would have to be added. -/
def digitsText (ds : List Char) (exponent point : Int) : List Char :=
  if exponent = 0 then ds
  else if exponent < 0 && -6 < point then
    match point with
    | .ofNat p =>
      (if p = 0 then ['0'] else ds.take p) ++ '.' :: ds.drop p
    | .negSucc p => '0' :: '.' :: List.replicate (p + 1) '0' ++ ds
  else
    let e := point - 1
    ds.take 1 ++ (if ds.length = 1 then [] else '.' :: ds.drop 1) ++
      'E' :: (if e < 0 then '-' else '+') :: Nat.toDigits 10 e.natAbs

/-- Not a number, written as a sum: of the digits behind the name, which say where it comes from,
the last ones are kept, as many as a sum has, and no zeros in front of them. -/
def shortenedName (name : String) : String :=
  let (letters, digits) := name.toList.span fun c => !c.isDigit
  String.ofList (letters ++ (digits.drop (digits.length - sumDigits)).dropWhile (· == '0'))

/-- A decimal as it is written. -/
def text : Numeral → String
  | .notANumber => "NaN"
  | .infinite negative => if negative then "-Infinity" else "Infinity"
  | .finite negative c e =>
    let ds := Nat.toDigits 10 c
    let body := digitsText ds e (e + ds.length)
    String.ofList (if negative then '-' :: body else body)

/-- The text of the decimal that a text stands for. What is not a number keeps its name. -/
def keptText (s : String) : String :=
  match readNumeral? s with
  | none | some .notANumber => s
  | some x => x.text

end Numeral

/-! ## Examples -/

example : (Double.nearest false 1 10).add (.nearest false 2 10) = .nearest false 1351079888211149
    (Nat.pow 2 52) := by decide +kernel
example : ((Numeral.finite false 150 (-2)).add (.finite true 1 0)).toOption =
    some (.finite false 50 (-2)) := by decide +kernel
example : ((Numeral.finite false 9 999999).add (.finite false 9 999999)).toOption = none := by
  decide +kernel
example : ((Numeral.finite false 1 (-1000027)).add (.finite false 0 0)).toOption =
    some (.finite false 0 (-1000026)) := by decide +kernel
example : ((Numeral.finite false (10 ^ 29 + 499) (-1000024)).add (.finite false 0 0)).toOption =
    some (.finite false (10 ^ 27 + 5) (-1000022)) := by decide +kernel
example : Numeral.shortenedName "-NaN10000000000000000000000000007" = "-NaN7" := by
  decide +kernel
example : (Numeral.finite true 12 (-8)).text = "-1.2E-7" := by decide +kernel
example : (Numeral.finite false 105 (-2)).text = "1.05" := by decide +kernel
example : Numeral.keptText "-9.99E+2" = "-999" := by decide +kernel

end SqlBuilder.Number
