import SqlBuilder.Fault
import SqlBuilder.Number.Sum
import SqlBuilder.Text.Cut

/-!
# Conversions

What a value becomes where a whole number, a floating-point number, a list or a map is asked for,
and what two values make together. A value that cannot be used so at all is of the wrong type; one
that could be, but does not denote what is asked for, is a bad value.
-/

set_option autoImplicit false

namespace SqlBuilder.Value

open SqlBuilder.Number

/-! ## Numbers -/

/-- The text of octets that are all ASCII. -/
def asciiText? (octets : List UInt8) : Option String :=
  if octets.all (· < 128) then some (String.ofList (octets.map fun o => Char.ofNat o.toNat))
  else none

/-- The whole part of an exact number. -/
def wholePart (x : Exact) : Result Int :=
  match x.whole? with
  | some n => .ok n
  | none => misuse (if x == .notANumber then .badValue else .overflow)

/-- A whole number: of a number its whole part, of a text the integer it denotes. -/
def toWhole : Value → Result Int
  | .bool b => .ok (if b then 1 else 0)
  | .int n => .ok n
  | .float x _ => wholePart (Exact.ofDouble x)
  | .decimal numeral _ => wholePart (exactDecimal numeral)
  | .text s =>
    match readInt? s with
    | some n => .ok n
    | none => misuse .badValue
  | .bytes octets =>
    match (asciiText? octets).bind readInt? with
    | some n => .ok n
    | none => misuse .badValue
  | _ => misuse .wrongType

/-- The double nearest to a decimal. A signalling one is none. -/
def decimalDouble (numeral : String) (identity : Nat) : Result Double :=
  if (Value.decimal numeral identity).isSignalling then misuse .badValue
  else .ok ((Double.ofText? numeral).getD .nan)

/-- A floating-point number: the nearest to a number, or the one a text denotes. -/
def toDouble : Value → Result Double
  | .bool b => .ok (Double.nearest false (if b then 1 else 0) 1)
  | .int n =>
    match Double.ofInt? n with
    | some x => .ok x
    | none => misuse .overflow
  | .float x _ => .ok x
  | .decimal numeral identity => decimalDouble numeral identity
  | .text s =>
    match Double.ofText? s with
    | some x => .ok x
    | none => misuse .badValue
  | .bytes octets =>
    match (asciiText? octets).bind Double.ofText? with
    | some x => .ok x
    | none => misuse .badValue
  | _ => misuse .wrongType

/-- The number, but not less than zero. Decimals that are not a number cannot be ordered. -/
def atLeastZero (v : Value) : Result Value :=
  match v, v.number? with
  | .decimal _ _, some .notANumber => misuse .invalidOperation
  | v, some x => .ok (if x.isNegative then .int 0 else v)
  | _, none => misuse .wrongType

/-- The values are equal, unless the comparison is invalid. -/
def equals (a b : Value) : Result Bool :=
  match a.equal? b with
  | some equal => .ok equal
  | none => misuse .invalidOperation

/-- The text of a value, as far as integers are written: those of too many digits are not. -/
def written (v : Value) : Result String :=
  match v with
  | .int n => if Nat.pow 10 maxDigits ≤ n.natAbs then misuse .badValue else .ok (intText n)
  | v => .ok v.toText

/-! ## Lists and maps -/

/-- The elements of anything that can be looped over. -/
def toItems (v : Value) : Result (List Value) :=
  match v.elements? with
  | some xs => .ok xs
  | none => misuse .wrongType

/-- A key and a value, from two elements. -/
def toPair (v : Value) : Result (Value × Value) := do
  match ← v.toItems with
  | [k, x] => if k.isKey then pure (k, x) else misuse .wrongType
  | _ => misuse .badValue

/-- The entries of a map, or those made of a sequence of pairs. -/
def toEntries (v : Value) : Result (List (Value × Value)) :=
  match v with
  | .map entries => .ok entries
  | v => do pure (ofPairs (← (← v.toItems).mapM toPair))

/-- The value contains a text: a text as a part of it, anything else among its elements. Octets
contain octets only. -/
def contains (v : Value) (s : String) : Result Bool :=
  match v with
  | .text t => .ok (Text.cut s.toList t.toList).isSome
  | .bytes _ => misuse .wrongType
  | v => do pure ((← v.toItems).any (·.same (.text s)))

/-! ## Decimals and sums -/

/-- A decimal, from its text. -/
def ofDecimal (text : String) : Value := .decimal (Numeral.keptText text) 0

/-- The number is a decimal. -/
def isDecimal : Value → Bool
  | .decimal _ _ => true
  | _ => false

/-- The numeral of an integer or a decimal. -/
def numeral? : Value → Option String
  | .bool b => some (if b then "1" else "0")
  | .int n => some (intText n)
  | .decimal numeral _ => some numeral
  | _ => none

/-- The sum of two decimals. One that is not a number is the sum itself, unless it signals that. -/
def plusDecimal (x y : String) : Result Value :=
  if (Value.decimal x 0).isSignalling || (Value.decimal y 0).isSignalling then
    misuse .invalidOperation
  else if exactDecimal x == .notANumber then .ok (.decimal (Numeral.shortenedName x) 0)
  else if exactDecimal y == .notANumber then .ok (.decimal (Numeral.shortenedName y) 0)
  else match (readNumeral? x).getD .notANumber |>.add ((readNumeral? y).getD .notANumber) with
    | .ok sum => .ok (.decimal sum.text 0)
    | .error .undefined => misuse .invalidOperation
    | .error .tooLarge => misuse .decimalOverflow

/-- The sum of two numbers: of a double and an integer as doubles, of a decimal and an integer as
decimals. -/
def plusNumber (a b : Value) : Result Value :=
  match a.numeral?, b.numeral? with
  | some x, some y =>
    if a.isDecimal || b.isDecimal then plusDecimal x y
    else do pure (.int ((← a.toWhole) + (← b.toWhole)))
  | _, _ =>
    if a.isDecimal || b.isDecimal then misuse .wrongType
    else do pure (.double ((← a.toDouble).add (← b.toDouble)))

/-- One value after another, or the sum of two numbers. Only values of one kind go together. -/
def plus (a b : Value) : Result Value :=
  match a, b with
  | .text s, .text t => .ok (.text (s ++ t))
  | .bytes s, .bytes t => .ok (.bytes (s ++ t))
  | .list xs, .list ys => .ok (.list (xs ++ ys))
  | .tuple xs, .tuple ys => .ok (.tuple (xs ++ ys))
  | a, b => if a.number?.isSome && b.number?.isSome then plusNumber a b else misuse .wrongType

end SqlBuilder.Value
