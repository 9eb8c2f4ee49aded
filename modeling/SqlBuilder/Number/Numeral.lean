import SqlBuilder.Text.Blank
import SqlBuilder.Text.Digit

/-!
# Numerals

Reading numbers: `Numeral` is a signed decimal coefficient with a power of ten, or one of the
special values. `readInt?` reads an integer of at most `maxDigits` digits, `readNumeral?` a decimal
numeral. Both allow white space around the number, digits of any script and single underscores
between digits.
-/

set_option autoImplicit false

namespace SqlBuilder.Number

open SqlBuilder.Text

/-- A number as it is written: `± coefficient · 10 ^ exponent`, or a special value. -/
inductive Numeral where
  | finite (negative : Bool) (coefficient : Nat) (exponent : Int)
  | infinite (negative : Bool)
  | notANumber
  deriving Repr, DecidableEq

/-- Reads digits from `value` on, `count` of them read before. `joined` says that a digit stood just
before, so an underscore may follow. The answer is the value, the number of digits and the rest;
none if an underscore is not between two digits. -/
def digitsFrom (value count : Nat) (joined : Bool) : List Char → Option (Nat × Nat × List Char)
  | [] => if joined || count == 0 then some (value, count, []) else none
  | c :: cs =>
    match digitValue? c with
    | some d => digitsFrom (10 * value + d) (count + 1) true cs
    | none =>
      if c = '_' then if joined then digitsFrom value count false cs else none
      else if joined || count == 0 then some (value, count, c :: cs) else none

/-- The digits in front of a text, possibly none. -/
def digits (cs : List Char) : Option (Nat × Nat × List Char) :=
  digitsFrom 0 0 false cs

/-- The sign in front of a text: true for a minus. -/
def sign : List Char → Bool × List Char
  | '-' :: cs => (true, cs)
  | '+' :: cs => (false, cs)
  | cs => (false, cs)

/-- The most digits an integer is read or written with. -/
def maxDigits : Nat := 4300

/-- A number without the white space that may stand around it. -/
def bareChars (s : String) : List Char := trimChars s.toList

/-- An integer: a sign and at least one digit. -/
def readInt? (s : String) : Option Int :=
  let (negative, cs) := sign (bareChars s)
  match digits cs with
  | some (n, count, []) =>
    if count == 0 || maxDigits < count then none
    else some (if negative then -Int.ofNat n else Int.ofNat n)
  | _ => none

/-- The exponent at the end of a numeral: nothing, or an `e` with an integer. -/
def readExponent? : List Char → Option Int
  | [] => some 0
  | c :: cs =>
    if c = 'e' || c = 'E' then
      let (negative, cs) := sign cs
      match digits cs with
      | some (n, count, []) =>
        if count == 0 then none else some (if negative then -Int.ofNat n else Int.ofNat n)
      | _ => none
    else none

/-- A numeral without its sign: digits, a point with more digits, an exponent. -/
def readUnsigned? (negative : Bool) (cs : List Char) : Option Numeral := do
  let (whole, wholeCount, rest) ← digits cs
  let (value, places, rest) ← match rest with
    | '.' :: rest => do
      let (fraction, places, rest) ← digits rest
      pure (whole * Nat.pow 10 places + fraction, places, rest)
    | _ => pure (whole, 0, rest)
  if wholeCount + places == 0 then none
  else do
    let exponent ← readExponent? rest
    pure (.finite negative value (exponent - places))

/-- A decimal numeral, or an infinity or not-a-number by name in any case. -/
def readNumeral? (s : String) : Option Numeral :=
  let (negative, cs) := sign (bareChars s)
  let name := cs.map Char.toLower
  if name = "inf".toList || name = "infinity".toList then some (.infinite negative)
  else if name = "nan".toList then some .notANumber
  else readUnsigned? negative cs

/-! ## Examples -/

example : readInt? " -1_000 " = some (-1000) := by decide
example : readInt? "1__0" = none := by decide
example : readNumeral? "-1.50e3" = some (.finite true 150 1) := by decide
example : readNumeral? "." = none := by decide

end SqlBuilder.Number
