import SqlBuilder.Number.Numeral
import SqlBuilder.Text.Cut

/-!
# Whole numbers in forms

`readWhole?` reads the whole number a form is filled in with, in ASCII digits: zeros in front, a
plus sign, single underscores and a fraction of zeros are let pass, and white space around it.
Underscores among the zeros in front are skipped with them, and a minus sign may follow those zeros.
-/

set_option autoImplicit false

namespace SqlBuilder.Number

open SqlBuilder.Text

/-- What stands after the zeros in front, of which `last` was the one before. A point keeps the
character before it, and of nothing but zeros the last one is left. -/
def afterZeros (last : Char) : List Char → Option (List Char)
  | [] => some [last]
  | c :: cs =>
    if c = '0' || c = '_' then afterZeros c cs
    else if c = '-' || c.isDigit then some (c :: cs)
    else if c = '.' then some (last :: c :: cs)
    else none

/-- The number without the zeros in front. -/
def withoutLeadingZeros : List Char → Option (List Char)
  | [] => none
  | c :: cs =>
    if c = '0' then afterZeros c cs
    else if c = '-' || c.isDigit then some (c :: cs)
    else none

/-- The number without a fraction of zeros. -/
def withoutFraction (cs : List Char) : Option (List Char) :=
  match cut ['.'] cs with
  | none => some cs
  | some (_, []) => none
  | some (whole, fraction) => if fraction.all (· == '0') then some whole else none

/-- The number without underscores, if each of them stands between other characters. -/
def withoutUnderscores (cs : List Char) : List Char :=
  if cs.head? == some '_' || cs.getLast? == some '_' || (cut ['_', '_'] cs).isSome then cs
  else cs.filter (· != '_')

/-- A natural number in plain digits: no zero in front, and not too many of them. -/
def plainNat? (cs : List Char) : Option Nat :=
  match cs with
  | ['0'] => some 0
  | [] | '0' :: _ => none
  | cs =>
    if cs.all Char.isDigit && cs.length ≤ maxDigits then
      some (cs.foldl (fun n c => 10 * n + (c.toNat - 48)) 0)
    else none

/-- An integer in plain digits, the minus sign counted with them. -/
def plainInt? (cs : List Char) : Option Int :=
  match cs with
  | '-' :: cs => if cs.length < maxDigits then (plainNat? cs).map fun n => -Int.ofNat n else none
  | cs => (plainNat? cs).map Int.ofNat

/-- The number after its sign, with a minus put in front of it again. -/
def readMagnitude? (negative : Bool) (cs : List Char) : Option Int := do
  let digits := withoutUnderscores (← withoutFraction (← withoutLeadingZeros cs))
  plainInt? (if negative then '-' :: digits else digits)

/-- The whole number a form is filled in with. A plus sign is no sign to a minus. -/
def readWhole? (s : String) : Option Int :=
  match trimChars s.toList with
  | '+' :: '-' :: _ => none
  | '+' :: cs => readMagnitude? false cs
  | '-' :: cs => readMagnitude? true cs
  | cs => readMagnitude? false cs

/-! ## Examples -/

example : readWhole? " +01_0.00 " = some 10 := by decide +kernel
example : readWhole? "0_-1" = some (-1) := by decide +kernel
example : readWhole? "1." = none := by decide +kernel
example : readWhole? "1__0" = none := by decide +kernel

end SqlBuilder.Number
