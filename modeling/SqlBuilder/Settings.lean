import SqlBuilder.Number.Whole
import SqlBuilder.Text.Utf8
import SqlBuilder.Value.Conversion

/-!
# Settings

The settings of a connection, read from named values. `Settings.read` refuses names it does not know
and values of the wrong form, but it takes what can be understood: octets that are UTF-8 for a text,
a member of an enumeration for its value, and for a truth value also 0 or 1 and words such as `yes`
or `off`.
-/

set_option autoImplicit false

namespace SqlBuilder

/-- The forms in which rows are returned. -/
inductive OutputShape where
  /-- An object with the columns as fields. -/
  | object
  /-- Objects by the value of their first column. -/
  | keyedObject
  /-- A map from column names to values. -/
  | namedArray
  /-- The values alone. -/
  | plainArray
  deriving Repr, DecidableEq

namespace OutputShape

/-- The name of a form. -/
def name : OutputShape → String
  | .object => "OBJECT"
  | .keyedObject => "OBJECT_K"
  | .namedArray => "ARRAY_A"
  | .plainArray => "ARRAY_N"

/-- Every form. -/
def all : List OutputShape := [.object, .keyedObject, .namedArray, .plainArray]

/-- The form of a name. -/
def ofName? (s : String) : Option OutputShape := all.find? fun shape => shape.name == s

/-- The form a value names. -/
def ofValue? (v : Value) : Option OutputShape := v.text?.bind ofName?

end OutputShape

/-- What goes in front of table names. -/
inductive PrefixChoice where
  /-- Nothing. -/
  | off
  /-- What the driver has. -/
  | adopted
  /-- A text, which the driver takes over. -/
  | given (s : String)
  deriving Repr, DecidableEq

/-- The settings of a connection. -/
structure Settings where
  dialect : String := "mysql"
  quoteIdentifiers : Bool := false
  tablePrefix : PrefixChoice := .off
  defaultOutput : OutputShape := .object
  deriving Repr

namespace Settings

open SqlBuilder.Number

/-! ## Fields -/

/-- The words for a truth value. -/
def trueWords : List String := ["1", "on", "t", "true", "y", "yes"]

/-- The words for its opposite. -/
def falseWords : List String := ["0", "off", "f", "false", "n", "no"]

/-- What there is, or the fault that there is none. -/
def required {α : Type} (a? : Option α) : Result α :=
  match a? with
  | some a => .ok a
  | none => .error .invalidModel

/-- The truth value of a word in any case. -/
def boolOfWord? (s : String) : Option Bool :=
  let word := String.ofList (s.toList.map Char.toLower)
  if trueWords.contains word then some true
  else if falseWords.contains word then some false
  else none

/-- The truth value of the numbers 0 and 1. -/
def boolOfNumber? (x : Exact) : Option Bool :=
  if x == .ofInt 1 then some true else if x == .zero then some false else none

/-- A truth value: itself, a word, or a number that is 0 or 1. A decimal counts as the nearest
double. -/
def readBool (v : Value) : Result Bool :=
  required <| match v with
    | .text s => boolOfWord? s
    | .bytes octets => (Text.Utf8.decode? octets).bind boolOfWord?
    | .decimal numeral identity =>
      match Value.decimalDouble numeral identity with
      | .ok x => boolOfNumber? (Exact.ofDouble x)
      | .error _ => none
    | v => v.number?.bind boolOfNumber?

/-- A text, also from octets that are UTF-8 or from a member of an enumeration. -/
def readText (v : Value) : Result String :=
  required <| match v with
    | .text s => some s
    | .bytes octets => Text.Utf8.decode? octets
    | .member _ _ value _ => some value.toText
    | _ => none

/-- The magnitude that doubles for whole numbers stay below. -/
def doubleBound : Nat := Nat.pow 2 63

/-- A double that is a whole number. -/
def wholeDouble? (x : Double) : Option Int :=
  (Exact.ofDouble x).integer?.filter fun n => n.natAbs < doubleBound

/-- A whole number: an integer or its text, a number without a fraction, or a truth value. What a
member of an enumeration stands for is not looked at. -/
def readInt (v : Value) : Result Value :=
  required <| match v with
    | .bool b => some (.int (if b then 1 else 0))
    | .int n => some (.int n)
    | .text s => (readWhole? s).map .int
    | .bytes octets => ((Text.Utf8.decode? octets).bind readWhole?).map .int
    | .float x _ => (wholeDouble? x).map .int
    | .decimal numeral _ => (Value.exactDecimal numeral).integer?.map .int
    | .member _ _ value _ => some value
    | _ => none

/-- The choice of a table prefix: whatever is a text, or a truth value. -/
def readPrefix (v : Value) : Result PrefixChoice :=
  match readText v with
  | .ok s => .ok (.given s)
  | .error _ => do pure (if ← readBool v then .adopted else .off)

/-! ## Settings -/

/-- One setting. -/
def readField (s : Settings) (field : String × Value) : Result Settings :=
  match field with
  | ("dialect", v) => do
    let dialect ← readText v
    if dialect = "" then .error .invalidModel else pure { s with dialect }
  | ("quote_identifiers", v) => do pure { s with quoteIdentifiers := ← readBool v }
  | ("table_prefix", v) => do pure { s with tablePrefix := ← readPrefix v }
  | ("default_output", v) => do
    pure { s with defaultOutput := ← required (OutputShape.ofName? (← readText v)) }
  | _ => .error .invalidModel

/-- The settings from named values; what is not named keeps its default. -/
def read (fields : List (String × Value)) : Result Settings :=
  fields.foldlM readField {}

end Settings

end SqlBuilder
