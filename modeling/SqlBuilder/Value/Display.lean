import SqlBuilder.Number.Shortest
import SqlBuilder.Text.Quoted
import SqlBuilder.Value

/-!
# Values as text

`Value.toText` is the text a value stands for when it is written into SQL or into a message, and
`Value.display` is the form in which its kind can be told: texts are quoted, and what a value is
made of is displayed in turn.
-/

set_option autoImplicit false

namespace SqlBuilder.Value

open SqlBuilder.Number SqlBuilder.Text

/-- The decimal digits of an integer. -/
def intText (n : Int) : String :=
  if n < 0 then "-" ++ n.natAbs.repr else n.natAbs.repr

/-- A truth value by its name. -/
def boolText (b : Bool) : String := if b then "True" else "False"

/-- The items of a tuple between parentheses; a single item is followed by a comma. -/
def displayTuple (items : List String) : String :=
  match items with
  | [item] => "(" ++ item ++ ",)"
  | items => "(" ++ ", ".intercalate items ++ ")"

mutual

/-- The form that shows what kind of value it is. -/
def display : Value → String
  | .null => "None"
  | .bool b => boolText b
  | .int n => intText n
  | .float x _ => x.text
  | .text s => Text.display s
  | .decimal numeral _ => "Decimal(" ++ Text.display numeral ++ ")"
  | .bytes octets => displayOctets octets
  | .moment kind s => (Moment.read kind s).display
  | .list xs => "[" ++ ", ".intercalate (displayAll xs) ++ "]"
  | .tuple xs => displayTuple (displayAll xs)
  | .map entries => "\x7b" ++ ", ".intercalate (displayEntries entries) ++ "\x7d"
  | .raw sql bindings =>
    "Raw(" ++ Text.display sql ++ ", [" ++ ", ".intercalate (displayAll bindings) ++ "])"
  | .member enumeration name value _ =>
    "<" ++ enumeration.name ++ "." ++ name ++ ": " ++ display value ++ ">"
  | .printable className _ _ => "<" ++ className ++ ">"
  | .sealed _ shown _ => shown
  | .record kind fields =>
    kind.label ++ "(" ++ ", ".intercalate (displayFields fields) ++ ")"
  | .aliased expression name =>
    "Aliased(expr=" ++ display expression ++ ", alias=" ++ display name ++ ")"
  | .group conditions =>
    "NestedGroup(conditions=" ++ displayTuple (displayConditions conditions) ++ ")"
  | .column c => "Column(" ++ ", ".intercalate (displayColumn c) ++ ")"
  | .builder _ kind => "<" ++ kind.name ++ ">"

/-- The displays of the items. -/
def displayAll : List Value → List String
  | [] => []
  | v :: vs => display v :: displayAll vs

/-- The displays of the entries of a map. -/
def displayEntries : List (Value × Value) → List String
  | [] => []
  | (k, v) :: rest => (display k ++ ": " ++ display v) :: displayEntries rest

/-- The fields of an object: names as they are, values displayed. -/
def displayFields : List (Value × Value) → List String
  | [] => []
  | (.text k, v) :: rest => (k ++ "=" ++ display v) :: displayFields rest
  | (k, v) :: rest => (display k ++ "=" ++ display v) :: displayFields rest

/-- The display of a condition. -/
def displayCondition : Condition → String
  | ⟨key, operator, value, joiner, leading, columns⟩ =>
    "Condition(key=" ++ display key ++ ", operator=" ++ display operator ++
      ", value=" ++ display value ++ ", joiner=" ++ display joiner ++
      ", condition=" ++ display leading ++ ", columns=" ++ displayTuple (displayAll columns) ++ ")"

/-- The displays of the conditions. -/
def displayConditions : List Condition → List String
  | [] => []
  | c :: cs => displayCondition c :: displayConditions cs

/-- The parts of a column, each with its name. -/
def displayColumn : Column → List String
  | ⟨name, type, length, nullable, primaryKey, unique, index, autoIncrement, attributes,
      collation⟩ =>
    ["name=" ++ Text.display name, "type=" ++ Text.display type, "length=" ++ display length,
     "nullable=" ++ boolText nullable, "primary_key=" ++ boolText primaryKey,
     "unique=" ++ boolText unique, "index=" ++ boolText index,
     "auto_increment=" ++ boolText autoIncrement, "attributes=" ++ display attributes,
     "collation=" ++ display collation]

end

/-- The text a value stands for. -/
def toText : Value → String
  | .text s => s
  | .decimal numeral _ => numeral
  | .moment _ s => s
  | .raw sql _ => sql
  | .member enumeration name _ _ => enumeration.name ++ "." ++ name
  | .printable _ s _ => s
  | .column c => " ".intercalate (displayColumn c)
  | v => v.display

/-! ## Examples -/

example : Value.toText .null = "None" := by decide
example : (Value.list [.int 1, .text "x"]).toText = "[1, 'x']" := by decide
example : (Value.raw "a = ?" [.int 5]).display = "Raw('a = ?', [5])" := by decide
example : (Value.aliased (.text "a") (.text "b")).toText = "Aliased(expr='a', alias='b')" := by
  decide

end SqlBuilder.Value
