import SqlBuilder.Dialect
import SqlBuilder.Number.Fixed
import SqlBuilder.Text.Cut
import SqlBuilder.Text.Utf8
import SqlBuilder.Value.Display

/-!
# Literals

How values are written into SQL when a query is shown with its bindings filled in.

* `Value.normalize` turns a value into one that a client library can bind.
* `Value.literal` writes a value as a literal, quotes inside a text doubled.
* `Dialect.literal` writes the normalised value as the dialect has it: a backslash is an escape
  inside a text of MySQL, so it is doubled there too.

Whole numbers are written here whatever their length. How many digits a number may have in a text
(`maxDigits`) is a setting of the interpreter that a program can raise or take away; it is kept
where a number becomes part of a statement that is run (`Value.written`), and left out where one is
only shown.
-/

set_option autoImplicit false

namespace SqlBuilder

open SqlBuilder.Text

/-- Places after the point of a floating-point literal. -/
def literalPlaces : Nat := 6

namespace Value

/-- The value to bind: a member of an enumeration stands for its value, and objects with a text of
their own (raw fragments included) for that text. -/
def normalize : Value → Value
  | .member _ _ value _ => value
  | .printable _ s _ => .text s
  | .raw sql _ => .text sql
  | .column c => .text (Value.column c).toText
  | v => v

/-- A literal: numbers as they are, everything else as a text in the given quoting. A member of an
enumeration is shown by its name, and without quotes if it is a number. -/
def literalWith (quoted : String → String) : Value → String
  | .null => "NULL"
  | .bool b => if b then "1" else "0"
  | .int n => intText n
  | .float x _ => x.fixed literalPlaces
  | .decimal numeral _ => numeral
  | .bytes octets => quoted (Utf8.decode octets)
  | v@(.member { mixed := true, .. } _ (.int _) _) => v.toText
  | v => quoted v.toText

end Value

/-- A text between quotes, the quotes inside it doubled. -/
def quoteText (s : String) : String :=
  String.ofList ('\'' :: doubled '\'' s.toList ++ ['\''])

namespace Value

/-- The value as a literal. -/
def literal : Value → String := literalWith quoteText

end Value

namespace Dialect

/-- A text literal of the dialect. -/
def quoteText : Dialect → String → String
  | .mysql, s => String.ofList ('\'' :: doubled '\\' (doubled '\'' s.toList) ++ ['\''])
  | .sqlite, s | .postgres, s => SqlBuilder.quoteText s

/-- The value, normalised, as a literal of the dialect. -/
def literal (d : Dialect) (v : Value) : String :=
  v.normalize.literalWith d.quoteText

end Dialect

/-! ## Examples -/

example : (Value.text "O'Brien").literal = "'O''Brien'" := by decide
example : Dialect.mysql.literal (.text "a\\'") = "'a\\\\'''" := by decide
example : Dialect.sqlite.literal (.member "E" "M" (.int 3) 0) = "3" := by decide

end SqlBuilder
