import SqlBuilder.Moment
import SqlBuilder.Number.Double

/-!
# Values

A query is built from data of many kinds: what is bound to a placeholder, what names a column or a
table, what a row of a result holds. `Value` is the type of all of them. The pieces of a query are
values too: a raw fragment (SQL that is written as it is, with bindings of its own), an expression
with an alias, a group of conditions, and the definition of a column.

The class of the members of an enumeration may be one of texts or of whole numbers as well
(`Enumeration.mixed`). A member of it can be bound as the text or number it is
(`Placeholder.isBindable`), and is then shown by its name if nothing has normalised it
(`Value.literal`). Nothing else depends on the kind of class: as a name, a key or an operator such a
member is treated like any other.

Most values are equal when their parts are. Of a few only the object itself is: objects of foreign
classes, members of enumerations, and numbers that are not a number. These carry a number
(`identity`) that tells one object from another.
-/

set_option autoImplicit false

namespace SqlBuilder

/-- What a builder collects: a query, the statements of an open transaction, the conditions of a
nested group, or those of a join. -/
inductive BuilderKind where
  | query
  | transaction
  | criteria
  | join
  deriving Repr, DecidableEq

/-- What an object with named fields stands for: a row of a result, the statements of a builder, or
an entry of one of their lists. -/
inductive RecordKind where
  | row
  | statements
  | condition
  | join
  | ordering
  | union
  deriving Repr, DecidableEq

/-- The class of the members of an enumeration. -/
structure Enumeration where
  name : String
  /-- The members that stand for a text or a whole number are this text or number themselves. -/
  mixed : Bool := false
  deriving Repr, DecidableEq

/-- A class that is nothing but an enumeration. -/
instance : Coe String Enumeration := ⟨fun name => { name }⟩

mutual

/-- A value given to a builder or found in a result. -/
inductive Value where
  | null
  | bool (b : Bool)
  | int (n : Int)
  | float (x : Number.Double) (identity : Nat)
  | text (s : String)
  /-- A decimal number, by its numeral. -/
  | decimal (numeral : String) (identity : Nat)
  | bytes (octets : List UInt8)
  /-- A date, a time or both, by its text. -/
  | moment (kind : MomentKind) (text : String)
  | list (items : List Value)
  | tuple (items : List Value)
  /-- Keys and values in the order of insertion. -/
  | map (entries : List (Value × Value))
  /-- A verbatim SQL fragment with its own bindings. -/
  | raw (sql : String) (bindings : List Value)
  /-- A member of an enumeration and the value it stands for. -/
  | member (enumeration : Enumeration) (name : String) (value : Value) (identity : Nat)
  /-- An object with a text of its own. -/
  | printable (className text : String) (identity : Nat)
  /-- An object without one; `display` is how it is shown. -/
  | sealed (className display : String) (identity : Nat)
  /-- An object with named fields, such as a row. -/
  | record (kind : RecordKind) (fields : List (Value × Value))
  /-- An expression with an alias. -/
  | aliased (expression name : Value)
  /-- Conditions in parentheses. -/
  | group (conditions : List Condition)
  /-- The definition of a column. -/
  | column (c : Column)
  /-- A builder, by its number in the session. -/
  | builder (id : Nat) (kind : BuilderKind)
  deriving Repr

/-- An entry of a list of conditions. -/
structure Condition where
  /-- A name, a raw fragment or a whole group. -/
  key : Value
  /-- The comparison, `null` for a bare raw condition or a group. -/
  operator : Value
  value : Value
  /-- `AND`, `OR`, `AND NOT`, `OR NOT` or `AND USING`. -/
  joiner : Value
  /-- A word in front of the list, `ON` in a join, or `null`. -/
  leading : Value
  /-- The columns of a `USING` condition. -/
  columns : List Value
  deriving Repr

/-- The definition of a column. -/
structure Column where
  name : String
  /-- The SQL type, in capitals. -/
  type : String
  /-- The length or display width, or `null`. -/
  length : Value
  nullable : Bool
  primaryKey : Bool
  unique : Bool
  index : Bool
  autoIncrement : Bool
  attributes : Value
  collation : Value
  deriving Repr

end

instance : Inhabited Value := ⟨.null⟩

instance : Inhabited Condition := ⟨⟨.null, .null, .null, .null, .null, []⟩⟩

instance : Inhabited Column :=
  ⟨⟨"", "", .null, false, false, false, false, false, .null, .null⟩⟩

namespace BuilderKind

/-- The name of a kind of builder. -/
def name : BuilderKind → String
  | .query => "QueryBuilder"
  | .transaction => "Transaction"
  | .criteria => "NestedCriteria"
  | .join => "JoinBuilder"

end BuilderKind

namespace RecordKind

/-- The name of a kind of object. -/
def name : RecordKind → String
  | .row => "SimpleNamespace"
  | .statements => "Statements"
  | .condition => "Condition"
  | .join => "JoinEntry"
  | .ordering => "OrderByEntry"
  | .union => "UnionEntry"

/-- What is displayed in front of the fields. -/
def label : RecordKind → String
  | .row => "namespace"
  | kind => kind.name

/-- The fields in order, each with its value where none is given; a row has no fixed ones. -/
def fields : RecordKind → List (String × Value)
  | .row => []
  | .statements =>
    [("selects", .null), ("distincts", .null), ("tables", .null), ("aliases", .null),
     ("wheres", .null), ("havings", .null), ("criteria", .null), ("joins", .null),
     ("group_bys", .list []), ("order_bys", .null), ("unions", .list []), ("limit", .null),
     ("offset", .null), ("lock", .null), ("on_duplicate", .null)]
  | .condition =>
    [("key", .null), ("operator", .null), ("value", .null), ("joiner", .text "AND"),
     ("condition", .null), ("columns", .tuple [])]
  | .join => [("type", .text ""), ("table", .null), ("criteria", .tuple [])]
  | .ordering => [("field", .null), ("direction", .text "ASC")]
  | .union => [("statements", .null), ("type", .text "")]

end RecordKind

namespace Column

/-- A column of a name and a type, and nothing else said about it. -/
def plain (name type : String) : Column := { (default : Column) with name, type }

/-- The parts of a column with their names, in order. -/
def fields (c : Column) : List (String × Value) :=
  [("name", .text c.name), ("type", .text c.type), ("length", c.length),
   ("nullable", .bool c.nullable), ("primary_key", .bool c.primaryKey),
   ("unique", .bool c.unique), ("index", .bool c.index),
   ("auto_increment", .bool c.autoIncrement), ("attributes", c.attributes),
   ("collation", c.collation)]

end Column

namespace Value

/-- A floating-point number that was computed here. -/
def double (x : Number.Double) : Value := .float x 0

/-- A point in time, from its text. -/
def ofMoment (kind : MomentKind) (text : String) : Value :=
  .moment kind (Moment.read kind text).text

/-- A function, where a value is expected. -/
def function (identity : Nat) : Value := .sealed "function" "<function>" identity

/-- The value as an object of its own, if its kind tells objects apart. -/
def identified (identity : Nat) : Value → Value
  | .float x _ => .float x identity
  | .decimal numeral _ => .decimal numeral identity
  | .member enumeration name value _ => .member enumeration name value identity
  | .printable className s _ => .printable className s identity
  | .sealed className display _ => .sealed className display identity
  | v => v

/-- The name of a value's type, as error messages give it. -/
def typeName : Value → String
  | .null => "NoneType"
  | .bool _ => "bool"
  | .int _ => "int"
  | .float _ _ => "float"
  | .text _ => "str"
  | .decimal _ _ => "Decimal"
  | .bytes _ => "bytes"
  | .moment .date _ => "date"
  | .moment .dateTime _ => "datetime"
  | .moment .time _ => "time"
  | .list _ => "list"
  | .tuple _ => "tuple"
  | .map _ => "dict"
  | .raw _ _ => "Raw"
  | .member enumeration _ _ _ => enumeration.name
  | .printable className _ _ => className
  | .sealed className _ _ => className
  | .record kind _ => kind.name
  | .aliased _ _ => "Aliased"
  | .group _ => "NestedGroup"
  | .column _ => "Column"
  | .builder _ kind => kind.name

/-- A value of a kind that client libraries know. -/
def isBasic : Value → Bool
  | .null | .bool _ | .int _ | .float _ _ | .text _ | .decimal _ _ | .bytes _ | .moment _ _ => true
  | _ => false

/-- A raw fragment. -/
def isRaw : Value → Bool
  | .raw _ _ => true
  | _ => false

/-- A text. -/
def isText : Value → Bool
  | .text _ => true
  | _ => false

/-- No value. -/
def isNull : Value → Bool
  | .null => true
  | _ => false

/-- The text itself, of a text. -/
def text? : Value → Option String
  | .text s => some s
  | _ => none

/-- The items of a list or a tuple. -/
def items? : Value → Option (List Value)
  | .list xs | .tuple xs => some xs
  | _ => none

/-- The entries of a map. -/
def entries? : Value → Option (List (Value × Value))
  | .map entries => some entries
  | _ => none

/-- The definition itself, of a column. -/
def column? : Value → Option Column
  | .column c => some c
  | _ => none

/-- What a loop over a value meets: items, characters, octets, keys, or the parts of a column with
their names; none if it cannot be looped over. -/
def elements? : Value → Option (List Value)
  | .list xs | .tuple xs => some xs
  | .map entries => some (entries.map Prod.fst)
  | .text s => some (s.toList.map fun c => .text (String.ofList [c]))
  | .bytes octets => some (octets.map fun o => .int o.toNat)
  | .column c => some (c.fields.map fun (name, v) => .tuple [.text name, v])
  | _ => none

/-- A raw fragment from a text and what is given as its bindings: what a loop over it meets, but a
text, octets and anything that cannot be looped over are a single binding. -/
def ofRaw (sql : String) (bindings : Value) : Value :=
  match bindings with
  | .text _ | .bytes _ => .raw sql [bindings]
  | v => .raw sql (v.elements?.getD [v])

/-- An object of a kind that has fixed fields, from the values of some of them; none if another
field is given. -/
def ofFields? (kind : RecordKind) (given : List (String × Value)) : Option Value :=
  if given.all fun (name, _) => (kind.fields.map Prod.fst).contains name then
    some (.record kind (kind.fields.map fun (name, v) =>
      (.text name, (given.lookup name).getD v)))
  else none

end Value

end SqlBuilder
