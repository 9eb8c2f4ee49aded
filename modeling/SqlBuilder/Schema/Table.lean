import SqlBuilder.Schema.Column

/-!
# Table definitions

`tableParts` writes the columns of a table with the constraints they ask for: one primary key over
all its columns, a `UNIQUE` clause for each unique column, and an index for each indexed one, inside
the definition or as a statement of its own. A line of a definition may also be a text that is taken
as it is.
-/

set_option autoImplicit false

namespace SqlBuilder.Schema

/-- The definitions of a table and the statements to run after it is created. -/
structure Parts where
  definitions : List String
  statements : List String
  deriving Repr

/-- The words that let a statement pass when what it creates is there already. -/
def guard (ifNotExists : Bool) : String := if ifNotExists then "IF NOT EXISTS " else ""

/-- The name of a table in quotes. Octets and moments have replacements of their own, which do not
fit a text. -/
def quoteName (d : Dialect) : Value → Result String
  | .text s => .ok (d.quoteIdentifier s)
  | .bytes _ | .moment _ _ => misuse .wrongType
  | _ => misuse .missingAttribute

/-- A line of a table definition. -/
def lineSql (d : Dialect) : Value → Result String
  | .text sql => .ok sql
  | .column c => c.toSql d
  | _ => misuse .missingAttribute

/-- The columns a primary-key clause lists: those that are not declared a key on their own. -/
def keyColumns (d : Dialect) (columns : List Column) : List Column :=
  columns.filter fun c => c.primaryKey && !(d.autoIncrementIsKey && c.autoIncrement)

/-- The columns with a constraint of their own, primary-key columns aside. -/
def plainColumns (columns : List Column) : List Column :=
  columns.filter fun c => !c.primaryKey

/-- The statement that creates an index on a column. -/
def indexStatement (d : Dialect) (table : Value) (ifNotExists : Bool) (c : Column) :
    Result String := do
  let name := d.quoteIdentifier (table.toText ++ "_" ++ c.name ++ "_index")
  pure ("CREATE INDEX " ++ guard ifNotExists ++ name ++ " ON " ++ (← quoteName d table) ++
    " (" ++ d.quoteIdentifier c.name ++ ")")

/-- The parts of a table definition. -/
def tableParts (d : Dialect) (table : Value) (items : List Value) (ifNotExists : Bool) :
    Result Parts := do
  let lines ← items.mapM (lineSql d)
  let columns := items.filterMap Value.column?
  let quote (c : Column) := d.quoteIdentifier c.name
  let primary := match keyColumns d columns with
    | [] => []
    | keys => ["PRIMARY KEY (" ++ ", ".intercalate (keys.map quote) ++ ")"]
  let plain := plainColumns columns
  let uniques := (plain.filter (·.unique)).map fun c => "UNIQUE (" ++ quote c ++ ")"
  let indexed := plain.filter (·.index)
  if d.inlineIndexes then
    pure ⟨lines ++ primary ++ uniques ++ indexed.map fun c => "INDEX (" ++ quote c ++ ")", []⟩
  else
    pure ⟨lines ++ primary ++ uniques, ← indexed.mapM (indexStatement d table ifNotExists)⟩

/-- The statement that creates a table. -/
def createStatement (d : Dialect) (table : Value) (ifNotExists : Bool) (parts : Parts) :
    Result String := do
  pure ("CREATE TABLE " ++ guard ifNotExists ++ (← quoteName d table) ++
    " (" ++ ", ".intercalate parts.definitions ++ ")")

end SqlBuilder.Schema
