import SqlBuilder.Identifier
import SqlBuilder.Settings
import SqlBuilder.Value.Case

/-!
# Columns

A column of a table to be created. `Column.read` checks its parts; types of variable length must
come with one. `Column.modify` returns a column with more said about it, which is not checked again,
and `Column.toSql` writes its definition.
-/

set_option autoImplicit false

namespace SqlBuilder.Column

/-- The types that have a character set. -/
def textTypes : List String := ["CHAR", "VARCHAR", "TINYTEXT", "TEXT", "MEDIUMTEXT", "LONGTEXT"]

/-- The types that must be declared with a length. -/
def variableLengthTypes : List String := ["VARCHAR", "VARBINARY", "BINARY", "TEXT"]

/-! ## Reading -/

/-- A part that may be missing. -/
def readOptional (read : Value → Result Value) (v : Value) : Result Value :=
  if v.isNull then .ok .null else read v

/-- One of the parts of a column. -/
def readField (c : Column) (field : String × Value) : Result Column :=
  match field with
  | ("name", v) => do pure { c with name := ← Settings.readText v }
  | ("type", v) => do pure { c with type := Text.upper (← Settings.readText v) }
  | ("length", v) => do pure { c with length := ← readOptional Settings.readInt v }
  | ("nullable", v) => do pure { c with nullable := ← Settings.readBool v }
  | ("primary_key", v) => do pure { c with primaryKey := ← Settings.readBool v }
  | ("unique", v) => do pure { c with unique := ← Settings.readBool v }
  | ("index", v) => do pure { c with index := ← Settings.readBool v }
  | ("auto_increment", v) => do pure { c with autoIncrement := ← Settings.readBool v }
  | ("attributes", v) => do pure { c with attributes := ← readOptional readAsText v }
  | ("collation", v) => do pure { c with collation := ← readOptional readAsText v }
  | _ => .error .invalidModel
where
  /-- A text as a value. -/
  readAsText (v : Value) : Result Value := do pure (.text (← Settings.readText v))

/-- The parts that are given in order. -/
def partNames : List String := ["name", "type", "length"]

/-- The parts of a column by name: those in order first, then the others. A part must not be given
twice, and name and type must be given. -/
def namedParts (parts : List Value) (fields : List (String × Value)) :
    Result (List (String × Value)) :=
  let ordered := partNames.zip parts
  let names := ordered.map Prod.fst ++ fields.map Prod.fst
  if partNames.length < parts.length || fields.any (fun (name, _) =>
      name == "self" || (ordered.lookup name).isSome) ||
      !(names.contains "name" && names.contains "type") then misuse .wrongType
  else .ok (ordered ++ fields)

/-- A column from its name, type and length in order and further parts by name. -/
def read (parts : List Value) (fields : List (String × Value)) : Result Column := do
  let c ← (← namedParts parts fields).foldlM readField (plain "" "")
  if c.length.isNull && variableLengthTypes.contains c.type then
    throw (.validation (.missingLength c.type c.name))
  pure c

/-! ## Modifiers -/

/-- What can be said about a column after it is defined. -/
inductive Modifier where
  | withAttributes
  | unsigned
  | unsignedZeroFill
  | binary
  | onUpdateCurrentTimestamp
  | collate
  | allowNull
  | withAutoIncrement
  | asUnique
  | asIndex
  | asPrimaryKey
  /-- A modifier that columns do not have. -/
  | missing
  deriving Repr, DecidableEq

/-- The column with a modifier and what it is given. -/
def modify (c : Column) (m : Modifier) (args : List Value) : Result Column :=
  match m, args with
  | .withAttributes, [attributes] => .ok { c with attributes }
  | .unsigned, [] => .ok { c with attributes := .text "UNSIGNED" }
  | .unsignedZeroFill, [] => .ok { c with attributes := .text "UNSIGNED ZEROFILL" }
  | .binary, [] => .ok { c with attributes := .text "BINARY" }
  | .onUpdateCurrentTimestamp, [] =>
    .ok { c with attributes := .text "ON UPDATE CURRENT_TIMESTAMP" }
  | .collate, [collation] => .ok { c with collation }
  | .allowNull, [] => .ok { c with nullable := true }
  | .withAutoIncrement, [] => .ok { c with autoIncrement := true }
  | .asUnique, [] => .ok { c with unique := true }
  | .asIndex, [] => .ok { c with index := true }
  | .asPrimaryKey, [] => .ok { c with primaryKey := true }
  | .missing, _ => misuse .missingAttribute
  | _, _ => misuse .wrongType

/-! ## Writing -/

/-- The attributes of a column, in capitals. -/
def attributesSql (c : Column) : Result String :=
  if !c.attributes.isTrue then .ok ""
  else do pure (" " ++ (← c.attributes.upper).toText)

/-- The character set of a collation: what stands before its first underscore. -/
def charset (collation : String) : String :=
  match Text.cut ['_'] collation.toList with
  | some (front, _) => String.ofList front
  | none => collation

/-- The character set and the collation of a text column. Octets are not split at a text. -/
def collationSql (c : Column) : Result String :=
  if !(c.collation.isTrue && textTypes.contains c.type) then .ok ""
  else match c.collation with
    | .text s => .ok (" CHARACTER SET " ++ charset s ++ " COLLATE " ++ s)
    | .bytes _ => misuse .wrongType
    | _ => misuse .missingAttribute

/-- The length of a column in parentheses. -/
def lengthSql (c : Column) : Result String :=
  if c.length.isNull then .ok "" else do pure ("(" ++ (← c.length.written) ++ ")")

/-- The definition of a column. -/
def toSql (c : Column) (d : Dialect) : Result String := do
  let length ← c.lengthSql
  let attributes ← c.attributesSql
  let collation ← c.collationSql
  pure (d.quoteIdentifier c.name ++ " " ++ c.type ++ length ++ attributes ++ collation ++
    (if c.nullable then " NULL" else " NOT NULL") ++
    (if c.autoIncrement then " " ++ d.autoIncrement else ""))

end SqlBuilder.Column
