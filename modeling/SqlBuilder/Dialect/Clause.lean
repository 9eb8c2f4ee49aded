import SqlBuilder.Operation
import SqlBuilder.Statements
import SqlBuilder.Value.Case

/-!
# Clauses of the dialects

The pieces of a statement that each dialect writes in its own way. What a dialect cannot express is
a compilation fault.
-/

set_option autoImplicit false

namespace SqlBuilder.Dialect

/-- The clause that updates a row which is already there. -/
def upsertClause : String := "ON DUPLICATE KEY UPDATE"

/-- The leading words of an insert. -/
def insertVerb : Dialect → Operation → Result String
  | .postgres, .replace => .error (.compilation (.unsupported "REPLACE" .postgres))
  | .postgres, _ => .ok "INSERT"
  | .sqlite, .insertIgnore => .ok "INSERT OR IGNORE"
  | _, .insert => .ok "INSERT"
  | _, .insertIgnore => .ok "INSERT IGNORE"
  | _, .replace => .ok "REPLACE"
  | _, _ => misuse .missingKey

/-- The words after the values of an insert. -/
def insertSuffix : Dialect → Operation → String
  | .postgres, .insertIgnore => "ON CONFLICT DO NOTHING"
  | _, _ => ""

/-- The clause that updates a row which is already there, with its assignments. -/
def onDuplicate (d : Dialect) (assignments : String) : Result String :=
  match d with
  | .mysql => .ok (upsertClause ++ " " ++ assignments)
  | .sqlite | .postgres => .error (.compilation (.unsupported upsertClause d))

/-- What stands before and after a member of a union, if anything. Where it cannot be put in
parentheses, a member with an order or a limit of its own becomes a table to select from. -/
def memberFrame (d : Dialect) (s : Statements) : Option (String × String) :=
  match d with
  | .sqlite =>
    if (s.orderBys.getD []).isEmpty && s.limit.isNull && s.offset.isNull then none
    else some ("SELECT * FROM (", ")")
  | .mysql | .postgres => some ("(", ")")

/-- A member of a union. -/
def unionMember (d : Dialect) (sql : String) (s : Statements) : String :=
  match d.memberFrame s with
  | some (before, after) => before ++ sql ++ after
  | none => sql

/-- The operator between two members of a union. -/
def unionOperator (d : Dialect) (type : Value) : String :=
  match d, type with
  | .sqlite, .text "ALL" => "UNION ALL"
  | .sqlite, _ => "UNION"
  | _, type => if type.isTrue then "UNION " ++ type.toText else "UNION"

/-- The format in which a part of a date is asked for, where that takes one. -/
def dateFormat? : String → Option String
  | "YEAR" => some "%Y"
  | "MONTH" => some "%m"
  | "DAY" => some "%d"
  | _ => none

/-- The name of a part of a date in capitals. Octets are displayed. -/
def partName (v : Value) : Result String := do pure (← v.upper).toText

/-- A part of a date or time, such as `YEAR(created_at)`, of a name in capitals. -/
def datePart (d : Dialect) (part column : String) : String :=
  match d with
  | .mysql => part ++ "(" ++ column ++ ")"
  | .sqlite =>
    match dateFormat? part with
    | some format => "CAST(strftime('" ++ format ++ "', " ++ column ++ ") AS INTEGER)"
    | none => part ++ "(" ++ column ++ ")"
  | .postgres =>
    if part = "DATE" || part = "TIME" then "CAST(" ++ column ++ " AS " ++ part ++ ")"
    else "EXTRACT(" ++ part ++ " FROM " ++ column ++ ")"

/-- An expression as a date. -/
def castDate (d : Dialect) (expression : String) : String :=
  match d with
  | .sqlite => "DATE(" ++ expression ++ ")"
  | .mysql | .postgres => "CAST(" ++ expression ++ " AS DATE)"

/-- A query with one placeholder that has a row when the table of that name exists. -/
def tableExistsQuery : Dialect → String
  | .mysql => "SHOW TABLES LIKE ?"
  | .sqlite => "SELECT name FROM sqlite_master WHERE type = 'table' AND name = ?"
  | .postgres => "SELECT tablename FROM pg_catalog.pg_tables WHERE tablename = ?"

end SqlBuilder.Dialect
