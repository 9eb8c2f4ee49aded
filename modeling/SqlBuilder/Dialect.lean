/-!
# Dialects

The dialects of SQL a query can be written in. An `Adapter` is a dialect together with the choice
whether identifiers are quoted.
-/

set_option autoImplicit false

namespace SqlBuilder

/-- A dialect of SQL. -/
inductive Dialect where
  | mysql
  | sqlite
  | postgres
  deriving Repr, DecidableEq

/-- A dialect, and whether identifiers are quoted. -/
structure Adapter where
  dialect : Dialect
  quoteIdentifiers : Bool := false
  deriving Repr, DecidableEq

namespace Dialect

/-- The name of a dialect. -/
def name : Dialect → String
  | .mysql => "mysql"
  | .sqlite => "sqlite"
  | .postgres => "postgres"

/-- Every dialect. -/
def all : List Dialect := [.mysql, .sqlite, .postgres]

/-- The character an identifier is quoted with. -/
def identifierQuote : Dialect → Char
  | .mysql => '`'
  | .sqlite | .postgres => '"'

/-- What is written after an automatically numbered column. -/
def autoIncrement : Dialect → String
  | .mysql => "AUTO_INCREMENT"
  | .sqlite => "PRIMARY KEY AUTOINCREMENT"
  | .postgres => "GENERATED BY DEFAULT AS IDENTITY"

/-- The automatic numbering declares the primary key by itself. -/
def autoIncrementIsKey : Dialect → Bool
  | .sqlite => true
  | .mysql | .postgres => false

/-- Indexes are part of the table definition. -/
def inlineIndexes : Dialect → Bool
  | .mysql => true
  | .sqlite | .postgres => false

end Dialect

end SqlBuilder
