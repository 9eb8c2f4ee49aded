import SqlBuilder.Operation

/-!
# Methods

What can be called in a program, by kind: on a builder, on the first connection, its driver, its
hooks and its tables, and on the standing connection. Calls that differ only in a word of SQL are
one method with that word.
-/

set_option autoImplicit false

namespace SqlBuilder

/-- How a condition is joined to those before it. -/
inductive Joiner where
  | and
  | or
  | andNot
  | orNot
  deriving Repr, DecidableEq

namespace Joiner

/-- The words of a joiner. -/
def words : Joiner → String
  | .and => "AND"
  | .or => "OR"
  | .andNot => "AND NOT"
  | .orNot => "OR NOT"

end Joiner

/-- A function over the values of a column. -/
inductive Aggregate where
  | sum
  | avg
  | min
  | max
  deriving Repr, DecidableEq

namespace Aggregate

/-- The function of an aggregate. -/
def function : Aggregate → String
  | .sum => "SUM"
  | .avg => "AVG"
  | .min => "MIN"
  | .max => "MAX"

end Aggregate

/-- What adds a condition to a builder. -/
inductive ConditionMethod where
  | compare (joiner : Joiner)
  | raw
  | among (negated : Bool) (joiner : Joiner)
  | between (negated : Bool) (joiner : Joiner)
  | dateBetween (negated : Bool)
  | isNull (negated : Bool) (joiner : Joiner)
  | like (negated : Bool)
  | startsWith
  | search
  | rowsExist
  | column
  | datePart (part : String)
  | having
  | orHaving
  | havingRaw
  deriving Repr, DecidableEq

/-- What else changes a builder or makes it run something, and gives the builder back. -/
inductive ChangeMethod where
  | setOverwrite
  | fromTables
  | aliasTable
  | select
  | selectRaw
  | selectDistinct
  | join
  | joinAs (kind : String)
  | crossJoin
  | joinUsing
  | on
  | orOn
  | onShared
  | orderBy
  | orderByDesc
  | groupBy
  | limit
  | offset
  | lock
  | onDuplicate
  | union
  | run
  deriving Repr, DecidableEq

/-- What gives a value back. -/
inductive ResultMethod where
  | isOverwrite
  | close
  | display
  | raw
  | subQuery
  | addPrefix
  | tableName
  | aliasName
  | columns
  | get
  | row
  | last
  | find
  | findAll
  | rowExists (negated : Bool)
  | value
  | pluck
  | count
  | aggregate (a : Aggregate)
  | insert (op : Operation)
  | update
  | delete
  | updateOrInsert
  | commit
  | rollback
  deriving Repr, DecidableEq

/-- What gives back another builder, a query or statements. -/
inductive ProductMethod where
  | newQuery
  | table
  | statements
  | lastQuery
  | compile
  deriving Repr, DecidableEq

/-- What can be called on a builder. -/
inductive BuilderMethod where
  | condition (m : ConditionMethod)
  | change (m : ChangeMethod)
  | result (m : ResultMethod)
  | product (m : ProductMethod)
  deriving Repr, DecidableEq

/-- What can be called on the driver of the first connection. -/
inductive DriverMethod where
  | execute
  | fetchAll
  | fetchRow
  | fetchScalar
  | fetchColumn
  | lastInsertId
  | lastErrorMessage
  | begin
  | commit
  | rollback
  | inTransaction
  | prepare
  | tablePrefix
  | setPrefix
  | close
  | handle
  deriving Repr, DecidableEq

/-- What can be called on the first connection. -/
inductive ConnectionMethod where
  | setPrefix
  | tablePrefix
  | lastQuery
  | close
  | newBuilder
  deriving Repr, DecidableEq

/-- What can be called on the hooks of the first connection, registering aside. -/
inductive HooksMethod where
  | removeListener
  | hasListener
  | fire
  | removeFilter
  | applyFilters
  | clear
  deriving Repr, DecidableEq

/-- What can be called on the tables of a connection. -/
inductive TableMethod where
  | create (ifNotExists : Bool)
  | exists
  | parts
  deriving Repr, DecidableEq

/-- What can be called on the standing connection. -/
inductive StandingMethod where
  | table
  | select
  | raw
  | run
  | schema (m : TableMethod)
  | isFirst
  | choose
  | disconnect
  deriving Repr, DecidableEq

/-- What can be called in a program. -/
inductive Method where
  | builder (m : BuilderMethod)
  | driver (m : DriverMethod)
  | connection (m : ConnectionMethod)
  | hooks (m : HooksMethod)
  | tables (m : TableMethod)
  | standing (m : StandingMethod)
  /-- A method that nothing has. -/
  | missing
  deriving Repr, DecidableEq

end SqlBuilder
