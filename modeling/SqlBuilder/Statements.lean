import SqlBuilder.Value

/-!
# Statements

What a builder has collected, clause by clause, independent of any dialect. A clause that was never
touched is none (or `null`, where it is a value), so that an absent clause differs from an empty
one; groupings and unions are lists from the start.

* `Condition` is an entry of a `WHERE`, `HAVING` or `ON` list; its key may be a whole nested group.
* `JoinEntry` and `OrderEntry` are the entries of the other lists.
* `Statements` holds the clauses; a `UnionEntry` holds the statements of a member of a union.

A builder collects expressions, tables and groupings in lists and aliases in a map. Statements that
are given to it as a whole may have another value there, which is kept and taken for what it is:
what `null` or an empty text lists is nothing, a text lists its characters, and a tuple lists its
items but cannot grow.
-/

set_option autoImplicit false

namespace SqlBuilder

/-- A condition without a word in front of the list or columns of its own. -/
def Condition.plain (key operator value joiner : Value) : Condition :=
  ⟨key, operator, value, joiner, .null, []⟩

/-- A join: its kind, the table (a pair of table and alias, a raw fragment or a name) and its
conditions. -/
structure JoinEntry where
  kind : Value
  table : Value
  criteria : List Condition := []
  deriving Repr, Inhabited

/-- A field to order by. -/
structure OrderEntry where
  field : Value
  direction : Value := .text "ASC"
  deriving Repr, Inhabited

mutual

/-- The clauses of a query. -/
structure Statements where
  selects : Value := .null
  distincts : Value := .null
  tables : Value := .null
  aliases : Value := .null
  wheres : Option (List Condition) := none
  havings : Option (List Condition) := none
  criteria : Option (List Condition) := none
  joins : Option (List JoinEntry) := none
  groupBys : Value := .list []
  orderBys : Option (List OrderEntry) := none
  unions : Option (List UnionEntry) := some []
  limit : Value := .null
  offset : Value := .null
  lock : Value := .null
  onDuplicate : Value := .null
  deriving Repr

/-- A member of a union and how it is joined: `ALL`, `DISTINCT` or nothing. -/
structure UnionEntry where
  statements : Statements
  type : Value := .text ""
  /-- Tells the member's statements apart from all others, once there is anything in it. -/
  identity : List Nat := []
  deriving Repr

end

instance : Inhabited Statements :=
  ⟨⟨.null, .null, .null, .null, none, none, none, none, .list [], none, some [], .null, .null,
    .null, .null⟩⟩

namespace Statements

/-- No clause at all. -/
def empty : Statements := default

end Statements

end SqlBuilder
