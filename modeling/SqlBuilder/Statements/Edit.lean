import SqlBuilder.Statements.Equality
import SqlBuilder.Statements.Listing

/-!
# Editing statements

How clauses are added. In overwrite mode (`overwrite`) a clause first takes the place of the one
about the same thing: a selection of the whole list, a condition of the first with the same key, an
ordering of the first with the same field, a join of the first with the same table. Nothing can be
added where the comparison with those that are there is invalid, nor to a value that does not grow.
-/

set_option autoImplicit false

namespace SqlBuilder

/-- The list a condition goes to. -/
inductive ConditionList where
  | wheres
  | havings
  /-- The conditions of a group or of a join. -/
  | criteria
  deriving Repr, DecidableEq

namespace Statements

/-- The list without its first entry that meets a test, in overwrite mode. -/
def replaced? {α : Type} (overwrite : Bool) (test : α → Option Bool) (xs : List α) :
    Option (List α) :=
  if overwrite then eraseFirst? test xs else some xs

/-- A selection after another, or in its place. -/
def selection (overwrite : Bool) (old : Value) (items : List Value) : Result Value :=
  if overwrite || old.isNull then .ok (.list items) else old.extended items

/-! ## Tables and columns -/

/-- More tables. -/
def addTables (s : Statements) (tables : List Value) : Result Statements := do
  pure { s with tables := ← selection false s.tables tables }

/-- No tables. -/
def clearTables (s : Statements) : Statements := { s with tables := .null }

/-- Aliases, even if there are none yet. -/
def openAliases (s : Statements) : Statements :=
  if s.aliases.isNull then { s with aliases := .map [] } else s

/-- An alias for a table. -/
def addAlias (s : Statements) (table name : Value) : Result Statements := do
  pure { s with aliases := ← s.aliases.assigned table name }

/-- More selected expressions. -/
def addSelects (s : Statements) (overwrite : Bool) (items : List Value) : Result Statements := do
  pure { s with selects := ← selection overwrite s.selects items }

/-- More distinct expressions. -/
def addDistincts (s : Statements) (overwrite : Bool) (items : List Value) :
    Result Statements := do
  pure { s with distincts := ← selection overwrite s.distincts items }

/-! ## Conditions and joins -/

/-- A list of conditions. -/
def conditions (s : Statements) : ConditionList → Option (List Condition)
  | .wheres => s.wheres
  | .havings => s.havings
  | .criteria => s.criteria

/-- The statements with a list of conditions. -/
def setConditions (s : Statements) (list : ConditionList) (cs : List Condition) : Statements :=
  match list with
  | .wheres => { s with wheres := some cs }
  | .havings => { s with havings := some cs }
  | .criteria => { s with criteria := some cs }

/-- One more condition. -/
def addCondition? (s : Statements) (list : ConditionList) (overwrite : Bool) (c : Condition) :
    Option Statements := do
  let old ← replaced? overwrite (·.isAbout? c.key) ((s.conditions list).getD [])
  some (s.setConditions list (old ++ [c]))

/-- Room for a join with a table. -/
def openJoins? (s : Statements) (overwrite : Bool) (table : Value) : Option Statements := do
  let old ← replaced? overwrite (·.table.equal? table) (s.joins.getD [])
  some { s with joins := some old }

/-- One more join. -/
def addJoin? (s : Statements) (overwrite : Bool) (entry : JoinEntry) : Option Statements := do
  let s ← s.openJoins? overwrite entry.table
  some { s with joins := some (s.joins.getD [] ++ [entry]) }

/-! ## Ordering, grouping, paging -/

/-- One more field to order by. -/
def addOrder? (s : Statements) (overwrite : Bool) (entry : OrderEntry) : Option Statements := do
  let old ← replaced? overwrite (·.field.equal? entry.field) (s.orderBys.getD [])
  some { s with orderBys := some (old ++ [entry]) }

/-- Groupings start afresh in overwrite mode. -/
def openGroups (s : Statements) (overwrite : Bool) : Statements :=
  if overwrite then { s with groupBys := .list [] } else s

/-- More fields to group by. -/
def addGroups (s : Statements) (fields : List Value) : Result Statements := do
  pure { s with groupBys := ← s.groupBys.extended fields }

/-! ## Unions -/

/-- A union with a copy of other statements, whose own unions become unions of these. -/
def addUnion (s other : Statements) (type : Value) : Result Statements := do
  let member ← other.copied
  match s.unions with
  | some members =>
    let moved := member.unions.getD []
    pure { s with
      unions := some (members ++ moved ++
        [{ statements := { member with unions := some [] }, type }]) }
  | none => misuse .missingAttribute

end Statements

end SqlBuilder
