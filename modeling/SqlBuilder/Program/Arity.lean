import SqlBuilder.Program.Method

/-!
# Numbers of arguments

An `Arity` is the least and the greatest number of arguments of a call, and `Method.arity` the one
of each method: how many arguments it needs, and how many of them besides have a default.
-/

set_option autoImplicit false

namespace SqlBuilder

/-- How many arguments a call takes: the least number, and the greatest if there is one. -/
structure Arity where
  least : Nat
  most : Option Nat
  deriving Repr, DecidableEq

namespace Arity

/-- A fixed number of arguments. -/
def exactly (n : Nat) : Arity := ⟨n, some n⟩

/-- Arguments of which the last ones may be left out. -/
def between (least most : Nat) : Arity := ⟨least, some most⟩

/-- So many arguments or more. -/
def atLeast (n : Nat) : Arity := ⟨n, none⟩

/-- The number of arguments is right. -/
def allows (a : Arity) (n : Nat) : Bool :=
  a.least ≤ n && a.most.all (n ≤ ·)

end Arity

/-! ## Arities of methods -/

/-- The arguments of a condition. -/
def ConditionMethod.arity : ConditionMethod → Arity
  | .compare _ | .column | .orHaving => .between 1 3
  | .raw | .search | .havingRaw => .between 1 2
  | .among _ _ | .like _ | .startsWith => .exactly 2
  | .between _ _ | .dateBetween _ => .exactly 3
  | .isNull _ _ | .rowsExist => .exactly 1
  | .datePart _ => .between 2 3
  | .having => .between 1 4

/-- The arguments of a change. -/
def ChangeMethod.arity : ChangeMethod → Arity
  | .setOverwrite => .between 0 1
  | .fromTables | .select | .selectDistinct | .groupBy => .atLeast 0
  | .aliasTable | .selectRaw | .orderBy | .union | .run => .between 1 2
  | .join => .between 1 5
  | .joinAs _ => .between 2 4
  | .crossJoin | .onShared | .orderByDesc | .limit | .offset | .lock | .onDuplicate => .exactly 1
  | .joinUsing => .between 2 3
  | .on => .between 1 4
  | .orOn => .between 1 3

/-- The arguments of a method that gives a value back. -/
def ResultMethod.arity : ResultMethod → Arity
  | .isOverwrite | .close | .tableName | .aliasName | .columns | .rowExists _ | .commit
  | .rollback => .exactly 0
  | .display | .subQuery | .addPrefix | .find => .between 1 2
  | .raw => .atLeast 1
  | .get | .row | .count | .delete => .between 0 1
  | .last => .between 0 2
  | .findAll => .exactly 2
  | .value | .pluck | .aggregate _ | .insert _ | .update | .updateOrInsert => .exactly 1

/-- The arguments of a method that gives back another builder, a query or statements. -/
def ProductMethod.arity : ProductMethod → Arity
  | .newQuery | .statements | .lastQuery => .exactly 0
  | .table | .compile => .atLeast 0

/-- The arguments of a builder's method. -/
def BuilderMethod.arity : BuilderMethod → Arity
  | .condition m => m.arity
  | .change m => m.arity
  | .result m => m.arity
  | .product m => m.arity

/-- The arguments of a driver's method. -/
def DriverMethod.arity : DriverMethod → Arity
  | .execute | .fetchAll | .fetchRow | .fetchScalar | .fetchColumn => .between 1 2
  | .prepare => .atLeast 1
  | .setPrefix => .exactly 1
  | .handle => .atLeast 0
  | .lastInsertId | .lastErrorMessage | .begin | .commit | .rollback | .inTransaction
  | .tablePrefix | .close => .exactly 0

/-- The arguments of a method of tables. -/
def TableMethod.arity : TableMethod → Arity
  | .create _ | .parts => .between 2 3
  | .exists => .exactly 1

/-- The arguments of a method of the standing connection. -/
def StandingMethod.arity : StandingMethod → Arity
  | .table | .select | .isFirst | .choose | .disconnect => .atLeast 0
  | .raw => .atLeast 1
  | .run => .between 1 2
  | .schema m => m.arity

/-- The arguments of a call. Connections and hooks overlook what they are given too many. -/
def Method.arity : Method → Arity
  | .builder m => m.arity
  | .driver m => m.arity
  | .connection _ | .hooks _ | .missing => .atLeast 0
  | .tables m => m.arity
  | .standing m => m.arity

/-! ## Laws -/

/-- A fixed number of arguments allows just that number. -/
theorem Arity.allows_exactly (n m : Nat) : (Arity.exactly n).allows m = true ↔ m = n := by
  constructor
  · intro h
    obtain ⟨least, most⟩ := (Bool.and_eq_true _ _).mp h
    exact Nat.le_antisymm (of_decide_eq_true most) (of_decide_eq_true least)
  · rintro rfl
    simp [allows, exactly]

end SqlBuilder
