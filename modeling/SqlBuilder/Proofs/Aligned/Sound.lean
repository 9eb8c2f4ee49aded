import Mathlib.Algebra.GroupWithZero.Nat
import SqlBuilder.Proofs.Aligned.Fragment
import SqlBuilder.Proofs.Related.Statement

/-!
# Sound requests

What a request must keep to for its placeholders and values to match: names, operators and words
without placeholders and quotes, raw fragments with a value for each placeholder
(`Statements.Sound`, `Value.DataSound`). Of the values, those that are given meet `P` and those of
raw fragments meet `Q`.

A raw fragment that is written as a plain name leaves its values behind: the table a statement
writes to, and the table of a join that has an alias. `Statements.lost` counts these values.
-/

set_option autoImplicit false

namespace SqlBuilder

open Placeholder Adapter

namespace Value

/-- What is written as a name: no raw fragment, and a text that may stand anywhere. -/
structure Plain (v : Value) : Prop where
  not_raw : v.isRaw = false
  quiet : Quiet v.toText

/-- What is written if it is a text may stand anywhere. -/
def Worded (v : Value) : Prop := ∀ s, v = .text s → Quiet s

/-- An operator: a text that may stand anywhere, or none. -/
def OperatorSound (v : Value) : Prop := v = .null ∨ ∃ s, v = .text s ∧ Quiet s

/-- A limit: a whole number, or none. -/
def CountSound (v : Value) : Prop := v = .null ∨ ∃ n, v = .int n

/-- Aliases by table. -/
inductive AliasesSound : Value → Prop where
  | null : AliasesSound .null
  | map {entries : List (Value × Value)} (h : ∀ e ∈ entries, ∃ s, e.2 = .text s ∧ Quiet s) :
      AliasesSound (.map entries)

/-- A clause that was not touched, or a list or tuple of sound items. -/
inductive ListSound (sound : Value → Prop) : Value → Prop where
  | null : ListSound sound .null
  | list {items : List Value} (h : ∀ v ∈ items, sound v) : ListSound sound (.list items)
  | tuple {items : List Value} (h : ∀ v ∈ items, sound v) : ListSound sound (.tuple items)

section

variable (P Q : Value → Prop)

/-- A name, or a raw fragment with a value for each placeholder. -/
inductive NameSound : Value → Prop where
  | raw {sql : String} {bindings : List Value} (h : (⟨sql, bindings⟩ : Fragment).Lacks Q 0) :
      NameSound (.raw sql bindings)
  | name {v : Value} (h : v.Plain) : NameSound v

/-- A selected expression. -/
def ItemSound : Value → Prop
  | .aliased expression name => NameSound Q expression ∧ name.Plain
  | v => NameSound Q v

/-- The items of a list that are bound. -/
def boundItems (operator : Value) (items : List Value) : List Value :=
  if isBetween operator then items.take 2 else items

/-- What a condition compares with. Two items are there where two are asked for; a scalar is a name
where scalars are not bound, and anything where it is not written. -/
inductive OperandSound (bindValues : Bool) (key operator : Value) : Value → Prop where
  | raw {sql : String} {bindings : List Value} (h : (⟨sql, bindings⟩ : Fragment).Lacks Q 0) :
      OperandSound bindValues key operator (.raw sql bindings)
  | items {v : Value} {items : List Value} (hitems : v.items? = some items)
      (hbetween : isBetween operator = true → 2 ≤ items.length)
      (h : ∀ v ∈ boundItems operator items, P v) : OperandSound bindValues key operator v
  | alone {v : Value} (h : standsAlone bindValues key operator v = true) :
      OperandSound bindValues key operator v
  | bound {v : Value} (hscalar : v.isScalar = true) (hbind : bindValues = true) (h : P v) :
      OperandSound bindValues key operator v
  | name {v : Value} (hscalar : v.isScalar = true) (hbind : bindValues = false)
      (h : Quiet v.toText) : OperandSound bindValues key operator v

/-- A value of a row. -/
inductive DatumSound : Value → Prop where
  | raw {sql : String} {bindings : List Value} (h : (⟨sql, bindings⟩ : Fragment).Lacks Q 0) :
      DatumSound (.raw sql bindings)
  | bound {v : Value} (hraw : v.isRaw = false) (h : P v) : DatumSound v

/-- A row, if the data are one. -/
def DataSound (v : Value) : Prop :=
  ∀ entries, v = .map entries → ∀ e ∈ entries, e.1.Plain ∧ DatumSound P Q e.2

/-- The table of a join. -/
def JoinTableSound : Value → Prop
  | .tuple [main, name] => NameSound Q main ∧ name.Plain
  | .tuple _ => True
  | v => NameSound Q v

end

/-- The number of values of a raw fragment. -/
def bindingCount : Value → Nat
  | .raw _ bindings => bindings.length
  | _ => 0

end Value

open Value

section

variable (P Q : Value → Prop)

/-- Conditions whose words, names and values are sound. -/
inductive ConditionsSound : Bool → List Condition → Prop where
  | nil {bindValues : Bool} : ConditionsSound bindValues []
  | columns {bindValues : Bool} {key operator value joiner leading : Value} {columns : List Value}
      {cs : List Condition} (hjoiner : joiner.Worded) (hleading : leading.Worded)
      (hne : columns ≠ []) (h : ∀ v ∈ columns, v.Plain) (rest : ConditionsSound bindValues cs) :
      ConditionsSound bindValues (⟨key, operator, value, joiner, leading, columns⟩ :: cs)
  | group {bindValues : Bool} {operator value joiner leading : Value} {gs cs : List Condition}
      (hjoiner : joiner.Worded) (hleading : leading.Worded) (inner : ConditionsSound true gs)
      (rest : ConditionsSound bindValues cs) :
      ConditionsSound bindValues (⟨.group gs, operator, value, joiner, leading, []⟩ :: cs)
  | comparison {bindValues : Bool} {key operator value joiner leading : Value}
      {cs : List Condition} (hjoiner : joiner.Worded) (hleading : leading.Worded)
      (hgroup : ∀ gs, key ≠ .group gs) (hkey : key.NameSound Q) (hop : operator.OperatorSound)
      (h : OperandSound P Q bindValues key operator value) (rest : ConditionsSound bindValues cs) :
      ConditionsSound bindValues (⟨key, operator, value, joiner, leading, []⟩ :: cs)

/-- A sound join. Scalars among its conditions are names. -/
structure JoinEntry.Sound (join : JoinEntry) : Prop where
  kind : join.kind.Worded
  table : join.table.JoinTableSound Q
  criteria : ConditionsSound P Q false join.criteria

/-- Sound clauses. -/
structure ClausesSound (s : Statements) : Prop where
  selects : s.selects.ListSound (ItemSound Q)
  distincts : s.distincts.ListSound (ItemSound Q)
  tables : s.tables.ListSound (NameSound Q)
  aliases : s.aliases.AliasesSound
  wheres : ConditionsSound P Q true (s.wheres.getD [])
  havings : ConditionsSound P Q true (s.havings.getD [])
  joins : ∀ join ∈ s.joins.getD [], join.Sound P Q
  groupBys : s.groupBys.ListSound (ItemSound Q)
  orderBys : ∀ entry ∈ s.orderBys.getD [], entry.field.NameSound Q ∧ entry.direction.Plain
  limit : s.limit.CountSound
  offset : s.offset.CountSound
  lock : s.lock.Plain
  onDuplicate : s.onDuplicate.DataSound P Q

/-- Sound members of unions. -/
inductive MembersSound : List UnionEntry → Prop where
  | nil : MembersSound []
  | cons {s : Statements} {type : Value} {identity : List Nat} {entries : List UnionEntry}
      (clauses : ClausesSound P Q s) (inner : MembersSound (s.unions.getD [])) (htype : type.Plain)
      (rest : MembersSound entries) : MembersSound (⟨s, type, identity⟩ :: entries)

/-- Sound statements. `bindCriteria` says whether the bare conditions are bound. -/
structure Statements.Sound (bindCriteria : Bool) (s : Statements) : Prop where
  clauses : ClausesSound P Q s
  members : MembersSound P Q (s.unions.getD [])
  criteria : ConditionsSound P Q bindCriteria (s.criteria.getD [])

/-- What an operation is given besides the statements. -/
def PayloadSound (op : Operation) (payload : List Value) : Prop :=
  match op with
  | .insert | .insertIgnore | .replace | .update => ∀ v ∈ payload, v.DataSound P Q
  | .delete => ∀ v ∈ payload, v.ListSound (ItemSound Q)
  | .select | .criteria => True

end

/-! ## Values that are left behind -/

/-- The values of the table of a join that has an alias. -/
def JoinEntry.lost (join : JoinEntry) : Nat :=
  match join.table with
  | .tuple [main, _] => main.bindingCount
  | _ => 0

namespace Statements

/-- The values of the tables of the joins. -/
def lostInJoins (joins : Option (List JoinEntry)) : Nat :=
  ((joins.getD []).map JoinEntry.lost).sum

/-- The values of the table that is written to. -/
def lostInTarget (s : Statements) : Nat :=
  ((s.tables.items?.getD []).getLast?.map bindingCount).getD 0

mutual

/-- The values that a select leaves behind. -/
def lostInSelect : Statements → Nat
  | { joins, unions, .. } => lostInJoins joins + lostInUnions unions

/-- The values that the further members of a union leave behind, if there are any. -/
def lostInUnions : Option (List UnionEntry) → Nat
  | none => 0
  | some entries => lostInMembers entries

/-- The values that members of unions leave behind. -/
def lostInMembers : List UnionEntry → Nat
  | [] => 0
  | { statements, .. } :: entries => lostInSelect statements + lostInMembers entries

end

/-- The values of raw fragments that an operation leaves behind. -/
def lost (s : Statements) : Operation → Nat
  | .select => s.lostInSelect
  | .insert | .insertIgnore | .replace => s.lostInTarget
  | .update | .delete => s.lostInTarget + lostInJoins s.joins
  | .criteria => 0

theorem lostInUnions_eq (unions : Option (List UnionEntry)) :
    lostInUnions unions = lostInMembers (unions.getD []) := by
  cases unions with
  | none => rfl
  | some entries => rfl

theorem lostInSelect_eq (s : Statements) :
    s.lostInSelect = lostInJoins s.joins + lostInMembers (s.unions.getD []) := by
  cases s
  rw [lostInSelect, lostInUnions_eq]

end Statements

namespace Adapter

/-! ## What sound parts are written as -/

variable {a : Adapter}

theorem signs_intercalate_space (ws : List String) :
    signs (" ".intercalate ws).toList = signs (ws.flatMap String.toList) := by
  have hspace : signs " ".toList = [] := by decide
  induction ws with
  | nil => rfl
  | cons w ws ih =>
    cases ws with
    | nil => simp
    | cons v ws =>
      rw [String.intercalate_cons_of_ne_nil (by simp)]
      simp only [String.toList_append, signs_append, ih, hspace, List.append_nil,
        List.flatMap_cons]

/-- The words that are left out before the first condition have neither placeholders nor quotes. -/
theorem quiet_firstWords {s : String} (h : Quiet s) : Quiet (firstWords s) := by
  refine .of_signs ?_ h
  rw [firstWords, signs_intercalate_space, ← Text.signs_words]
  induction Text.words s with
  | nil => rfl
  | cons w ws ih =>
    rw [List.filter_cons]
    split
    · rw [List.flatMap_cons, List.flatMap_cons, signs_append, signs_append, ih]
    · rename_i hout
      have hupper : signs (Text.upper w).toList = [] := by
        simp only [Bool.not_eq_true', Bool.not_eq_false, Bool.or_eq_true, beq_iff_eq] at hout
        rcases hout with hout | hout <;> rw [hout] <;> decide
      rw [ih, List.flatMap_cons, signs_append, ← Text.signs_upper w, hupper, List.nil_append]

theorem quiet_joinKind {kind : Value} (hkind : kind.Worded) {word : String}
    (hword : joinKind kind = .ok word) : Quiet word := by
  unfold joinKind at hword
  cases kind with
  | text s =>
    cases hword
    exact .of_signs (Text.signs_upper s) (hkind s rfl)
  | bytes octets =>
    simp only [Value.upper, bind, Except.bind] at hword
    split at hword
    · cases hword
      exact .of_signs_nil rfl
    · cases hword
  | _ => cases hword

theorem lacks_of_operandSound {P Q : Value → Prop} {bindValues : Bool} {key operator : Value}
    {sql : String} {bindings : List Value}
    (hv : Value.OperandSound P Q bindValues key operator (.raw sql bindings)) :
    (⟨sql, bindings⟩ : Fragment).Lacks Q 0 := by
  cases hv with
  | raw hf => exact hf
  | items hitems => simp [Value.items?] at hitems
  | alone halone => simp [standsAlone, Value.isRaw] at halone
  | bound hscalar => simp [Value.isScalar, Value.isRaw] at hscalar
  | name hscalar => simp [Value.isScalar, Value.isRaw] at hscalar

theorem aliasedTable_congr {s s' : Statements} (haliases : s'.aliases = s.aliases) (t : Value) :
    a.aliasedTable s' t = a.aliasedTable s t := by
  unfold aliasedTable Statements.aliasOf
  rw [haliases]

theorem lookup_aliases {entries : List (Value × Value)}
    (hentries : ∀ e ∈ entries, ∃ s, e.2 = .text s ∧ Quiet s) {key v : Value}
    (hv : Value.lookup entries key = some v) : ∃ s, v = .text s ∧ Quiet s := by
  induction entries with
  | nil => cases hv
  | cons e entries ih =>
    obtain ⟨k, w⟩ := e
    rw [Value.lookup] at hv
    split at hv
    · cases hv
      exact hentries _ List.mem_cons_self
    · exact ih (fun e he => hentries e (List.mem_cons_of_mem _ he)) hv

/-- A table is written with its alias in small letters, or alone. -/
theorem aliasedTable_cases {s : Statements} (haliases : s.aliases.AliasesSound) {t : Value}
    {p : String × Value} (hp : a.aliasedTable s t = .ok p) :
    p = (a.wrap t, .null) ∨ ∃ label, Quiet label ∧
      p = (a.wrap t ++ " AS " ++ a.wrapText label, .text label) := by
  have halias : ∀ name, s.aliasOf t = .ok name → name = .null ∨ ∃ s, name = .text s ∧ Quiet s := by
    intro name hname
    unfold Statements.aliasOf at hname
    generalize s.aliases = aliases at haliases hname
    cases haliases with
    | null =>
      simp only [Value.isTrue, Bool.false_eq_true, if_false] at hname
      split at hname
      · cases hname
        exact .inl rfl
      · cases hname
    | @map entries hentries =>
      dsimp only at hname
      split at hname
      · cases hname
        cases hfound : Value.lookup entries t with
        | none => exact .inl rfl
        | some v => exact .inr (lookup_aliases hentries hfound)
      · cases hname
  unfold aliasedTable at hp
  generalize s.aliasOf t = x at halias hp
  cases x with
  | error => cases hp
  | ok name =>
    rcases halias name rfl with rfl | ⟨label, rfl, hlabel⟩
    · cases hp
      exact .inl rfl
    · cases hp
      exact .inr ⟨_, .of_signs (Text.signs_lower label) hlabel, rfl⟩

theorem signs_intText (n : Int) : signs (Value.intText n).toList = [] := by
  have hdigits : ∀ m : Nat, signs m.repr.toList = [] := by
    intro m
    refine List.filter_eq_nil_iff.2 fun c hc hs => ?_
    rw [Nat.toList_repr] at hc
    have hdigit := Nat.isDigit_of_mem_toDigits (by decide) (by decide) hc
    simp only [isSign, Bool.or_eq_true, beq_iff_eq] at hs
    rcases hs with rfl | rfl <;> exact absurd hdigit (by decide)
  have hminus : signs "-".toList = [] := by decide
  unfold Value.intText
  split
  · rw [String.toList_append, signs_append, hminus, hdigits]
    rfl
  · exact hdigits _

theorem quiet_written {v : Value} (h : v.CountSound) {text : String}
    (htext : v.written = .ok text) : Quiet text := by
  rcases h with rfl | ⟨n, rfl⟩
  · cases htext
    exact .of_signs_nil (by decide)
  · unfold Value.written at htext
    dsimp only at htext
    split at htext
    · cases htext
    · cases htext
      exact .of_signs_nil (signs_intText n)

/-- What is written to: the text of a raw fragment, or the table as it is. -/
def targetName : Value → Value
  | .raw sql _ => .text sql
  | t => t

theorem targetTable_items {s : Statements} {tables : List Value}
    (h : s.tables.items? = some tables) (clause : String) :
    targetTable s clause = match tables.getLast? with
      | none => .error (.compilation (.noTarget clause))
      | some t => .ok (targetName t) := by
  have hlist : s.tables = .list tables ∨ s.tables = .tuple tables := by
    revert h
    cases s.tables <;> simp [Value.items?]
  unfold targetTable Statements.hasTables
  rcases List.eq_nil_or_concat tables with rfl | ⟨ts, t, rfl⟩
  · rcases hlist with hlist | hlist <;> rw [hlist] <;> rfl
  · rw [List.concat_eq_append] at hlist ⊢
    have htrue : s.tables.isTrue = true := by
      rcases hlist with hlist | hlist <;> rw [hlist] <;> simp [Value.isTrue]
    have hback : s.tables.back = .ok t := by
      rcases hlist with hlist | hlist <;> rw [hlist] <;> simp [Value.back, Value.chosen]
    rw [List.getLast?_append_of_ne_nil _ (by simp), htrue, hback]
    cases t <;> rfl

end Adapter

end SqlBuilder
