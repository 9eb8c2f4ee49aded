import SqlBuilder.Proofs.Related.Statement

/-!
# The text does not depend on bound data

`Statements.Alike` and `Value.PayloadAlike` relate two requests that differ in data only: in the
scalars that conditions compare with, the elements of equally long lists, the values of a row, and
the bindings of raw fragments of one text with equally many bindings. `compile_independent`: such
requests fail with one fault, or compile to one text with equally many bindings. So no value that is
bound can change the text.

The relation on fragments that carries this is `SameShape`: one text, equally many bindings.
-/

set_option autoImplicit false

namespace SqlBuilder

/-! ## Requests that differ in data -/

namespace Value

/-- One value, or raw fragments of one text with equally many bindings. -/
inductive SameFragment : Value → Value → Prop where
  | refl (v : Value) : SameFragment v v
  | raw (sql : String) {bindings bindings' : List Value}
      (h : bindings.length = bindings'.length) :
      SameFragment (.raw sql bindings) (.raw sql bindings')

/-- What two conditions compare with: any two scalars where these are bound, and lists of the same
length. -/
inductive OperandAlike : Bool → Value → Value → Prop where
  | same {bindValues : Bool} {v v' : Value} (h : SameFragment v v') : OperandAlike bindValues v v'
  | list {bindValues : Bool} {xs ys : List Value} (h : xs.length = ys.length) :
      OperandAlike bindValues (.list xs) (.list ys)
  | tuple {bindValues : Bool} {xs ys : List Value} (h : xs.length = ys.length) :
      OperandAlike bindValues (.tuple xs) (.tuple ys)
  | scalar {v v' : Value} (h : v.isScalar = true) (h' : v'.isScalar = true) :
      OperandAlike true v v'

/-- One expression up to the bindings of raw fragments. -/
inductive ItemAlike : Value → Value → Prop where
  | same {v v' : Value} (h : SameFragment v v') : ItemAlike v v'
  | aliased {expression expression' name name' : Value} (h : SameFragment expression expression')
      (hname : SameFragment name name') :
      ItemAlike (.aliased expression name) (.aliased expression' name')

/-- Clauses that list related items. -/
inductive ListAlike (P : Value → Value → Prop) : Value → Value → Prop where
  | same {v v' : Value} (h : SameFragment v v') : ListAlike P v v'
  | list {xs ys : List Value} (h : List.Forall₂ P xs ys) : ListAlike P (.list xs) (.list ys)
  | tuple {xs ys : List Value} (h : List.Forall₂ P xs ys) : ListAlike P (.tuple xs) (.tuple ys)

/-- One map up to the bindings of raw fragments. -/
inductive AliasesAlike : Value → Value → Prop where
  | same {v v' : Value} (h : SameFragment v v') : AliasesAlike v v'
  | map {entries entries' : List (Value × Value)}
      (h : List.Forall₂ (fun e e' => SameFragment e.1 e'.1 ∧ SameFragment e.2 e'.2)
        entries entries') : AliasesAlike (.map entries) (.map entries')

/-- What an operation is given besides the statements: rows of the same columns with any values that
are not raw, or lists of expressions. -/
inductive PayloadAlike : Value → Value → Prop where
  | items {v v' : Value} (h : ListAlike ItemAlike v v') : PayloadAlike v v'
  | row {entries entries' : List (Value × Value)}
      (h : List.Forall₂ (fun e e' => SameFragment e.1 e'.1 ∧
        (SameFragment e.2 e'.2 ∨ e.2.isRaw = false ∧ e'.2.isRaw = false)) entries entries') :
      PayloadAlike (.map entries) (.map entries')

end Value

open Value

/-- Lists of conditions that differ in data only. Scalars may differ where they are bound, which in
groups they always are. -/
inductive ConditionsAlike : Bool → List Condition → List Condition → Prop where
  | nil {bindValues : Bool} : ConditionsAlike bindValues [] []
  | comparison {bindValues : Bool} {key key' operator v v' joiner leading : Value}
      {columns columns' : List Value} {cs cs' : List Condition} (hkey : SameFragment key key')
      (hvalue : OperandAlike bindValues v v')
      (hcolumns : List.Forall₂ SameFragment columns columns')
      (rest : ConditionsAlike bindValues cs cs') :
      ConditionsAlike bindValues (⟨key, operator, v, joiner, leading, columns⟩ :: cs)
        (⟨key', operator, v', joiner, leading, columns'⟩ :: cs')
  | group {bindValues : Bool} {operator v v' joiner leading : Value} {columns columns' : List Value}
      {gs gs' cs cs' : List Condition} (inner : ConditionsAlike true gs gs')
      (hvalue : OperandAlike bindValues v v')
      (hcolumns : List.Forall₂ SameFragment columns columns')
      (rest : ConditionsAlike bindValues cs cs') :
      ConditionsAlike bindValues (⟨.group gs, operator, v, joiner, leading, columns⟩ :: cs)
        (⟨.group gs', operator, v', joiner, leading, columns'⟩ :: cs')

/-- Conditions that agree where scalars are names agree however they are written. -/
theorem ConditionsAlike.weaken {cs cs' : List Condition} (h : ConditionsAlike false cs cs')
    (bindValues : Bool) : ConditionsAlike bindValues cs cs' := by
  have hoperand : ∀ {v v' : Value}, OperandAlike false v v' → OperandAlike bindValues v v' := by
    intro v v' h
    cases h with
    | same h => exact .same h
    | list h => exact .list h
    | tuple h => exact .tuple h
  generalize hfalse : false = b at h
  induction h with
  | nil => exact .nil
  | comparison hkey hvalue hcolumns _ ih =>
    subst hfalse
    exact .comparison hkey (hoperand hvalue) hcolumns (ih rfl)
  | group inner hvalue hcolumns _ _ ih =>
    subst hfalse
    exact .group inner (hoperand hvalue) hcolumns (ih rfl)

/-- Joins that differ in data only. The scalars among their conditions are names. -/
structure JoinAlike (join join' : JoinEntry) : Prop where
  kind : join'.kind = join.kind
  table : SameFragment join.table join'.table ∨ ∃ main main' name name',
    join.table = .tuple [main, name] ∧ join'.table = .tuple [main', name'] ∧
      SameFragment main main' ∧ SameFragment name name'
  criteria : ConditionsAlike false join.criteria join'.criteria

/-- Clauses that differ in data only. -/
structure ClausesAlike (s s' : Statements) : Prop where
  selects : ListAlike ItemAlike s.selects s'.selects
  distincts : ListAlike ItemAlike s.distincts s'.distincts
  tables : ListAlike SameFragment s.tables s'.tables
  aliases : AliasesAlike s.aliases s'.aliases
  wheres : ConditionsAlike true (s.wheres.getD []) (s'.wheres.getD [])
  havings : ConditionsAlike true (s.havings.getD []) (s'.havings.getD [])
  criteria : ConditionsAlike false (s.criteria.getD []) (s'.criteria.getD [])
  joins : List.Forall₂ JoinAlike (s.joins.getD []) (s'.joins.getD [])
  groupBys : ListAlike ItemAlike s.groupBys s'.groupBys
  orderBys : List.Forall₂ (fun e e' => SameFragment e.field e'.field ∧ e'.direction = e.direction)
    (s.orderBys.getD []) (s'.orderBys.getD [])
  limit : s'.limit = s.limit
  offset : s'.offset = s.offset
  lock : s'.lock = s.lock
  onDuplicate : PayloadAlike s.onDuplicate s'.onDuplicate

/-- Members of unions that differ in data only. -/
inductive MembersAlike : List UnionEntry → List UnionEntry → Prop where
  | nil : MembersAlike [] []
  | cons {s s' : Statements} {type : Value} {identity identity' : List Nat}
      {entries entries' : List UnionEntry} (clauses : ClausesAlike s s')
      (inner : MembersAlike (s.unions.getD []) (s'.unions.getD []))
      (rest : MembersAlike entries entries') :
      MembersAlike (⟨s, type, identity⟩ :: entries) (⟨s', type, identity'⟩ :: entries')

/-- Statements that differ in data only. -/
structure Statements.Alike (s s' : Statements) : Prop where
  clauses : ClausesAlike s s'
  members : MembersAlike (s.unions.getD []) (s'.unions.getD [])

/-! ## Fragments of one shape -/

/-- One text with equally many bindings. -/
def Fragment.SameShape (_ : Nat) (f f' : Fragment) : Prop :=
  f.sql = f'.sql ∧ f.bindings.length = f'.bindings.length

namespace Adapter

open Fragment

theorem sameShape_refl {n : Nat} (f : Fragment) : SameShape n f f := ⟨rfl, rfl⟩

theorem sameShape_congruence : Congruence SameShape where
  word _ := sameShape_refl _
  append := by
    rintro n m f f' g g' ⟨hf, hf'⟩ ⟨hg, hg'⟩
    exact ⟨by simp [hf, hg], by simp [hf', hg']⟩
  concatenate := by
    intro n fs fs' h
    have hparts : fs.map Fragment.sql = fs'.map Fragment.sql ∧
        (fs.flatMap Fragment.bindings).length = (fs'.flatMap Fragment.bindings).length := by
      induction h with
      | nil => exact ⟨rfl, rfl⟩
      | cons h _ ih =>
        simp only [List.map_cons, List.flatMap_cons, List.length_append]
        exact ⟨by rw [h.1, ih.1], by rw [h.2, ih.2]⟩
    refine ⟨?_, hparts.2⟩
    have := congrArg (fun texts => " ".intercalate ((texts.map Text.strip).filter (· != "")))
      hparts.1
    simpa [Fragment.concatenate, List.map_map, Function.comp_def] using this
  empty_iff h := by rw [h.1]

theorem steady_sameShape (s : String) : Steady SameShape s := sameShape_refl _

theorem agree_sameShape_refl {n : Nat} (x : Result Fragment) : Agree (SameShape n) x x :=
  .refl fun _ _ => sameShape_refl _

variable {a : Adapter}

/-! ## Names and lists -/

theorem wrap_sameFragment {v v' : Value} (h : SameFragment v v') : a.wrap v = a.wrap v' := by
  cases h <;> rfl

theorem named_of_sameFragment {v v' : Value} (h : SameFragment v v') : Named SameShape a v v' := by
  cases h with
  | raw sql h => exact .raw ⟨rfl, h⟩
  | refl =>
    cases hraw : v.isRaw with
    | false => exact .name hraw (steady_sameShape _)
    | true =>
      obtain ⟨sql, bindings, rfl⟩ := exists_eq_raw hraw
      exact .raw (sameShape_refl _)

theorem columnItem_alike {v v' : Value} (h : ItemAlike v v') :
    Agree (SameShape 0) (a.columnItem v) (a.columnItem v') := by
  cases h with
  | same h =>
    cases h with
    | refl => exact agree_sameShape_refl _
    | raw sql h => exact .ok ⟨rfl, h⟩
  | aliased h hname =>
    simp only [columnItem, wrap_sameFragment hname]
    have hhead : ∀ {e e' : Value}, SameFragment e e' →
        Agree (SameShape 0) (a.aliasedHead e) (a.aliasedHead e') := by
      intro e e' h
      cases h with
      | refl => exact agree_sameShape_refl _
      | raw sql h => exact .ok ⟨rfl, h⟩
    exact (hhead h).bind fun _ _ h => .ok (sameShape_congruence.append_zero h (sameShape_refl _))

theorem isTrue_sameFragment {v v' : Value} (h : SameFragment v v') : v'.isTrue = v.isTrue := by
  cases h <;> rfl

section Lists

variable {P : Value → Value → Prop}

theorem forall₂_refl (hP : ∀ v, P v v) (vs : List Value) : List.Forall₂ P vs vs :=
  List.forall₂_same.2 fun v _ => hP v

theorem isEmpty_eq_of_forall₂ {α : Type} {Q : α → α → Prop} {xs ys : List α}
    (h : List.Forall₂ Q xs ys) : ys.isEmpty = xs.isEmpty := by
  cases h <;> rfl

theorem isTrue_listAlike {v v' : Value} (h : ListAlike P v v') : v'.isTrue = v.isTrue := by
  cases h with
  | same h => exact isTrue_sameFragment h
  | list h | tuple h => exact congrArg (!·) (isEmpty_eq_of_forall₂ h)

theorem toItems_agree (hP : ∀ v, P v v) {v v' : Value} (h : ListAlike P v v') :
    Agree (List.Forall₂ P) v.toItems v'.toItems := by
  cases h with
  | same h =>
    cases h with
    | refl => exact .refl fun _ _ => forall₂_refl hP _
    | raw => exact .misuse _
  | list h | tuple h => exact .ok h

theorem listed_agree (hP : ∀ v, P v v) {v v' : Value} (h : ListAlike P v v') :
    Agree (List.Forall₂ P) v.listed v'.listed := by
  unfold listed
  rw [isTrue_listAlike h]
  split
  · exact toItems_agree hP h
  · exact .ok .nil

end Lists

theorem itemAlike_refl (v : Value) : ItemAlike v v := .same (.refl v)

theorem itemsRel_of_forall₂ {vs vs' : List Value} (h : List.Forall₂ ItemAlike vs vs') :
    ItemsRel SameShape a vs vs' :=
  h.imp fun _ _ => columnItem_alike

theorem items_agree {v v' : Value} (h : ListAlike ItemAlike v v') :
    Agree (ItemsRel SameShape a) v.listed v'.listed :=
  (listed_agree itemAlike_refl h).mono fun _ _ => itemsRel_of_forall₂

theorem selected_agree {s s' : Statements} (h : ClausesAlike s s') :
    Agree (ItemsRel SameShape a) s.selected s'.selected :=
  (items_agree h.selects).bind fun _ _ hselects => (items_agree h.distincts).bind
    fun _ _ hdistincts => .ok (List.rel_append hdistincts hselects)

/-! ## Tables -/

theorem same_raw_left {sql : String} {bindings : List Value} {v : Value} (h : v.isRaw = false) :
    (Value.raw sql bindings).same v = false := by
  have hequal : alike (.raw sql bindings) v (equal? (.raw sql bindings) v) = some false := by
    cases v <;> first
      | simp [Value.isRaw] at h; done
      | simp [alike, identical, equal?, equalScalar?, number?]
  simp [same, hequal]

theorem lookup_alike {entries entries' : List (Value × Value)} {key : Value}
    (hkey : key.isRaw = false)
    (h : List.Forall₂ (fun e e' => SameFragment e.1 e'.1 ∧ SameFragment e.2 e'.2)
      entries entries') :
    SameFragment ((lookup entries key).getD .null) ((lookup entries' key).getD .null) := by
  induction h with
  | nil => exact .refl _
  | @cons e e' rest rest' h _ ih =>
    obtain ⟨k, v⟩ := e
    obtain ⟨k', v'⟩ := e'
    obtain ⟨hk, hv⟩ := h
    dsimp only at hk hv
    have hsame : k.same key = k'.same key := by
      cases hk with
      | refl => rfl
      | raw => rw [same_raw_left hkey, same_raw_left hkey]
    rw [lookup, lookup, hsame]
    split
    · exact hv
    · exact ih

/-- The alias of a table is looked up under its name, which no raw fragment equals. -/
theorem aliasedTable_eq {s s' : Statements} (h : AliasesAlike s.aliases s'.aliases) {table : Value}
    (htable : table.isRaw = false) : a.aliasedTable s table = a.aliasedTable s' table := by
  have halias : Agree SameFragment (s.aliasOf table) (s'.aliasOf table) := by
    unfold Statements.aliasOf
    revert h
    generalize s.aliases = aliases
    generalize s'.aliases = aliases'
    intro h
    cases h with
    | same h =>
      cases h with
      | refl => exact .refl fun _ _ => .refl _
      | raw => exact .misuse _
    | map h =>
      dsimp only
      split
      · exact .ok (lookup_alike htable h)
      · exact .misuse _
  unfold aliasedTable
  revert halias
  generalize s.aliasOf table = x
  generalize s'.aliasOf table = y
  intro h
  cases h with
  | error => rfl
  | ok h => cases h <;> rfl

theorem tableFragment_agree {s s' : Statements} (h : AliasesAlike s.aliases s'.aliases)
    {t t' : Value} (ht : SameFragment t t') :
    Agree (TableRel SameShape a 0) (a.tableFragment s t) (a.tableFragment s' t') := by
  have hraw : ∀ {sql : String} {bindings bindings' : List Value},
      bindings.length = bindings'.length →
      Agree (TableRel SameShape a 0) (a.tableFragment s (.raw sql bindings))
        (a.tableFragment s' (.raw sql bindings')) :=
    fun h => .ok ⟨⟨rfl, h⟩, rfl, steady_sameShape _⟩
  cases ht with
  | raw sql h => exact hraw h
  | refl =>
    cases htable : t.isRaw with
    | true =>
      obtain ⟨sql, bindings, rfl⟩ := exists_eq_raw htable
      exact hraw rfl
    | false =>
      have heq : a.tableFragment s t = a.tableFragment s' t := by
        have htables := aliasedTable_eq (a := a) h htable
        cases t <;> first
          | exact congrArg (· >>= _) htables
          | simp [Value.isRaw] at htable
      rw [heq]
      exact .refl fun _ _ => ⟨sameShape_refl _, rfl, steady_sameShape _⟩

theorem back_agree {v v' : Value} (h : ListAlike SameFragment v v') :
    Agree SameFragment v.back v'.back := by
  have hlast : ∀ {xs ys : List Value}, List.Forall₂ SameFragment xs ys →
      Agree SameFragment (Value.back (.list xs)) (Value.back (.list ys)) := by
    intro xs ys h
    have hlast : Option.Rel SameFragment xs.getLast? ys.getLast? := by
      induction h with
      | nil => exact .none
      | cons h hs ih =>
        cases hs with
        | nil => exact .some h
        | cons => simpa using ih
    simp only [back, chosen]
    revert hlast
    generalize xs.getLast? = x
    generalize ys.getLast? = y
    intro hlast
    cases hlast with
    | none => exact .misuse _
    | some h => exact .ok h
  cases h with
  | same h =>
    cases h with
    | refl => exact .refl fun _ _ => .refl _
    | raw => exact .misuse _
  | list h | tuple h => exact hlast h

theorem targetTable_eq {s s' : Statements} (h : ListAlike SameFragment s.tables s'.tables)
    (clause : String) : targetTable s clause = targetTable s' clause := by
  have hback := back_agree h
  unfold targetTable Statements.hasTables
  rw [isTrue_listAlike h]
  split
  · rfl
  · generalize s.tables.back = x at hback ⊢
    generalize s'.tables.back = y at hback ⊢
    cases hback with
    | error f => rfl
    | ok htable => cases htable <;> rfl

theorem isRaw_of_targetTable {s : Statements} {clause : String} {table : Value}
    (h : targetTable s clause = .ok table) : table.isRaw = false := by
  unfold targetTable at h
  split at h
  · cases h
  · cases hback : s.tables.back with
    | error f =>
      rw [hback] at h
      cases h
    | ok v =>
      rw [hback] at h
      cases v <;> cases h <;> rfl

theorem targetRel_of_alike {s s' : Statements} (h : ClausesAlike s s') :
    TargetRel SameShape a 0 s s' := by
  intro clause
  rw [← targetTable_eq h.tables clause]
  refine .refl fun table htable => ⟨sameShape_refl _, ?_⟩
  rw [← aliasedTable_eq h.aliases (isRaw_of_targetTable htable)]
  exact .refl fun _ _ => ⟨sameShape_refl _, rfl, steady_sameShape _⟩

/-! ## Conditions -/

/-- Of a list only its length can be seen. -/
theorem listSide_sameShape (operator : Value) {xs ys : List Value} (h : xs.length = ys.length) :
    SameShape 0 (listSide operator xs) (listSide operator ys) := by
  have hplaceholders : SameShape 0 (placeholders ", " xs) (placeholders ", " ys) :=
    ⟨by rw [sql_placeholders, sql_placeholders, h], by simp [h]⟩
  unfold listSide
  split
  · exact ⟨rfl, by simp [h]⟩
  · exact sameShape_congruence.parenthesized hplaceholders

theorem operandRel_refl (bindValues : Bool) (key operator v : Value) :
    OperandRel SameShape a bindValues key operator v v :=
  ⟨.rfl, .inr rfl, rfl, fun _ => sameShape_refl _⟩

/-- Two lists of one length are operands alike, whichever kind of list they are. -/
theorem operandRel_items {bindValues : Bool} {key operator v v' : Value} {xs ys : List Value}
    (hv : v.items? = some xs) (hv' : v'.items? = some ys) (h : xs.length = ys.length) :
    OperandRel SameShape a bindValues key operator v v' where
  empty_iff := by
    rw [hv, hv', Option.some.injEq, Option.some.injEq, ← List.length_eq_zero_iff, h,
      List.length_eq_zero_iff]
  keyed := .inr (by rw [hv, hv']; rfl)
  alone := by simp [standsAlone, hv, hv']
  right _ := by
    rw [rightSide, rightSide, hv, hv']
    exact listSide_sameShape operator h

theorem operandRel_of_alike {bindValues : Bool} {key operator v v' : Value}
    (h : OperandAlike bindValues v v') : OperandRel SameShape a bindValues key operator v v' := by
  cases h with
  | same h =>
    cases h with
    | refl => exact operandRel_refl _ _ _ _
    | raw sql h => exact ⟨.rfl, .inr rfl, rfl, fun _ => ⟨rfl, h⟩⟩
  | list h => exact operandRel_items rfl rfl h
  | tuple h => exact operandRel_items rfl rfl h
  | scalar h h' =>
    have hitems := isScalar_iff.1 h
    have hitems' := isScalar_iff.1 h'
    refine ⟨by simp [hitems.1, hitems'.1], .inr (by rw [hitems.1, hitems'.1]), ?_, fun _ => ?_⟩
    · simp [standsAlone, hitems, hitems']
    · rw [a.rightSide_bound h, a.rightSide_bound h']
      exact ⟨rfl, rfl⟩

theorem words_sameShape (joiner leading : Value) : Words SameShape joiner leading :=
  ⟨fun _ _ => ⟨steady_sameShape _, steady_sameShape _⟩, fun _ _ => steady_sameShape _⟩

/-- The columns of a condition are the same names, so it lists columns in both runs or in none. -/
theorem columns_cases {columns columns' : List Value}
    (h : List.Forall₂ SameFragment columns columns') :
    columns = [] ∧ columns' = [] ∨
      columns ≠ [] ∧ columns'.map a.wrap = columns.map a.wrap := by
  have hwrap : columns'.map a.wrap = columns.map a.wrap := by
    induction h with
    | nil => rfl
    | cons h _ ih => rw [List.map_cons, List.map_cons, wrap_sameFragment h, ih]
  cases h with
  | nil => exact .inl ⟨rfl, rfl⟩
  | cons => exact .inr ⟨by simp, hwrap⟩

theorem conditionsRel_refl (bindValues : Bool) :
    ∀ cs : List Condition, ConditionsRel SameShape a bindValues cs cs
  | [] => .nil
  | ⟨key, operator, value, joiner, leading, columns⟩ :: cs => by
    have rest := conditionsRel_refl bindValues cs
    have words := words_sameShape joiner leading
    by_cases hcolumns : columns = []
    · subst hcolumns
      cases hkey : key with
      | group gs =>
        subst hkey
        exact .group words (conditionsRel_refl true gs) rest
      | _ =>
        rw [← hkey]
        exact .comparison words (by simp [hkey]) (named_of_sameFragment (.refl _))
          (steady_sameShape _) (operandRel_refl _ _ _ _) rest
    · exact .columns words hcolumns rfl (steady_sameShape _) rest

theorem conditionsRel_of_alike {bindValues : Bool} {cs cs' : List Condition}
    (h : ConditionsAlike bindValues cs cs') : ConditionsRel SameShape a bindValues cs cs' := by
  induction h with
  | nil => exact .nil
  | @comparison bindValues key key' operator v v' joiner leading columns columns' _ _ hkey hvalue
      hcolumns _ ih =>
    have words := words_sameShape joiner leading
    rcases columns_cases (a := a) hcolumns with ⟨rfl, rfl⟩ | ⟨hne, heq⟩
    · cases hgroup : key with
      | group gs =>
        -- a raw fragment is no group, so both keys are this one
        subst hgroup
        cases hkey
        exact .group words (conditionsRel_refl true gs) ih
      | _ =>
        rw [← hgroup]
        exact .comparison words (by simp [hgroup]) (named_of_sameFragment hkey)
          (steady_sameShape _) (operandRel_of_alike hvalue) ih
    · exact .columns words hne heq (steady_sameShape _) ih
  | @group bindValues operator v v' joiner leading columns columns' _ _ _ _ _ _ hcolumns _ ihInner
      ih =>
    have words := words_sameShape joiner leading
    rcases columns_cases (a := a) hcolumns with ⟨rfl, rfl⟩ | ⟨hne, heq⟩
    · exact .group words ihInner ih
    · exact .columns words hne heq (steady_sameShape _) ih

/-! ## Clauses -/

theorem joinTable_agree {join join' : JoinEntry} (h : JoinAlike join join') :
    Agree (SameShape 0) (a.joinTable join.table) (a.joinTable join'.table) := by
  rcases h.table with h | ⟨main, main', name, name', htable, htable', hmain, hname⟩
  · generalize join.table = table at h
    generalize join'.table = table' at h
    cases h with
    | refl => exact agree_sameShape_refl _
    | raw sql h => exact .ok ⟨rfl, h⟩
  · rw [htable, htable', joinTable, joinTable, wrap_sameFragment hmain, wrap_sameFragment hname]
    exact agree_sameShape_refl _

theorem joinsRel_of_alike {joins joins' : List JoinEntry}
    (h : List.Forall₂ JoinAlike joins joins') :
    JoinsRel SameShape a 0 joins joins' := by
  induction h with
  | nil => exact .nil
  | cons h _ ih =>
    exact .cons (n := 0) ⟨h.kind, fun _ _ => steady_sameShape _, joinTable_agree h,
      conditionsRel_of_alike h.criteria⟩ ih

theorem rowRel_of_alike {entries entries' : List (Value × Value)}
    (h : List.Forall₂ (fun e e' => SameFragment e.1 e'.1 ∧
      (SameFragment e.2 e'.2 ∨ e.2.isRaw = false ∧ e'.2.isRaw = false)) entries entries') :
    RowRel SameShape a entries entries' := by
  have hbound : ∀ {v : Value}, v.isRaw = false → dataValue v = Fragment.bound v.normalize := by
    intro v h
    cases v <;> first | rfl | simp [isRaw] at h
  refine h.imp fun e e' h => ⟨wrap_sameFragment h.1, steady_sameShape _, ?_⟩
  rcases h.2 with h | ⟨h, h'⟩
  · generalize e.2 = v at h
    generalize e'.2 = v' at h
    cases h with
    | refl => exact sameShape_refl _
    | raw sql h => exact ⟨rfl, h⟩
  · rw [hbound h, hbound h']
    exact ⟨rfl, rfl⟩

theorem rowRel_refl (entries : List (Value × Value)) : RowRel SameShape a entries entries :=
  List.forall₂_same.2 fun _ _ => ⟨rfl, steady_sameShape _, sameShape_refl _⟩

theorem dataRel_of_alike {v v' : Value} (h : PayloadAlike v v') : DataRel SameShape a v v' := by
  cases h with
  | row h =>
    exact ⟨rfl, congrArg (!·) (isEmpty_eq_of_forall₂ h), .ok (rowRel_of_alike h)⟩
  | items h =>
    refine ⟨?_, isTrue_listAlike h, ?_⟩
    · cases h with
      | same h => cases h <;> rfl
      | list | tuple => rfl
    · cases h with
      | same h =>
        cases h with
        | refl => exact .refl fun _ _ => rowRel_refl _
        | raw => exact .misuse _
      | list | tuple => exact .misuse _

/-- Items of a list, or the columns of a row. -/
theorem columnsRel_of_alike {v v' : Value} (h : PayloadAlike v v') :
    ColumnsRel SameShape a v v' := by
  refine ⟨(dataRel_of_alike (a := a) h).isTrue_eq, ?_⟩
  cases h with
  | items h => exact (toItems_agree itemAlike_refl h).mono fun _ _ => itemsRel_of_forall₂
  | row h =>
    refine .ok (itemsRel_of_forall₂ ?_)
    exact List.forall₂_map_left_iff.2 (List.forall₂_map_right_iff.2
      (h.imp fun _ _ h => .same h.1))

theorem sharedRel_of_alike {s s' : Statements} (h : ClausesAlike s s') :
    SharedRel SameShape a 0 s s' where
  joins := joinsRel_of_alike h.joins
  wheres := conditionsRel_of_alike h.wheres
  groups := items_agree h.groupBys
  orders := h.orderBys.imp fun _ _ h => ⟨named_of_sameFragment h.1, h.2, steady_sameShape _⟩
  limit_eq := h.limit
  limit _ _ := steady_sameShape _
  offset_eq := h.offset
  offset _ _ := steady_sameShape _

theorem sources_agree {s s' : Statements} (h : ClausesAlike s s') :
    Agree (List.Forall₂ fun t t' =>
      Agree (TableRel SameShape a 0) (a.tableFragment s t) (a.tableFragment s' t'))
      s.sources s'.sources :=
  (listed_agree SameFragment.refl h.tables).mono fun _ _ h' =>
    h'.imp fun _ _ => tableFragment_agree h.aliases

theorem selectingRel_of_alike {s s' : Statements} (h : ClausesAlike s s') :
    SelectingRel SameShape a 0 s s' where
  toSharedRel := sharedRel_of_alike h
  distinct := isTrue_listAlike h.distincts
  columns := selected_agree h
  sources := sources_agree h
  havings := conditionsRel_of_alike h.havings
  lock_eq := h.lock
  lock := steady_sameShape _

theorem membersRel_of_alike {entries entries' : List UnionEntry}
    (h : MembersAlike entries entries') : MembersRel SameShape a 0 entries entries' := by
  induction h with
  | nil => exact .nil
  | cons clauses _ _ ihInner ihRest =>
    exact .cons (n := 0) (m := 0) (selectingRel_of_alike clauses) ihInner (steady_sameShape _)
      ihRest

/-! ## Requests -/

theorem requestRel_of_alike (op : Operation) {s s' : Statements} (h : s.Alike s')
    {payload payload' : List Value} (hpayload : List.Forall₂ PayloadAlike payload payload') :
    RequestRel SameShape a 0 op s s' payload payload' := by
  have htarget : TargetRel SameShape a 0 s s' := targetRel_of_alike h.clauses
  have hshared : SharedRel SameShape a 0 s s' := sharedRel_of_alike h.clauses
  have hupdate : DataRel SameShape a s.onDuplicate s'.onDuplicate :=
    dataRel_of_alike h.clauses.onDuplicate
  rcases hpayload with _ | ⟨hdata, _ | ⟨_, _⟩⟩
  · cases op with
    | select =>
      exact .select (n := 0) (m := 0) (selectingRel_of_alike h.clauses)
        (membersRel_of_alike h.members)
    | delete => exact .deleteAll (n := 0) (m := 0) htarget hshared
    | criteria => exact .criteria (conditionsRel_of_alike (h.clauses.criteria.weaken true))
    | _ => exact .refused rfl rfl
  · have hrow := dataRel_of_alike (a := a) hdata
    cases op with
    | select => exact .refused rfl rfl
    | insert => exact .insert (.inl rfl) htarget hrow hupdate
    | insertIgnore => exact .insert (.inr (.inl rfl)) htarget hrow hupdate
    | replace => exact .insert (.inr (.inr rfl)) htarget hrow hupdate
    | update => exact .update (n := 0) (m := 0) htarget hshared hrow
    | delete => exact .delete (n := 0) (m := 0) htarget hshared (columnsRel_of_alike hdata)
    | criteria =>
      exact .criteriaWith hrow.isTrue_eq (conditionsRel_of_alike (h.clauses.criteria.weaken _))
  · cases op <;> exact .refused rfl rfl

/-- Requests that differ in data only fail with one fault, or compile to one text with equally many
bindings. -/
theorem compile_independent (a : Adapter) (op : Operation) {s s' : Statements}
    {payload payload' : List Value} (hs : s.Alike s')
    (hpayload : List.Forall₂ PayloadAlike payload payload') :
    (∃ fault, a.compile op s payload = .error fault ∧ a.compile op s' payload' = .error fault) ∨
      ∃ sql bindings bindings',
        a.compile op s payload = .ok ⟨.text sql, .positional bindings, some a⟩ ∧
        a.compile op s' payload' = .ok ⟨.text sql, .positional bindings', some a⟩ ∧
        bindings.length = bindings'.length := by
  have h := fragment_agree (a := a) sameShape_congruence (requestRel_of_alike op hs hpayload)
  unfold compile
  revert h
  generalize a.fragment op s payload = x
  generalize a.fragment op s' payload' = y
  intro h
  cases h with
  | error fault => exact .inl ⟨fault, rfl, rfl⟩
  | @ok f f' h =>
    refine .inr ⟨f.sql, f.bindings, f'.bindings, rfl, ?_, h.2⟩
    rw [h.1]
    rfl

/-- A scalar and the items of a list in a group, replaced by texts that would end the statement. -/
theorem compile_independent_of_quotes :
    (∃ fault,
      (Adapter.mk .mysql true).compile .select
        { tables := .list [.text "t"]
          wheres := some [.plain (.text "a") (.text "=") (.int 1) (.text "AND"),
            .plain (.group [.plain (.text "b") (.text "IN") (.list [.int 2, .raw "c" []])
              (.text "OR")]) .null .null (.text "AND")] } [] = .error fault ∧
      (Adapter.mk .mysql true).compile .select
        { tables := .list [.text "t"]
          wheres := some [.plain (.text "a") (.text "=") (.text "'; DROP") (.text "AND"),
            .plain (.group [.plain (.text "b") (.text "IN") (.list [.text "?", .text "')"])
              (.text "OR")]) .null .null (.text "AND")] } [] = .error fault) ∨
    ∃ sql bindings bindings',
      (Adapter.mk .mysql true).compile .select
        { tables := .list [.text "t"]
          wheres := some [.plain (.text "a") (.text "=") (.int 1) (.text "AND"),
            .plain (.group [.plain (.text "b") (.text "IN") (.list [.int 2, .raw "c" []])
              (.text "OR")]) .null .null (.text "AND")] } [] =
        .ok ⟨.text sql, .positional bindings, some (.mk .mysql true)⟩ ∧
      (Adapter.mk .mysql true).compile .select
        { tables := .list [.text "t"]
          wheres := some [.plain (.text "a") (.text "=") (.text "'; DROP") (.text "AND"),
            .plain (.group [.plain (.text "b") (.text "IN") (.list [.text "?", .text "')"])
              (.text "OR")]) .null .null (.text "AND")] } [] =
        .ok ⟨.text sql, .positional bindings', some (.mk .mysql true)⟩ ∧
      bindings.length = bindings'.length := by
  have same : ∀ v, SameFragment v v := .refl
  refine compile_independent _ _ ⟨?_, .nil⟩ .nil
  exact {
    selects := .same (same _)
    distincts := .same (same _)
    tables := .same (same _)
    aliases := .same (same _)
    wheres := .comparison (same _) (.scalar rfl rfl) .nil
      (.group (.comparison (same _) (.list rfl) .nil .nil) (.same (same _)) .nil .nil)
    havings := .nil
    criteria := .nil
    joins := .nil
    groupBys := .same (same _)
    orderBys := .nil
    limit := rfl
    offset := rfl
    lock := rfl
    onDuplicate := .items (.same (same _)) }

end Adapter

end SqlBuilder
