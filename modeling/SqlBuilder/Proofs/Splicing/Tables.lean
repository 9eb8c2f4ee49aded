import Mathlib
import SqlBuilder.Proofs.Splicing.Clauses

/-!
# Raw fragments as tables

A `TablePlace` is a place for a table in statements: among the tables to select from or write to, in
a join, or in one of these of a member of a union. `written` is what the compiler writes for the
table there, and it writes it in one context, whatever the table (`uniform_fragment`).

* A raw fragment that is selected from or joined keeps its text and its bindings.
* As the first of a table and its alias in a join it keeps its text alone.
* As the target of an insert, an update or a delete its text is taken for a name, which is quoted
  where names are; its bindings are dropped.
-/

set_option autoImplicit false

namespace SqlBuilder

open Fragment Text

namespace Value

/-- Items in a tuple or a list. -/
def sequence (inTuple : Bool) (items : List Value) : Value :=
  if inTuple then .tuple items else .list items

@[simp] theorem items?_sequence (inTuple : Bool) (items : List Value) :
    (sequence inTuple items).items? = some items := by
  cases inTuple <;> rfl

theorem listed_sequence (inTuple : Bool) (items : List Value) :
    (sequence inTuple items).listed = .ok items := by
  cases inTuple <;> cases items <;> rfl

theorem back_sequence (inTuple : Bool) (items : List Value) (v : Value) :
    (sequence inTuple (items ++ [v])).back = .ok v := by
  cases inTuple <;> simp [sequence, back, chosen]

/-- The name under which a table is written to: of a raw fragment its text. -/
def targeted : Value → Value
  | .raw sql _ => .text sql
  | table => table

end Value

/-- A place for a table in statements. -/
inductive TablePlace where
  /-- Among the tables to select from; the last of them is the one to write to. -/
  | source (s : Statements) (inTuple : Bool) (front back : List Value)
  /-- The table of a join. -/
  | joined (s : Statements) (front : List JoinEntry) (kind : Value) (criteria : List Condition)
      (back : List JoinEntry)
  /-- The first of a table and its alias in a join. -/
  | paired (s : Statements) (front : List JoinEntry) (kind name : Value)
      (criteria : List Condition) (back : List JoinEntry)
  /-- In a further member of a union. -/
  | member (s : Statements) (front : List UnionEntry) (inner : TablePlace) (type : Value)
      (identity : List Nat) (back : List UnionEntry)

namespace TablePlace

/-- The statements with a table in the place. -/
def fill : TablePlace → Value → Statements
  | source s inTuple front back, v =>
    { s with tables := Value.sequence inTuple (front ++ v :: back) }
  | joined s front kind criteria back, v =>
    { s with joins := some (front ++ ⟨kind, v, criteria⟩ :: back) }
  | paired s front kind name criteria back, v =>
    { s with joins := some (front ++ ⟨kind, .tuple [v, name], criteria⟩ :: back) }
  | member s front inner type identity back, v =>
    { s with unions := some (front ++ ⟨inner.fill v, type, identity⟩ :: back) }

/-- The operation reads the place. -/
def isRead (op : Operation) : TablePlace → Bool
  | source _ _ _ back =>
    match op with
    | .select => true
    | .criteria => false
    | _ => back.isEmpty
  | joined .. | paired .. => op = .select || op = .update || op = .delete
  | member .. => op = .select

/-- What is written for the table, its alias aside. -/
def written (a : Adapter) (op : Operation) : TablePlace → Value → Fragment
  | source .., v => if op = .select then a.nameFragment v else ofText (a.wrap v.targeted)
  | joined .., v => a.nameFragment v
  | paired .., v => ofText (a.wrap v)
  | member _ _ inner _ _ _, v => inner.written a op v

/-- The alias that is looked up for the table, if one is. -/
def aliasOf (op : Operation) : TablePlace → Value → Result Value
  | source s .., v =>
    match op with
    | .select => if v.isRaw then .ok .null else s.aliasOf v
    | .update => s.aliasOf v.targeted
    | _ => .ok .null
  | joined .., _ | paired .., _ => .ok .null
  | member _ _ inner _ _ _, v => inner.aliasOf op v

/-- A single table with an alias, of which something is written. -/
structure Fits (a : Adapter) (op : Operation) (p : TablePlace) (name : Result Value) (v : Value) :
    Prop where
  alias_eq : p.aliasOf op v = name
  single : ∀ items, v ≠ .tuple items
  visible : Visible (p.written a op v).sql.toList

/-- A raw fragment keeps its text and its bindings in the place. -/
def Keeps (a : Adapter) (op : Operation) (sql : String) (bindings : List Value) :
    TablePlace → Prop
  | source .. => op = .select ∨ (bindings = [] ∧ a.wrapText sql = sql)
  | joined .. => True
  | paired .. => bindings = []
  | member _ _ inner _ _ _ => inner.Keeps a op sql bindings

theorem written_raw_iff (a : Adapter) (op : Operation) (p : TablePlace) (sql : String)
    (bindings : List Value) :
    p.written a op (.raw sql bindings) = ⟨sql, bindings⟩ ↔ p.Keeps a op sql bindings := by
  induction p with
  | source =>
    by_cases hop : op = .select
    · simp [written, Keeps, hop, Adapter.nameFragment]
    · simp [written, Keeps, hop, ofText, Value.targeted, Adapter.wrap, Value.toText, eq_comm,
        and_comm]
  | joined => simp [written, Keeps, Adapter.nameFragment]
  | paired => simp [written, Keeps, ofText, Adapter.wrap, eq_comm]
  | member _ _ _ _ _ _ ih => exact ih

end TablePlace

namespace Adapter

open TablePlace

/-! ## Tables with an alias -/

/-- A table with its alias in small letters, and that alias or null. -/
def withAlias (a : Adapter) (table : Fragment) (name : Result Value) :
    Result (Fragment × Value) := do
  match ← name with
  | .null => pure (table, .null)
  | name =>
    let name ← name.lower
    pure (table ++ ofText (" AS " ++ a.wrap name), name)

variable {α : Type} {w : α → Fragment} (a : Adapter)

theorem uniform_withAlias {f : α → Fragment} (hf : Framed w f) (name : Result Value) :
    Uniform (NamedTables w) fun x => a.withAlias (f x) name := by
  refine .read name fun name => ?_
  split
  · exact .ok ⟨f, .null, hf, fun _ => rfl⟩
  · exact .read _ fun name => .ok ⟨_, name, hf.append_const _, fun _ => rfl⟩

/-- A name with its alias, which does not vary. -/
theorem uniform_aliasedTable {s : Statements} {table : α → Value} {name : Result Value}
    (hname : ∀ x, s.aliasOf (table x) = name) :
    Uniform (fun g => ∃ (f : α → String) (qualifier : Value),
        Framed (fun x => ofText (a.wrap (table x))) (fun x => ofText (f x)) ∧
          ∀ x, g x = (f x, qualifier))
      fun x => a.aliasedTable s (table x) := by
  simp only [aliasedTable, hname]
  refine .read name fun name => ?_
  split
  · exact .ok ⟨_, .null, .self _, fun _ => rfl⟩
  · refine .read _ fun name => .ok ⟨_, name, ?_, fun _ => rfl⟩
    exact ((Framed.self _).append_const (ofText (" AS " ++ a.wrap name))).congr fun x => by
      simp [String.append_assoc]

/-! ## Selects -/

theorem tableFragment_of_not_raw (s : Statements) {v : Value} (h : v.isRaw = false) :
    a.tableFragment s v = a.aliasedTable s v >>= fun p => pure (ofText p.1, p.2) := by
  cases v <;> first | rfl | simp [Value.isRaw] at h

theorem aliasedTable_alone {s : Statements} {table : Value} (h : s.aliasOf table = .ok .null) :
    a.aliasedTable s table = .ok (a.wrap table, .null) := by
  rw [aliasedTable, h]
  rfl

theorem aliasedTable_named {s : Statements} {table : Value} {name : String}
    (h : s.aliasOf table = .ok (.text name)) :
    a.aliasedTable s table =
      .ok (a.wrap table ++ " AS " ++ a.wrap (.text (lower name)), .text (lower name)) := by
  rw [aliasedTable, h]
  rfl

theorem tableFragment_eq {s : Statements} {inTuple : Bool} {front back : List Value}
    {name : Result Value} {v : Value} (h : (source s inTuple front back).Fits a .select name v) :
    a.tableFragment s v = a.withAlias (a.nameFragment v) name := by
  obtain ⟨rfl, -, -⟩ := h
  cases hraw : v.isRaw with
  | true =>
    obtain ⟨sql, bindings, rfl⟩ := Value.exists_eq_raw hraw
    rfl
  | false =>
    have hname : TablePlace.aliasOf .select (source s inTuple front back) v = s.aliasOf v := by
      simp [TablePlace.aliasOf, hraw]
    rw [a.tableFragment_of_not_raw s hraw, hname, nameFragment_of_not_raw hraw, aliasedTable,
      withAlias]
    cases s.aliasOf v with
    | error => rfl
    | ok name =>
      cases name with
      | text | bytes => simp [Value.lower, String.append_assoc]; rfl
      | _ => rfl

/-- The tables to select from, one of which varies. -/
theorem uniform_tableList (s : Statements) (inTuple : Bool) {front back : List Value}
    {hole : α → Value} (h : Uniform (NamedTables w) fun x => a.tableFragment s (hole x)) :
    Uniform (NamedTables w) fun x =>
      a.tableList { s with tables := Value.sequence inTuple (front ++ hole x :: back) } := by
  simp only [tableList, Statements.sources, Value.listed_sequence]
  refine (h.mapM front back).bind ?_
  rintro gs ⟨front, g, back, ⟨f, name, hf, hg⟩, hgs⟩
  have htables : Among (Framed w) fun x => (gs x).map Prod.fst :=
    ⟨front.map Prod.fst, f, back.map Prod.fst, hf, fun x => by simp [hgs, hg]⟩
  obtain ⟨last, hlast⟩ : ∃ last, ∀ x, ((gs x).getLast?.map Prod.snd).getD .null = last := by
    rcases List.eq_nil_or_concat back with rfl | ⟨back, t, rfl⟩
    · exact ⟨name, fun x => by simp [hgs, hg]⟩
    · exact ⟨t.2, fun x => by simp [hgs, List.getLast?_cons, List.getLast?_append]⟩
  exact .ok ⟨_, last, .intercalate htables ",", fun x => congrArg (Prod.mk _) (hlast x)⟩

/-- The table of a join. -/
theorem uniform_joinClause {kind : Value} {criteria : List Condition} {table : α → Value}
    (hw : ∀ x, Visible (w x).sql.toList)
    (h : Uniform (Framed w) fun x => a.joinTable (table x)) :
    Uniform (Framed w) fun x => a.joinClause ⟨kind, table x, criteria⟩ := by
  simp only [joinClause_eq]
  exact h.bind fun f hf => .read _ fun criteria => .read _ fun word =>
    .ok (.concatenate ⟨[ofText word, ofText "JOIN"], f, [criteria], hf, fun _ => rfl⟩ hw)

theorem joinTable_of_single {v : Value} (h : ∀ items, v ≠ .tuple items) :
    a.joinTable v = .ok (a.nameFragment v) := by
  cases v <;> first | rfl | exact absurd rfl (h _)

section Places

variable {v : α → Value} {op : Operation} {name : Result Value}

/-- The place is the table of a join. -/
theorem uniform_joined {s : Statements} {front : List JoinEntry} {kind : Value}
    {criteria : List Condition} {back : List JoinEntry}
    (hv : ∀ x, (joined s front kind criteria back).Fits a op name (v x)) :
    Uniform (Framed fun x => a.nameFragment (v x))
      fun x => a.joinList ((joined s front kind criteria back).fill (v x)) := by
  refine a.uniform_joinList s (fun _ => rfl) (a.uniform_joinClause (fun x => (hv x).visible) ?_)
  exact Uniform.congr (.ok (.self _)) fun x => a.joinTable_of_single (hv x).single

/-- The place is the first of a table and its alias. -/
theorem uniform_paired {s : Statements} {front : List JoinEntry} {kind name' : Value}
    {criteria : List Condition} {back : List JoinEntry}
    (hv : ∀ x, (paired s front kind name' criteria back).Fits a op name (v x)) :
    Uniform (Framed fun x => ofText (a.wrap (v x)))
      fun x => a.joinList ((paired s front kind name' criteria back).fill (v x)) := by
  refine a.uniform_joinList s (fun _ => rfl) (a.uniform_joinClause (fun x => (hv x).visible) ?_)
  refine .ok (((Framed.self _).append_const (ofText (" AS " ++ a.wrap name'))).congr fun x => ?_)
  simp [String.append_assoc]

/-- A select that reads the place. -/
theorem uniform_select_place (p : TablePlace) (hv : ∀ x, p.Fits a .select name (v x)) :
    Uniform (Framed fun x => p.written a .select (v x)) fun x => a.select (p.fill (v x)) := by
  induction p with
  | source s inTuple front back =>
    have hnamed := a.uniform_withAlias (.self fun x => a.nameFragment (v x)) name
    exact a.uniform_select s (fun _ => rfl) (fun _ => rfl)
      (a.uniform_selectMember_tables s (fun x => (hv x).visible)
        (a.uniform_tableList s inTuple (hnamed.congr fun x => a.tableFragment_eq (hv x))))
  | joined s front kind criteria back =>
    exact a.uniform_select s (fun _ => rfl) (fun _ => rfl)
      (a.uniform_selectMember_joins s (fun x => (hv x).visible) (a.uniform_joined hv))
  | paired s front kind name' criteria back =>
    exact a.uniform_select s (fun _ => rfl) (fun _ => rfl)
      (a.uniform_selectMember_joins s (fun x => (hv x).visible) (a.uniform_paired hv))
  | member s front inner type identity back ih =>
    have hframe : ∀ v, a.dialect.memberFrame (inner.fill v) =
        a.dialect.memberFrame (inner.fill .null) := by
      cases inner <;> exact fun _ => rfl
    have hinner := ih fun x => ⟨(hv x).alias_eq, (hv x).single, (hv x).visible⟩
    exact a.uniform_select_unions s
      (a.uniform_unionList (fun x => hframe (v x)) hinner front back type
        identity)

/-! ## Writing -/

theorem targetTable_source (s : Statements) (inTuple : Bool) (front : List Value) (v : Value)
    (clause : String) :
    targetTable ((source s inTuple front []).fill v) clause = .ok v.targeted := by
  have htables : (Value.sequence inTuple (front ++ [v])).isTrue = true := by
    cases inTuple <;> cases front <;> rfl
  simp only [targetTable, fill, Statements.hasTables, htables, Value.back_sequence]
  cases v <;> rfl

theorem uniform_insert_source {s : Statements} {inTuple : Bool} {front : List Value}
    (hvisible : ∀ x, Visible (a.wrap (v x).targeted).toList) (op : Operation) (data : Value) :
    Uniform (Framed fun x => ofText (a.wrap (v x).targeted))
      fun x => a.insert op ((source s inTuple front []).fill (v x)) data := by
  simp only [insert]
  refine .given (fun x => targetTable_source s inTuple front (v x) _) ?_
  cases data.isTrue with
  | false => exact .error _
  | true =>
    exact .read (rowEntries data) fun row => .read (a.dialect.insertVerb op) fun verb =>
      .read (a.upsert s) fun upsert => .ok (.concatenate
        ⟨[ofText (verb ++ " INTO")], _, [_, _, upsert, _], .self _, fun _ => rfl⟩ hvisible)

theorem uniform_update_source {s : Statements} {inTuple : Bool} {front : List Value}
    (hv : ∀ x, (source s inTuple front []).Fits a .update name (v x)) (data : Value) :
    Uniform (Framed fun x => ofText (a.wrap (v x).targeted))
      fun x => a.update ((source s inTuple front []).fill (v x)) data := by
  simp only [update]
  cases data.isTrue with
  | false => exact .error _
  | true =>
    refine .given (fun x => targetTable_source s inTuple front (v x) _) ?_
    refine (a.uniform_aliasedTable (s := s) fun x => (hv x).alias_eq).bind ?_
    rintro g ⟨f, qualifier, hf, hg⟩
    simp only [hg]
    exact .read (a.joinList s) fun joins => .read _ fun row =>
      .read (a.conditionClause "WHERE" qualifier s.wheres) fun wheres => .read (a.groupClause s)
        fun groups => .read (a.pagingClauses s) fun paging => .ok (.concatenate
          ⟨[_], _, [_, _, _, _] ++ paging, hf, fun _ => rfl⟩ fun x => (hv x).visible)

theorem uniform_delete_source {s : Statements} {inTuple : Bool} {front : List Value}
    (hvisible : ∀ x, Visible (a.wrap (v x).targeted).toList) (columns : Value) :
    Uniform (Framed fun x => ofText (a.wrap (v x).targeted))
      fun x => a.delete ((source s inTuple front []).fill (v x)) columns := by
  simp only [delete]
  refine .given (fun x => targetTable_source s inTuple front (v x) _) ?_
  exact .read (a.deleteColumns columns) fun columns => .read (a.joinList s) fun joins =>
    .read (a.conditionClause "WHERE" .null s.wheres) fun wheres => .read (a.groupClause s)
      fun groups => .read (a.pagingClauses s) fun paging => .ok (.concatenate
        ⟨[_, _, _], _, [_, _, _] ++ paging, .self _, fun _ => rfl⟩ hvisible)

/-- A statement that reads the place. -/
theorem uniform_fragment_place {p : TablePlace} (h : p.isRead op = true)
    (hv : ∀ x, p.Fits a op name (v x)) (payload : List Value) :
    Uniform (Framed fun x => p.written a op (v x))
      fun x => a.fragment op (p.fill (v x)) payload := by
  cases op with
  | criteria => cases p <;> cases h
  | select =>
    cases payload with
    | nil => exact a.uniform_select_place p hv
    | cons => exact .error _
  | insert | insertIgnore | replace =>
    cases p with
    | joined | paired | member => cases h
    | source s inTuple front back =>
      obtain rfl : back = [] := List.isEmpty_iff.1 h
      rcases payload with _ | ⟨data, _ | _⟩
      · exact .error _
      · exact a.uniform_insert_source (fun x => (hv x).visible) _ data
      · exact .error _
  | update =>
    rcases payload with _ | ⟨data, _ | _⟩
    · exact .error _
    · cases p with
      | member => cases h
      | source s inTuple front back =>
        obtain rfl : back = [] := List.isEmpty_iff.1 h
        exact a.uniform_update_source hv data
      | joined s =>
        exact a.uniform_update_joins s (fun x => (hv x).visible) data (a.uniform_joined hv)
      | paired s =>
        exact a.uniform_update_joins s (fun x => (hv x).visible) data (a.uniform_paired hv)
    · exact .error _
  | delete =>
    have hdelete (columns : Value) : Uniform (Framed fun x => p.written a .delete (v x))
        fun x => a.delete (p.fill (v x)) columns := by
      cases p with
      | member => cases h
      | source s inTuple front back =>
        obtain rfl : back = [] := List.isEmpty_iff.1 h
        exact a.uniform_delete_source (fun x => (hv x).visible) columns
      | joined s =>
        exact a.uniform_delete_joins s (fun x => (hv x).visible) columns (a.uniform_joined hv)
      | paired s =>
        exact a.uniform_delete_joins s (fun x => (hv x).visible) columns (a.uniform_paired hv)
    rcases payload with _ | ⟨columns, _ | _⟩
    · exact hdelete .null
    · exact hdelete columns
    · exact .error _

end Places

/-! ## Raw fragments -/

/-- A name of which something can be seen is written so that something can be seen. -/
theorem visible_wrapText {s : String} (h : Visible s.toList) : Visible (a.wrapText s).toList := by
  have hparts : ∀ dotted cs, Visible cs → Visible ((partsFrom dotted cs).flatMap a.writePart) := by
    intro dotted cs h
    induction dotted, cs using partsFrom.induct with
    | case1 cs front rest hcut =>
      rw [partsFrom_dotted hcut, List.flatMap_append, List.flatMap_cons]
      exact (Visible.append_right ⟨'.', by simp [writePart], by decide⟩ _).append_left _
    | case2 cs hcut ih =>
      rw [partsFrom_undotted hcut]
      exact ih h
    | case3 dotted cs hdotted front rest hcut =>
      rw [eq_false_of_ne_true hdotted, partsFrom_as hcut, List.flatMap_append, List.flatMap_cons]
      exact (Visible.append_right ⟨'A', by simp [writePart], by decide⟩ _).append_left _
    | case4 dotted cs hdotted hcut =>
      have hquote : isBlank a.dialect.identifierQuote = false := by cases a.dialect <;> decide
      rw [eq_false_of_ne_true hdotted, partsFrom_plain hcut, List.flatMap_singleton]
      split
      · exact h
      · rw [writePart]
        split
        · exact ⟨_, List.mem_cons_self, hquote⟩
        · exact h
  rw [wrapText, String.toList_ofList]
  exact hparts _ _ h

theorem visible_written_raw (op : Operation) (p : TablePlace) {sql : String}
    (h : Visible sql.toList) (bindings : List Value) :
    Visible (p.written a op (.raw sql bindings)).sql.toList := by
  induction p with
  | source =>
    rw [written]
    split
    · exact h
    · exact a.visible_wrapText h
  | joined | paired => exact h
  | member _ _ _ _ _ _ ih => exact ih

/-- A table is written in one place of the query, whatever it is: what comes before and after
depends on its alias at most, and so do the values that are bound before and after its own. A raw
fragment is one of the tables. It keeps its text and its bindings exactly where `TablePlace.Keeps`
says so: not as the target of an insert, an update or a delete, where its text is written as a name,
and as the first of a table and its alias in a join only if it has no bindings. -/
theorem compile_table {op : Operation} {p : TablePlace} (h : p.isRead op = true)
    (payload : List Value) :
    (∀ name, a.InContext (fun v : { v // p.Fits a op name v } => p.written a op v)
      fun v => a.compile op (p.fill v) payload) ∧
    ∀ sql bindings, Visible sql.toList →
      p.Fits a op (p.aliasOf op (.raw sql bindings)) (.raw sql bindings) ∧
      (p.written a op (.raw sql bindings) = ⟨sql, bindings⟩ ↔ p.Keeps a op sql bindings) := by
  refine ⟨fun name => ?_, fun sql bindings hsql => ⟨?_, written_raw_iff a op p sql bindings⟩⟩
  · exact a.compile_inContext (a.uniform_fragment_place h (fun v => v.2) payload)
  · exact ⟨rfl, by simp, a.visible_written_raw op p hsql bindings⟩

/-- A target that names a partition: its text is quoted as if it were a name. -/
theorem compile_table_of_partition :
    let a : Adapter := ⟨.mysql, true⟩
    let p : TablePlace := .source .empty false [] []
    let table : Value := .raw "t PARTITION (p0)" []
    p.isRead .delete = true ∧ Visible "t PARTITION (p0)".toList ∧
    p.Fits a .delete (.ok .null) table ∧
    p.written a .delete table ≠ ⟨"t PARTITION (p0)", []⟩ ∧
    a.InContext (fun v : { v // p.Fits a .delete (.ok .null) v } => p.written a .delete v)
      (fun v => a.compile .delete (p.fill v) []) ∧
    a.compile .delete (p.fill table) [] = .ok
      { sql := .text "DELETE FROM `t PARTITION (p0)`"
        bindings := .positional []
        adapter := some a } := by
  intro a p table
  have hvisible : Visible "t PARTITION (p0)".toList := ⟨'t', by decide, by decide⟩
  have hquoted : a.wrapText "t PARTITION (p0)" = "`t PARTITION (p0)`" := by cbv
  have hread : p.isRead .delete = true := rfl
  obtain ⟨hcontext, hraw⟩ := compile_table a hread []
  obtain ⟨hfits, hkeeps⟩ := hraw "t PARTITION (p0)" [] hvisible
  refine ⟨rfl, hvisible, hfits, mt hkeeps.1 ?_, hcontext _, ?_⟩
  · rintro (h | ⟨-, h⟩)
    · cases h
    · rw [hquoted] at h
      exact absurd h (by decide)
  · cbv

end Adapter

end SqlBuilder
