import Mathlib.Data.String.Basic
import SqlBuilder.Proofs.Edits.Sparing
import SqlBuilder.Proofs.Prefix.TableNames
import SqlBuilder.Proofs.Splicing.Tables

/-!
# Orderings and joins that replace others

A builder in overwrite mode orders by a field once and joins a table once, as it was asked last.
A `NamingCall` is a call of `order_by`, `order_by_desc` or of a method that joins; what it names are
fields with directions (`NamingCall.orders`), or a table with a kind and criteria
(`NamingCall.joins`).

* `latest`: the entries of a log that no later one with the same key follows. A new entry takes the
  place of the one with its key (`latest_concat`).
* `Statements.Names`: the orderings and joins of statements are the latest that were named. One more
  of either keeps that (`Names.addOrder`, `Names.addJoin`), and so does a call
  (`NamingCall.perform_names`).
* `named_last`: so it is after any calls.
-/

set_option autoImplicit false

namespace SqlBuilder

open Session Builder

/-! ## The latest entries -/

section

variable {α β κ : Type} [DecidableEq κ] (key : α → κ)

/-- The entries that no later one with the same key follows. -/
def latest : List α → List α
  | [] => []
  | x :: xs => if key x ∈ xs.map key then latest xs else x :: latest xs

theorem latest_sublist (xs : List α) : (latest key xs).Sublist xs := by
  induction xs with
  | nil => exact .slnil
  | cons x xs ih =>
    rw [latest]
    split
    · exact ih.cons x
    · exact ih.cons_cons x

/-- No two of them have the same key. -/
theorem pairwise_latest (xs : List α) : (latest key xs).Pairwise fun x y => key x ≠ key y := by
  induction xs with
  | nil => exact .nil
  | cons x xs ih =>
    rw [latest]
    split
    · exact ih
    · rename_i hx
      refine .cons (fun y hy heq => hx ?_) ih
      exact heq ▸ List.mem_map_of_mem ((latest_sublist key xs).subset hy)

/-- One more entry comes last, and the one with its key goes. -/
theorem latest_concat (xs : List α) (e : α) :
    latest key (xs ++ [e]) = (latest key xs).eraseP (fun x => decide (key x = key e)) ++ [e] := by
  induction xs with
  | nil => rfl
  | cons x xs ih =>
    have hmem : key x ∈ (xs ++ [e]).map key ↔ key x ∈ xs.map key ∨ key x = key e := by simp
    rw [List.cons_append, latest, latest, ih]
    by_cases hx : key x ∈ xs.map key
    · rw [if_pos (hmem.2 (.inl hx)), if_pos hx]
    · rw [if_neg hx]
      by_cases he : key x = key e
      · have hothers : ∀ y ∈ latest key xs, ¬ decide (key y = key e) = true := by
          intro y hy hye
          refine hx (he.trans (of_decide_eq_true hye).symm ▸ List.mem_map_of_mem ?_)
          exact (latest_sublist key xs).subset hy
        rw [if_pos (hmem.2 (.inr he)), List.eraseP_of_forall_not hothers, List.eraseP_cons,
          decide_eq_true he]
        rfl
      · rw [if_neg fun h => (hmem.1 h).elim hx he, List.eraseP_cons, decide_eq_false he]
        rfl

/-! Entries are told apart by their keys. -/

variable {key} {entry : α → β} {same : β → β → Option Bool}
  (hsame : ∀ x y, same (entry x) (entry y) = some (decide (key x = key y)))
include hsame

/-- So an entry is replaced by a test for its key. -/
theorem replaced_latest (xs : List α) (e : α) :
    ∃ old, Statements.replaced? true (same · (entry e)) ((latest key xs).map entry) = some old ∧
      old ++ [entry e] = (latest key (xs ++ [e])).map entry := by
  have herased (ys : List α) : eraseFirst? (same · (entry e)) (ys.map entry) =
      some ((ys.eraseP fun x => decide (key x = key e)).map entry) := by
    induction ys with
    | nil => rfl
    | cons y ys ih =>
      rw [List.map_cons, eraseFirst?, hsame, ih]
      by_cases hy : key y = key e <;> simp [hy]
  refine ⟨_, herased _, ?_⟩
  rw [latest_concat, List.map_append]
  rfl

/-- No two of them are the same. -/
theorem distinct_latest (xs : List α) :
    ((latest key xs).map entry).Pairwise fun e e' => same e e' = some false := by
  rw [List.pairwise_map]
  exact (pairwise_latest key xs).imp fun hne =>
    (hsame _ _).trans (congrArg some (decide_eq_false hne))

end

/-! ## Names -/

/-- The name of a field with a prefix, if it begins with that of a table. -/
def fieldUnder (t n : String) : String := if n.toList.contains '.' then t ++ n else n

/-- A field to order by: a name, or a raw fragment without bindings. -/
inductive FieldName where
  | name (n : String)
  | raw (sql : String)
  deriving DecidableEq

namespace FieldName

/-- The field as an argument. -/
def value : FieldName → Value
  | name n => .text n
  | raw sql => .raw sql []

/-- The field with a prefix. -/
def under (t : String) : FieldName → FieldName
  | name n => name (fieldUnder t n)
  | raw sql => raw sql

theorem equal?_value (f g : FieldName) : f.value.equal? g.value = some (decide (f = g)) := by
  cases f <;> cases g
  case raw.raw sql sql' =>
    by_cases h : sql = sql' <;> simp [value, Value.equal?, Value.equalAll?, h]
  all_goals
    simp [value, Value.equal?, Value.equalScalar?, Value.number?, Value.identical,
      Bool.beq_eq_decide_eq]

end FieldName

/-- A table to join, alone or in a pair with its alias. -/
inductive TableName where
  | single (n : String)
  | pair (n name : String)
  deriving DecidableEq

namespace TableName

/-- The table as statements hold it. -/
def value : TableName → Value
  | single n => .text n
  | pair n name => .tuple [.text n, .text name]

/-- The table as an argument, a pair in a tuple or a list. -/
def argument (inTuple : Bool) : TableName → Value
  | single n => .text n
  | pair n name => Value.sequence inTuple [.text n, .text name]

/-- The table with a prefix. -/
def under (t : String) : TableName → TableName
  | single n => single (t ++ n)
  | pair n name => pair (t ++ n) name

theorem equal?_value (u v : TableName) : u.value.equal? v.value = some (decide (u = v)) := by
  cases u <;> cases v
  case pair.pair n name n' name' =>
    by_cases hn : n = n' <;> by_cases hname : name = name' <;>
      simp [value, Value.equal?, Value.equalAll?, Value.equalScalar?, Value.identical, Value.alike,
        Value.allMet, hn, hname]
  all_goals
    simp [value, Value.equal?, Value.equalScalar?, Value.number?, Value.identical,
      Bool.beq_eq_decide_eq]

end TableName

/-- The prefix puts `t` in front of names. -/
def Value.Puts (p : Value) (t : String) : Prop := p = .text t ∨ p.isTrue = false ∧ t = ""

namespace Value.Puts

variable {p : Value} {t : String}

/-- Either the prefix counts as true, or there is nothing in front of a name. -/
theorem cases (h : p.Puts t) : p.isTrue = true ∧ p = .text t ∨ p.isTrue = false ∧ t = "" := by
  cases htrue : p.isTrue with
  | true =>
    obtain rfl | ⟨hfalse, -⟩ := h
    · exact .inl ⟨rfl, rfl⟩
    · rw [hfalse] at htrue
      cases htrue
  | false =>
    obtain rfl | ⟨-, hnone⟩ := h
    · exact .inr ⟨rfl, by simpa [Value.isTrue] using htrue⟩
    · exact .inr ⟨rfl, hnone⟩

theorem nameWith_text (h : p.Puts t) (mixed : Bool) (n : String) :
    nameWith (.ok p) mixed (.text n) =
      .ok (.text (if mixed && !n.toList.contains '.' then n else t ++ n)) := by
  show prefixed p mixed (.text n) = _
  obtain ⟨htrue, rfl⟩ | ⟨hfalse, rfl⟩ := h.cases
  · unfold prefixed
    rw [if_neg (by simp [htrue])]
    show prefixedName (.text t) mixed (.text n) = _
    rw [prefixedName]
    split <;> rfl
  · rw [prefixed_of_not_true hfalse, String.empty_append, ite_self]

theorem nameWith_fieldName (h : p.Puts t) (n : String) :
    nameWith (.ok p) true (.text n) = .ok (.text (fieldUnder t n)) := by
  rw [h.nameWith_text, fieldUnder]
  cases n.toList.contains '.' <;> simp

theorem nameWith_field (h : p.Puts t) (f : FieldName) :
    nameWith (.ok p) true f.value = .ok (f.under t).value := by
  cases f with
  | name n => exact h.nameWith_fieldName n
  | raw sql =>
    show prefixed p true (.raw sql []) = _
    unfold prefixed
    split <;> rfl

theorem joinedWith_table (h : p.Puts t) (u : TableName) (inTuple : Bool) :
    joinedWith (.ok p) (u.argument inTuple) = .ok (u.under t).value := by
  cases u with
  | single n => exact h.nameWith_text false n
  | pair n name =>
    have hpair : joinedWith (.ok p) ((TableName.pair n name).argument inTuple) = (do
        pure (.tuple [← nameWith (.ok p) false (.text n), .text name])) := by
      cases inTuple <;> rfl
    rw [hpair, h.nameWith_text]
    rfl

end Value.Puts

/-! ## What statements hold -/

/-- A field that is named to order by, with a direction. -/
structure OrderNaming where
  field : FieldName
  direction : String

/-- A field with a direction, which is written in capitals. -/
def OrderNaming.of (t : String) (e : FieldName × Value) : OrderNaming :=
  ⟨e.1.under t, Text.upper e.2.toText⟩

/-- The entry of the ordering. -/
def OrderNaming.entry (n : OrderNaming) : OrderEntry := ⟨n.field.value, .text n.direction⟩

/-- Two orderings are by the same field. -/
def OrderEntry.same? (e e' : OrderEntry) : Option Bool := e.field.equal? e'.field

theorem OrderNaming.same_entry (m n : OrderNaming) :
    m.entry.same? n.entry = some (decide (m.field = n.field)) :=
  m.field.equal?_value n.field

/-- A table that is named to join, with the kind of the join and its criteria. -/
structure JoinNaming where
  table : TableName
  kind : String
  criteria : List Condition

/-- The entry of the join. -/
def JoinNaming.entry (n : JoinNaming) : JoinEntry := ⟨.text n.kind, n.table.value, n.criteria⟩

/-- Two joins are with the same table. -/
def JoinEntry.same? (e e' : JoinEntry) : Option Bool := e.table.equal? e'.table

theorem JoinNaming.same_entry (m n : JoinNaming) :
    m.entry.same? n.entry = some (decide (m.table = n.table)) :=
  m.table.equal?_value n.table

/-- The statements hold the orderings and joins that were named last. -/
structure Statements.Names (st : Statements) (orders : List OrderNaming) (joins : List JoinNaming) :
    Prop where
  orders : st.orderBys.getD [] = (latest OrderNaming.field orders).map OrderNaming.entry
  joins : st.joins.getD [] = (latest JoinNaming.table joins).map JoinNaming.entry

namespace Statements.Names

variable {st : Statements} {orders : List OrderNaming} {joins : List JoinNaming}

theorem addOrder (h : st.Names orders joins) (n : OrderNaming) :
    ∃ st', st.addOrder? true n.entry = some st' ∧ st'.Names (orders ++ [n]) joins := by
  obtain ⟨old, hold, hnew⟩ := replaced_latest OrderNaming.same_entry orders n
  refine ⟨{ st with orderBys := some (old ++ [n.entry]) }, ?_, hnew, h.joins⟩
  rw [Statements.addOrder?, h.orders]
  show replaced? true (OrderEntry.same? · n.entry) _ >>= _ = _
  rw [hold]
  rfl

theorem addJoin (h : st.Names orders joins) (n : JoinNaming) :
    ∃ opened, st.openJoins? true n.table.value = some opened ∧
      Names { opened with joins := some (opened.joins.getD [] ++ [n.entry]) } orders
        (joins ++ [n]) := by
  obtain ⟨old, hold, hnew⟩ := replaced_latest JoinNaming.same_entry joins n
  refine ⟨{ st with joins := some old }, ?_, h.orders, hnew⟩
  rw [Statements.openJoins?, h.joins]
  show replaced? true (JoinEntry.same? · n.entry) _ >>= _ = _
  rw [hold]
  rfl

/-- No two orderings have the same field. -/
theorem orders_distinct (h : st.Names orders joins) :
    (st.orderBys.getD []).Pairwise fun e e' => e.field.equal? e'.field = some false := by
  rw [h.orders]
  exact distinct_latest OrderNaming.same_entry orders

/-- No two joins have the same table. -/
theorem joins_distinct (h : st.Names orders joins) :
    (st.joins.getD []).Pairwise fun e e' => e.table.equal? e'.table = some false := by
  rw [h.joins]
  exact distinct_latest JoinNaming.same_entry joins

end Statements.Names

/-! ## Calls -/

/-- Fields to order by: one, some in a list or a tuple, or the keys of a map to directions. -/
inductive OrderArgument where
  | single (field : FieldName)
  | several (inTuple : Bool) (fields : List FieldName)
  | mapped (entries : List (FieldName × Value))

namespace OrderArgument

/-- The argument itself. -/
def value : OrderArgument → Value
  | single field => field.value
  | several inTuple fields => Value.sequence inTuple (fields.map FieldName.value)
  | mapped entries => .map (entries.map fun e => (e.1.value, e.2))

/-- The fields, each with its direction. -/
def fields (direction : Value) : OrderArgument → List (FieldName × Value)
  | single field => [(field, direction)]
  | several _ fields => fields.map (·, direction)
  | mapped entries => entries

theorem orderings_value (arg : OrderArgument) (direction : Value) :
    orderings arg.value direction = (arg.fields direction).map fun e => (e.1.value, e.2) := by
  cases arg with
  | single field => cases field <;> rfl
  | several inTuple fields =>
    have hitems : orderings (Value.sequence inTuple (fields.map FieldName.value)) direction =
        (fields.map FieldName.value).map (·, direction) := by
      cases inTuple <;> rfl
    rw [value, hitems, OrderArgument.fields, List.map_map, List.map_map]
    rfl
  | mapped entries => rfl

end OrderArgument

/-- What the conditions of a join are collected from: a callback or a comparison, whose key may be
left out, or columns that both tables have. -/
inductive JoinCriteria where
  | compared (key : Operand) (operator value : Value)
  | shared (columns : Value)

namespace JoinCriteria

/-- The conditions of a callback, of a comparison, or none. -/
def given (b : Nat) (key : Operand) (operator value : Value) : Action (List Condition) :=
  match key with
  | .value .null => pure []
  | .callback _ f => collected b .join f
  | key => collected b .join fun j => on j key.plain operator value (.text "AND")

/-- Collects the conditions. -/
def collect (b : Nat) : JoinCriteria → Action (List Condition)
  | compared key operator value => given b key operator value
  | shared columns => collected b .join fun j => onShared j columns

/-- The callback minds its own builder. -/
def Minds : JoinCriteria → Prop
  | compared key _ _ => key.Minds
  | shared _ => True

theorem sparing_given (b : Nat) {key : Operand} (h : key.Minds) (operator value : Value) :
    Sparing (given b key operator value) := by
  unfold given
  split
  · exact .pure _
  · exact sparing_collected b .join h
  · exact sparing_collected b .join (minding_on _ _ _ _)

theorem sparing_collect (b : Nat) {criteria : JoinCriteria} (h : criteria.Minds) :
    Sparing (criteria.collect b) := by
  cases criteria with
  | compared key operator value => exact sparing_given b h operator value
  | shared columns => exact sparing_collected b .join (minding_onShared columns)

end JoinCriteria

/-- A call that names fields to order by or a table to join. -/
inductive NamingCall where
  | order (fields : OrderArgument) (direction : Value)
  | join (kind : String) (table : TableName) (inTuple : Bool) (criteria : JoinCriteria)

namespace NamingCall

/-- The call itself. -/
def perform (b : Nat) : NamingCall → Action Unit
  | order fields direction => orderBy b fields.value direction
  | join kind table inTuple (.compared key operator value) =>
    Builder.join b (.text kind) (table.argument inTuple) key operator value
  | join kind table inTuple (.shared columns) =>
    joinUsing b (.text kind) (table.argument inTuple) columns

/-- The criteria that the call collects. -/
def criteria (b : Nat) : NamingCall → Action (List Condition)
  | order _ _ => pure []
  | join _ _ _ criteria => criteria.collect b

/-- The callback of the call minds its own builder. -/
def Minds : NamingCall → Prop
  | order _ _ => True
  | join _ _ _ criteria => criteria.Minds

/-- The session after calls. A call that fails is followed by the next one. -/
def after (r : Reaction) (b : Nat) (calls : List NamingCall) (s : Session) : Session :=
  calls.foldl (fun s call => (runIn r (call.perform b) s).2) s

/-- The orderings that the call names. -/
def orders (t : String) : NamingCall → List OrderNaming
  | order fields direction => (fields.fields direction).map (OrderNaming.of t)
  | join .. => []

/-- The join that the call names, with what it collects. -/
def joined? (t : String) (collected : Result (List Condition)) : NamingCall → Option JoinNaming
  | order _ _ => none
  | join kind table _ _ => collected.toOption.map (⟨table.under t, Text.lower kind, ·⟩)

/-- The joins that calls name. -/
def joins (r : Reaction) (b : Nat) (t : String) : List NamingCall → Session → List JoinNaming
  | [], _ => []
  | call :: calls, s =>
    (call.joined? t (runIn r (call.criteria b) s).1).toList ++
      joins r b t calls (runIn r (call.perform b) s).2

theorem perform_join (b : Nat) (kind : String) (table : TableName) (inTuple : Bool)
    (criteria : JoinCriteria) :
    (NamingCall.join kind table inTuple criteria).perform b =
      criteria.collect b >>= addJoin b (.text kind) (table.argument inTuple) := by
  cases criteria with
  | shared columns => rfl
  | compared key operator value =>
    cases key with
    | callback identity f => rfl
    | value v => cases v <;> rfl

end NamingCall

/-! ## Runs -/

section

variable {r : Reaction} {s : Session} {b : Nat} {x : Builder} {p : Value} {t : String}
  {st : Statements} {orders : List OrderNaming} {joins : List JoinNaming}

/-- Fields are added one after another. -/
theorem carry_orders (ht : p.Puts t) (fields : List (FieldName × Value))
    (hst : st.Names orders joins) :
    ∃ st', carry ((fields.map fun e => (e.1.value, e.2)).flatMap fun (field, direction) =>
        [fun st => do
          let field ← nameWith (.ok p) true field
          st.tried (·.addOrder? true ⟨field, .text (Text.upper direction.toText)⟩)]) st =
        (.ok (), st') ∧
      st'.Names (orders ++ fields.map (OrderNaming.of t)) joins := by
  induction fields generalizing st orders with
  | nil => exact ⟨st, rfl, by simpa using hst⟩
  | cons e fields ih =>
    obtain ⟨st₁, hadded, h₁⟩ := hst.addOrder (.of t e)
    obtain ⟨st₂, hcarry, h₂⟩ := ih h₁
    refine ⟨st₂, ?_, by simpa using h₂⟩
    have hedit : (do
        let field ← nameWith (.ok p) true e.1.value
        st.tried (·.addOrder? true ⟨field, .text (Text.upper e.2.toText)⟩)) = .ok st₁ := by
      rw [ht.nameWith_field]
      exact Statements.tried_some (·.addOrder? true (OrderNaming.of t e).entry) hadded
    rw [List.map_cons, List.flatMap_cons, List.singleton_append, carry_cons_ok hedit]
    exact hcarry

/-- A join is added. -/
theorem carry_join (ht : p.Puts t) (kind : String) (table : TableName) (inTuple : Bool)
    (cs : List Condition) (hst : st.Names orders joins) :
    ∃ st', carry (joinEdits (.ok p) true (.text kind) (table.argument inTuple) cs) st =
        (.ok (), st') ∧
      st'.Names orders (joins ++ [⟨table.under t, Text.lower kind, cs⟩]) := by
  obtain ⟨opened, hopened, hnames⟩ := hst.addJoin ⟨table.under t, Text.lower kind, cs⟩
  refine ⟨_, ?_, hnames⟩
  have hopen := Statements.tried_some (·.openJoins? true (table.under t).value) hopened
  rw [joinEdits, ht.joinedWith_table]
  exact (carry_cons_ok hopen).trans rfl

namespace NamingCall

/-- A call returns just if it can collect its criteria, and then what it names is named last. -/
theorem perform_names (h : s.Overwriting b x p st) (hnames : st.Names orders joins)
    (ht : p.Puts t) {call : NamingCall} (hcall : call.Minds) :
    (runIn r (call.perform b) s).1 = (runIn r (call.criteria b) s).1.map (fun _ => ()) ∧
      ∃ st', (runIn r (call.perform b) s).2.Overwriting b x p st' ∧
        st'.Names (orders ++ call.orders t)
          (joins ++ (call.joined? t (runIn r (call.criteria b) s).1).toList) := by
  cases call with
  | order fields direction =>
    obtain ⟨st', hcarry, hnames'⟩ := carry_orders ht (fields.fields direction) hnames
    rw [← fields.orderings_value] at hcarry
    obtain ⟨_, -, hrun⟩ := h.carried (r := r) (makes_orderBy fields.value direction) hcarry
    rw [perform, hrun, NamingCall.criteria, NamingCall.orders, joined?]
    exact ⟨rfl, st', h.revised st', (List.append_nil joins).symm ▸ hnames'⟩
  | join kind table inTuple criteria =>
    have hspared := (criteria.sparing_collect b hcall s r s (.refl s)).1
    rw [perform_join, runIn_bind, NamingCall.criteria, NamingCall.orders, List.append_nil]
    generalize runIn r (criteria.collect b) s = q at hspared
    have hs := h.spared hspared
    obtain ⟨f | cs, s₁⟩ := q
    · exact ⟨rfl, st, hs, (List.append_nil joins).symm ▸ hnames⟩
    · obtain ⟨st', hcarry, hnames'⟩ := carry_join ht kind table inTuple cs hnames
      obtain ⟨_, -, hrun⟩ := hs.carried (r := r)
        (makes_addJoin (.text kind) (table.argument inTuple) cs) hcarry
      dsimp only
      rw [hrun]
      exact ⟨rfl, st', hs.revised st', hnames'⟩

/-- So it is with calls one after another. -/
theorem after_names (h : s.Overwriting b x p st) (hnames : st.Names orders joins) (ht : p.Puts t)
    {calls : List NamingCall} (hcalls : ∀ call ∈ calls, call.Minds) :
    ∃ st', (after r b calls s).Overwriting b x p st' ∧
      st'.Names (orders ++ calls.flatMap (·.orders t))
        (joins ++ NamingCall.joins r b t calls s) := by
  induction calls generalizing s st orders joins with
  | nil => exact ⟨st, h, by simpa [NamingCall.joins] using hnames⟩
  | cons call calls ih =>
    rw [List.forall_mem_cons] at hcalls
    obtain ⟨-, st₁, h₁, hnames₁⟩ := perform_names (r := r) h hnames ht hcalls.1
    obtain ⟨st₂, h₂, hnames₂⟩ := ih h₁ hnames₁ hcalls.2
    rw [List.append_assoc, List.append_assoc, ← List.flatMap_cons] at hnames₂
    exact ⟨st₂, h₂, hnames₂⟩

end NamingCall

/-- The calls of a builder in overwrite mode leave its fields to order by and its joins without
repetition. They stand in the order in which they were named last, each with the direction, or the
kind and criteria, of the call that did so; a call names what it is about just if it can collect its
criteria, and returns then. -/
theorem named_last {calls : List NamingCall} (hs : s.Overwriting b x p st) (ht : p.Puts t)
    (horders : st.orderBys.getD [] = []) (hjoins : st.joins.getD [] = [])
    (hcalls : ∀ call ∈ calls, call.Minds) :
    (∀ earlier call, earlier ++ [call] <+: calls →
      (runIn r (call.perform b) (NamingCall.after r b earlier s)).1 =
        (runIn r (call.criteria b) (NamingCall.after r b earlier s)).1.map fun _ => ()) ∧
    ∃ st', (NamingCall.after r b calls s).Overwriting b x p st' ∧
      st'.orderBys.getD [] =
        (latest OrderNaming.field (calls.flatMap (·.orders t))).map OrderNaming.entry ∧
      st'.joins.getD [] =
        (latest JoinNaming.table (NamingCall.joins r b t calls s)).map JoinNaming.entry ∧
      ((st'.orderBys.getD []).Pairwise fun e e' => e.field.equal? e'.field = some false) ∧
      ((st'.joins.getD []).Pairwise fun e e' => e.table.equal? e'.table = some false) := by
  have hstart : st.Names [] [] := ⟨horders, hjoins⟩
  constructor
  · intro earlier call hfirst
    have hmem : ∀ c ∈ earlier ++ [call], c.Minds := fun c hc => hcalls c (hfirst.subset hc)
    rw [List.forall_mem_append, List.forall_mem_singleton] at hmem
    obtain ⟨st', h, hnames⟩ := NamingCall.after_names (r := r) hs hstart ht hmem.1
    exact (NamingCall.perform_names h hnames ht hmem.2).1
  · obtain ⟨st', h, hnames⟩ := NamingCall.after_names (r := r) hs hstart ht hcalls
    exact ⟨st', h, hnames.orders, hnames.joins, hnames.orders_distinct, hnames.joins_distinct⟩

end

/-! ## Names that come back -/

/-- A builder in overwrite mode. -/
def overwriter : Builder := { connection := some 0, record := 0, overwrite := .bool true }

/-- A session in which it stands at its start, on a connection with a table prefix. -/
def overwriting : Session where
  connections := #[{
    driver := .ofScenario {}
    scenario := {}
    settings := {}
    adapter := { dialect := .sqlite }
    tablePrefix := .text "p_" }]
  builders := #[overwriter]
  records := #[.empty]
  first := some 0

/-- A field that is repeated in a list, one that a map names again, and a table that is joined
alone, in a pair, and alone again. -/
def repeating : List NamingCall :=
  [.order (.several false [.name "a", .name "t.b", .name "a"]) (.text "asc"),
    .order (.mapped [(.name "t.b", .text "desc"), (.raw "rand()", .text "ASC")]) (.text "ASC"),
    .join "LEFT" (.single "u") false (.compared (.callback 0 fun j =>
      on j (.text "u.a") (.text "=") (.text "t.b") (.text "AND")) .null .null),
    .join "" (.pair "u" "x") true (.shared (.text "id")),
    .join "inner" (.single "u") false (.compared (.value .null) .null .null)]

theorem named_last_of_repeating :
    ∃ st', (NamingCall.after (fun _ _ => pure ()) 0 repeating overwriting).Overwriting 0 overwriter
        (.text "p_") st' ∧
      st'.orderBys.getD [] = [⟨.text "a", .text "ASC"⟩, ⟨.text "p_t.b", .text "DESC"⟩,
        ⟨.raw "rand()" [], .text "ASC"⟩] ∧
      st'.joins.getD [] =
        [⟨.text "", .tuple [.text "p_u", .text "x"],
          [{ Condition.plain .null .null .null (.text "AND USING") with columns := [.text "id"] }]⟩,
        ⟨.text "inner", .text "p_u", []⟩] := by
  have hminds : ∀ call ∈ repeating, call.Minds := by
    simp only [repeating, List.forall_mem_cons]
    exact ⟨trivial, trivial, minding_on _ _ _ _, trivial, trivial, List.forall_mem_nil _⟩
  obtain ⟨-, st', hst', horders, hjoins, -⟩ := @named_last (fun _ _ => pure ())
    overwriting 0 overwriter (.text "p_") "p_" .empty repeating ⟨⟨rfl, rfl⟩, by cbv, rfl⟩
    (.inl rfl) rfl rfl hminds
  refine ⟨st', hst', horders.trans ?_, hjoins.trans ?_⟩
  · cbv
  · cbv

end SqlBuilder
