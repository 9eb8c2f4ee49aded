import SqlBuilder.Builder.Clauses
import SqlBuilder.Proofs.Session.Reading

/-!
# Chains of unions

Statements are flat (`Statements.Flat`) if the members of their union have no unions of their own.
The select of flat statements is a chain: the select without the unions, and a member for each entry
of the union with its operator in front of it (`Adapter.select_eq_chain`). A union with flat
statements puts their further members behind those that are there and their first one last
(`Adapter.chain_addUnion`), so flat statements stay flat (`Statements.Flat.addUnion`). That is what
a union of builders does to the statements of the first one (`runIn_union`).
-/

set_option autoImplicit false

namespace SqlBuilder

/-! ## Flat statements -/

/-- A member of a union without unions of its own, of a type that is known. -/
structure UnionEntry.Single (e : UnionEntry) : Prop where
  unions : e.statements.unions = some []
  type : ∃ name ∈ ValidationCause.unionTypes, e.type = .text name

namespace Statements

/-- The statements without their unions. -/
def alone (s : Statements) : Statements := { s with unions := some [] }

/-- No member of the union has unions of its own. The groupings are a list. -/
structure Flat (s : Statements) : Prop where
  groupings : ∃ fields, s.groupBys = .list fields
  unions : ∃ members, s.unions = some members ∧ ∀ e ∈ members, e.Single

/-- All clauses but the unions may change; groupings that are a list stay one. -/
structure Reshaped (s s' : Statements) : Prop where
  groupings : ∀ fields, s.groupBys = .list fields → ∃ fields', s'.groupBys = .list fields'
  unions : s'.unions = s.unions

namespace Flat

variable {s s' : Statements}

theorem empty : Flat .empty := ⟨⟨[], rfl⟩, [], rfl, nofun⟩

theorem copied_eq (h : s.Flat) : s.copied = .ok s := by
  obtain ⟨fields, hfields⟩ := h.groupings
  obtain ⟨members, hmembers, -⟩ := h.unions
  exact Statements.copied_eq hfields hmembers

theorem reshaped (h : s.Flat) (hs : s.Reshaped s') : s'.Flat := by
  obtain ⟨fields, hfields⟩ := h.groupings
  exact ⟨hs.groupings fields hfields, hs.unions ▸ h.unions⟩

theorem single_toldApartMembers {path : List Nat} {entries : List UnionEntry}
    (h : ∀ e ∈ entries, e.Single) (place : Nat) :
    ∀ e ∈ toldApartMembers path place entries, e.Single := by
  induction entries generalizing place with
  | nil =>
    rw [toldApartMembers]
    exact List.forall_mem_nil _
  | cons e entries ih =>
    obtain ⟨⟨⟩, type, identity⟩ := e
    obtain ⟨⟨hunions, htype⟩, hrest⟩ := List.forall_mem_cons.1 h
    rw [toldApartMembers, List.forall_mem_cons]
    dsimp only at hunions
    subst hunions
    exact ⟨⟨rfl, htype⟩, ih hrest _⟩

theorem toldApart (h : s.Flat) (path : List Nat) : (s.toldApart path).Flat := by
  obtain ⟨fields, hfields⟩ := h.groupings
  obtain ⟨members, hmembers, hsingle⟩ := h.unions
  cases s
  dsimp only at hfields hmembers
  subst hfields hmembers
  exact ⟨⟨fields, rfl⟩, _, rfl, single_toldApartMembers hsingle 0⟩

/-- What a union with flat statements comes to. -/
theorem addUnion_eq {members members' : List UnionEntry} (h' : s'.Flat)
    (hmembers : s.unions = some members) (hmembers' : s'.unions = some members') (type : Value) :
    s.addUnion s' type =
      .ok { s with
        unions := some (members ++ members' ++ [{ statements := s'.alone, type }]) } := by
  rw [Statements.addUnion, h'.copied_eq]
  dsimp only [bind, Except.bind]
  rw [hmembers]
  simp only [hmembers', Option.getD_some]
  rfl

/-- A union of flat statements is flat. -/
theorem addUnion (h : s.Flat) (h' : s'.Flat) {name : String}
    (hname : name ∈ ValidationCause.unionTypes) {union : Statements}
    (hunion : s.addUnion s' (.text name) = .ok union) : union.Flat := by
  obtain ⟨members, hmembers, hsingle⟩ := h.unions
  obtain ⟨members', hmembers', hsingle'⟩ := h'.unions
  rw [h'.addUnion_eq hmembers hmembers', Except.ok.injEq] at hunion
  subst hunion
  refine ⟨h.groupings, _, rfl, fun e he => ?_⟩
  simp only [List.mem_append, List.mem_singleton] at he
  rcases he with (he | he) | rfl
  · exact hsingle e he
  · exact hsingle' e he
  · exact ⟨rfl, name, hname, rfl⟩

end Flat

/-! ### Edits -/

namespace Reshaped

variable {s s' s'' : Statements}

theorem refl (s : Statements) : Reshaped s s := ⟨fun fields h => ⟨fields, h⟩, rfl⟩

/-- Neither groupings nor unions change. -/
theorem of_eq (hgroupings : s'.groupBys = s.groupBys) (hunions : s'.unions = s.unions) :
    Reshaped s s' :=
  ⟨fun fields h => ⟨fields, hgroupings.trans h⟩, hunions⟩

theorem addTables {tables : List Value} (h : s.addTables tables = .ok s') : Reshaped s s' := by
  obtain ⟨_, -, hs⟩ := bind_ok h
  cases hs
  exact of_eq rfl rfl

theorem openAliases : Reshaped s s.openAliases := by
  unfold Statements.openAliases
  split
  · exact of_eq rfl rfl
  · exact .refl s

theorem addAlias {table name : Value} (h : s.addAlias table name = .ok s') : Reshaped s s' := by
  obtain ⟨_, -, hs⟩ := bind_ok h
  cases hs
  exact of_eq rfl rfl

theorem addSelects {overwrite : Bool} {items : List Value}
    (h : s.addSelects overwrite items = .ok s') : Reshaped s s' := by
  obtain ⟨_, -, hs⟩ := bind_ok h
  cases hs
  exact of_eq rfl rfl

theorem addDistincts {overwrite : Bool} {items : List Value}
    (h : s.addDistincts overwrite items = .ok s') : Reshaped s s' := by
  obtain ⟨_, -, hs⟩ := bind_ok h
  cases hs
  exact of_eq rfl rfl

theorem addCondition {list : ConditionList} {overwrite : Bool} {c : Condition}
    (h : s.addCondition? list overwrite c = some s') : Reshaped s s' := by
  obtain ⟨_, -, hs⟩ := Option.bind_eq_some_iff.1 h
  cases hs
  cases list <;> exact of_eq rfl rfl

theorem openJoins {overwrite : Bool} {table : Value}
    (h : s.openJoins? overwrite table = some s') : Reshaped s s' := by
  obtain ⟨_, -, hs⟩ := Option.bind_eq_some_iff.1 h
  cases hs
  exact of_eq rfl rfl

theorem addJoin {overwrite : Bool} {entry : JoinEntry}
    (h : s.addJoin? overwrite entry = some s') : Reshaped s s' := by
  obtain ⟨opened, hopened, hs⟩ := Option.bind_eq_some_iff.1 h
  cases hs
  exact ⟨(openJoins hopened).groupings, (openJoins hopened).unions⟩

theorem addOrder {overwrite : Bool} {entry : OrderEntry}
    (h : s.addOrder? overwrite entry = some s') : Reshaped s s' := by
  obtain ⟨_, -, hs⟩ := Option.bind_eq_some_iff.1 h
  cases hs
  exact of_eq rfl rfl

theorem openGroups (overwrite : Bool) : Reshaped s (s.openGroups overwrite) := by
  unfold Statements.openGroups
  split
  · exact ⟨fun _ _ => ⟨[], rfl⟩, rfl⟩
  · exact .refl s

theorem addGroups {fields : List Value} (h : s.addGroups fields = .ok s') : Reshaped s s' := by
  obtain ⟨groupings, hextended, hs⟩ := bind_ok h
  cases hs
  refine ⟨fun old hold => ?_, rfl⟩
  rw [hold] at hextended
  exact ⟨_, (Except.ok.inj hextended).symm⟩

end Reshaped

end Statements

/-! ## Chains -/

/-- A member of a chain: its select, and the select as it is written in a chain. -/
structure Member where
  query : Fragment
  written : Fragment
  deriving Repr

/-- A first member and further ones, each after its operator. -/
structure Chain where
  first : Member
  further : List (String × Member)
  deriving Repr

namespace Chain

/-- The chain written down. A member that is alone is written as it is. -/
def fragment (c : Chain) : Fragment :=
  if c.further.isEmpty then c.first.query
  else Fragment.intercalate " "
    (c.first.written :: c.further.flatMap fun (operator, m) =>
      [Fragment.ofText operator, m.written])

/-- The selects of all members, in order. -/
def queries (c : Chain) : List Fragment := c.first.query :: c.further.map (·.2.query)

/-- Operators bind nothing. -/
theorem bindings_fragment {c : Chain} (hfirst : c.first.written.bindings = c.first.query.bindings)
    (hfurther : ∀ link ∈ c.further, link.2.written.bindings = link.2.query.bindings) :
    c.fragment.bindings = c.queries.flatMap Fragment.bindings := by
  obtain ⟨first, further⟩ := c
  have hlinks : (further.flatMap fun (operator, m) =>
      [Fragment.ofText operator, m.written]).flatMap Fragment.bindings =
        (further.map (·.2.query)).flatMap Fragment.bindings := by
    induction further with
    | nil => rfl
    | cons link further ih =>
      simp only [List.flatMap_cons, List.flatMap_append, List.map_cons, List.flatMap_nil,
        Fragment.bindings_ofText, List.nil_append, List.append_nil]
      rw [hfurther link List.mem_cons_self, ih hfirst
        fun l hl => hfurther l (List.mem_cons_of_mem _ hl)]
  rw [fragment, queries]
  cases further with
  | nil => exact (List.append_nil _).symm
  | cons link further =>
    rw [List.isEmpty_cons, if_neg Bool.false_ne_true, Fragment.bindings_intercalate,
      List.flatMap_cons, hlinks, hfirst]
    rfl

end Chain

namespace Adapter

variable {a : Adapter} {s s' : Statements}

/-- The statements without their unions, as a member. -/
def member (a : Adapter) (s : Statements) : Result Member := do
  let query ← a.selectMember s
  pure ⟨query, a.asMember s query⟩

/-- An entry of a union, as a member with its operator. -/
def link (a : Adapter) (e : UnionEntry) : Result (String × Member) := do
  let m ← a.member e.statements
  pure (a.dialect.unionOperator e.type, m)

/-- The chain of statements and their unions. -/
def chain (a : Adapter) (s : Statements) : Result Chain := do
  let first ← a.member s
  let further ← (s.unions.getD []).mapM a.link
  pure ⟨first, further⟩

/-- Framing a member binds nothing. -/
theorem bindings_written {m : Member} (h : a.member s = .ok m) :
    m.written.bindings = m.query.bindings := by
  obtain ⟨query, -, hm⟩ := bind_ok h
  cases hm
  rfl

theorem member_alone (a : Adapter) (s : Statements) : a.member s.alone = a.member s := rfl

/-- Without unions there is one member. -/
theorem select_of_single (h : s.unions = some []) : a.select s = a.selectMember s := by
  obtain ⟨⟩ := s
  subst h
  simp only [select, furtherMembers, unionList, pure_bind, List.isEmpty_nil, ↓reduceIte]
  exact bind_pure _

/-- The entries of a flat union are written one after another. -/
theorem unionList_eq {entries : List UnionEntry} (h : ∀ e ∈ entries, e.Single) :
    unionList a entries = (do
      let links ← entries.mapM a.link
      pure (links.flatMap fun (operator, m) => [Fragment.ofText operator, m.written])) := by
  induction entries with
  | nil => rfl
  | cons e entries ih =>
    obtain ⟨statements, type, identity⟩ := e
    rw [unionList, ih fun e he => h e (List.mem_cons_of_mem _ he),
      select_of_single (h _ List.mem_cons_self).unions, List.mapM_cons]
    simp only [link, member, bind_assoc, pure_bind, List.flatMap_cons, List.cons_append,
      List.nil_append]

/-- The select of flat statements is their chain, written down. -/
theorem select_eq_chain (h : s.Flat) : a.select s = (a.chain s).map Chain.fragment := by
  obtain ⟨members, hmembers, hsingle⟩ := h.unions
  have hselect : a.select s = (do
      let member ← a.selectMember s
      let others ← unionList a members
      pure (if others.isEmpty then member
        else Fragment.intercalate " " (a.asMember s member :: others))) := by
    obtain ⟨⟩ := s
    subst hmembers
    simp only [select, furtherMembers]
  rw [hselect, unionList_eq hsingle, chain, member, hmembers, Option.getD_some]
  cases a.selectMember s with
  | error f => rfl
  | ok query =>
    cases members.mapM a.link with
    | error f => rfl
    | ok links =>
      cases links <;> rfl

/-- The chain has a member for the statements and one for each entry of their union, in order. -/
theorem chain_ok_iff {c : Chain} {members : List UnionEntry} (hmembers : s.unions = some members) :
    a.chain s = .ok c ↔ a.member s = .ok c.first ∧ members.mapM a.link = .ok c.further := by
  rw [chain, hmembers, Option.getD_some]
  obtain ⟨first, further⟩ := c
  cases a.member s with
  | error f => simp [Bind.bind, Except.bind]
  | ok m =>
    cases members.mapM a.link with
    | error f => simp [Bind.bind, Except.bind]
    | ok links => simp [Bind.bind, Except.bind, Pure.pure, Except.pure]

/-- What is bound in a chain is what is bound in its members. -/
theorem bindings_fragment {c : Chain} (h : a.chain s = .ok c) :
    c.fragment.bindings = c.queries.flatMap Fragment.bindings := by
  obtain ⟨first, hfirst, hrest⟩ := bind_ok h
  obtain ⟨further, hfurther, hc⟩ := bind_ok hrest
  cases hc
  refine Chain.bindings_fragment (bindings_written hfirst) fun link hlink => ?_
  obtain ⟨e, -, he⟩ := (mapM_ok hfurther).2 link hlink
  obtain ⟨m, hm, hlink⟩ := bind_ok he
  cases hlink
  exact bindings_written hm

/-- The chain of a union: the further members of the other chain, and then its first one. -/
theorem chain_addUnion {c c' : Chain} (h : s.Flat) (h' : s'.Flat) (hc : a.chain s = .ok c)
    (hc' : a.chain s' = .ok c') {type : Value} {union : Statements}
    (hunion : s.addUnion s' type = .ok union) :
    a.chain union = .ok
      ⟨c.first, c.further ++ c'.further ++ [(a.dialect.unionOperator type, c'.first)]⟩ := by
  obtain ⟨members, hmembers, -⟩ := h.unions
  obtain ⟨members', hmembers', -⟩ := h'.unions
  rw [h'.addUnion_eq hmembers hmembers', Except.ok.injEq] at hunion
  subst hunion
  obtain ⟨hfirst, hfurther⟩ := (chain_ok_iff hmembers).1 hc
  obtain ⟨hfirst', hfurther'⟩ := (chain_ok_iff hmembers').1 hc'
  refine (chain_ok_iff rfl).2 ⟨hfirst, ?_⟩
  have hlast : a.link { statements := s'.alone, type } =
      .ok (a.dialect.unionOperator type, c'.first) := by
    rw [link, member_alone, hfirst']
    rfl
  rw [List.mapM_append, List.mapM_append, hfurther, hfurther', List.mapM_cons, hlast]
  rfl

end Adapter

/-! ## Unions of builders -/

open Session

theorem unionType_mem {type : Value} {name : String} (h : Builder.unionType type = .ok name) :
    name ∈ ValidationCause.unionTypes := by
  unfold Builder.unionType at h
  split at h
  · cases h
    exact List.mem_cons_self
  · split at h
    · dsimp only at h
      split at h
      · rename_i hknown
        cases h
        exact List.contains_iff_mem.1 hknown
      · cases h
    · cases h
    · cases h

/-- A builder gets a union with another one. -/
theorem runIn_union {r : Reaction} {s : Session} {b q : Nat} {x y : Builder} {st st' : Statements}
    (hx : s.builders[b]? = some x) (hst : s.records[x.record]? = some st)
    (hy : s.builders[q]? = some y) (hst' : s.records[y.record]? = some st')
    {type : Value} {name : String} (htype : Builder.unionType type = .ok name)
    {union : Statements} (hunion : st.addUnion st' (.text name) = .ok union) (kind : BuilderKind) :
    runIn r (Builder.union b (.builder q kind) type) s =
      (.ok (), { s with records := s.records.modify x.record fun _ => union }) := by
  rw [Builder.union, htype]
  show runIn r (do
    let member ← statementsOf q
    change b (·.addUnion member (.text name))) s = _
  rw [runIn_bind_ok (runIn_statementsOf hy hst'), change,
    runIn_bind_ok (runIn_statementsOf hx hst), hunion]
  show runIn r (edit b fun _ => union) s = _
  rw [edit, runIn_bind_ok (runIn_builder hx)]
  rfl

end SqlBuilder
