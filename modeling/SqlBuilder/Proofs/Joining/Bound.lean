import SqlBuilder.Proofs.Joining.Alike
import SqlBuilder.Proofs.Joining.Collecting

/-!
# What a join binds

`joinedClause` makes a join of the calls of a callback and compiles its clause. What that comes to
is `joinOutcome` of the conditions of the calls.

* `joinedClause_binds_iff`: the clause binds what the calls are given, and the text does not depend
  on it, if and only if nothing of it is lost.
-/

set_option autoImplicit false

namespace SqlBuilder

open Builder Session Adapter

/-- Makes a join on what calls on its builder add, and compiles its clause. -/
def joinedClause (b : Nat) (kind table : Value) (calls : List JoinCall) : Action Fragment := do
  Builder.join b kind table (.callback 0 (JoinCall.performAll calls)) .null .null
  let a ← adapterOf b
  let s ← statementsOf b
  match (s.joins.getD []).getLast? with
  | some join => ofResult (a.joinClause join)
  | none => pure Fragment.empty

/-- The table of a join with the prefix. -/
def Context.joined (ctx : Context) : Value → Result Value
  | .list [main, name] | .tuple [main, name] => do
    let main ← (do prefixed (← ctx.tablePrefix) false main)
    pure (.tuple [main, name])
  | .list _ | .tuple _ => misuse .badValue
  | table => do prefixed (← ctx.tablePrefix) false table

/-- The clause of a join on conditions, which is added to statements. -/
def Context.joinOutcome (ctx : Context) (overwrite : Bool) (st : Statements) (kind table : Value)
    (criteria : List Condition) : Result Fragment := do
  let table ← ctx.joined table
  match st.openJoins? overwrite table with
  | none => misuse .invalidOperation
  | some _ =>
    let kind ← kind.lower
    ctx.adapter.joinClause { kind, table, criteria }

section

variable {s₀ s : Session} {r : Reaction} {b c : Nat} {conn : Connection} {x : Builder}
  {st : Statements}

theorem runIn_joinTable (h : s.Open b c conn) (table : Value) :
    runIn r (Builder.joinTable b table) s = ((s.context conn).joined table, s) := by
  have hpair : ∀ main name : Value, runIn r (do
      pure (.tuple [← addPrefix b main false, name]) : Action Value) s =
        ((do
          let main ← (do prefixed (← (s.context conn).tablePrefix) false main)
          pure (.tuple [main, name])), s) := by
    intro main name
    rw [runIn_bind, runIn_addPrefix h]
    show _ = (s.prefixOf conn >>= (prefixed · false main) >>= _, s)
    cases s.prefixOf conn >>= (prefixed · false main) <;> rfl
  cases table with
  | list items | tuple items =>
    match items with
    | [main, name] => exact hpair main name
    | [] | [_] | _ :: _ :: _ :: _ => rfl
  | _ => exact runIn_addPrefix h _ false

/-- The clause of the join that the statements have last. -/
theorem runIn_lastJoinClause (h : s.Open b c conn) (hx : s.builders[b]? = some x)
    (hst : s.records[x.record]? = some st) {entry : JoinEntry}
    (hlast : (st.joins.getD []).getLast? = some entry) :
    runIn r (do
        let a ← adapterOf b
        let s ← statementsOf b
        match (s.joins.getD []).getLast? with
        | some join => ofResult (a.joinClause join)
        | none => pure Fragment.empty) s = (conn.adapter.joinClause entry, s) := by
  rw [runIn_bind_ok (runIn_adapterOf h), runIn_bind_ok (runIn_statementsOf hx hst), hlast]
  exact runIn_ofResult _ _

/-- The clause of the join that is added last. -/
theorem addJoin_follows (hc : x.connection = some c) (hconn : s₀.connections[c]? = some conn)
    (kind table : Value) (criteria : List Condition) :
    Follows (fun s => Grown s₀ s ∧ s.builders[b]? = some x ∧ s.records[x.record]? = some st)
      (do
        addJoin b kind table criteria
        let a ← adapterOf b
        let s ← statementsOf b
        match (s.joins.getD []).getLast? with
        | some join => ofResult (a.joinClause join)
        | none => pure Fragment.empty)
      ((s₀.context conn).joinOutcome x.overwrite.isTrue st kind table criteria)
      fun f f' _ => f = f' := by
  rintro r s ⟨hgrown, hx, hst⟩
  have hopen : s.Open b c conn := ⟨x, hx, hc, hgrown.connections ▸ hconn⟩
  have hjoined : (s.context conn).joined table = (s₀.context conn).joined table := by
    have htable : (s.context conn).tablePrefix = (s₀.context conn).tablePrefix :=
      hgrown.prefixOf_eq conn
    unfold Context.joined
    rw [htable]
  unfold addJoin Context.joinOutcome
  rw [← hjoined]
  simp only [bind_assoc]
  rw [runIn_bind, runIn_joinTable hopen]
  cases (s.context conn).joined table with
  | error fault => exact .error fault
  | ok table =>
    show Agree _ (runIn r (_ >>= _) s).1 (match st.openJoins? x.overwrite.isTrue table with
      | none => misuse .invalidOperation
      | some _ => do
        let kind ← kind.lower
        conn.adapter.joinClause { kind, table, criteria })
    rw [runIn_bind_ok (runIn_overwrites hx)]
    cases hopened : st.openJoins? x.overwrite.isTrue table with
    | none =>
      cases kind.lower with
      | error f =>
        dsimp only
        rw [bind_assoc, runIn_bind, runIn_tryEdit_none hx hst hopened]
        exact .error _
      | ok kind =>
        have hadded : st.addJoin? x.overwrite.isTrue { kind, table, criteria } = none := by
          rw [Statements.addJoin?, hopened]
          rfl
        dsimp only
        rw [runIn_bind, runIn_tryEdit_none hx hst hadded]
        exact .error _
    | some opened =>
      cases kind.lower with
      | error f =>
        dsimp only
        rw [bind_assoc, runIn_bind_ok (runIn_tryEdit_some hx hst hopened)]
        exact .error _
      | ok kind =>
        let entry : JoinEntry := { kind, table, criteria }
        let added := { opened with joins := some (opened.joins.getD [] ++ [entry]) }
        have hadded : st.addJoin? x.overwrite.isTrue entry = some added := by
          rw [Statements.addJoin?, hopened]
          rfl
        have hrecord : (s.records.modify x.record fun _ => added)[x.record]? = some added := by
          rw [Array.getElem?_modify, if_pos rfl, hst]
          rfl
        have hlast : (added.joins.getD []).getLast? = some entry := List.getLast?_concat
        let s' := { s with records := s.records.modify x.record fun _ => added }
        have hopen' : s'.Open b c conn := hopen
        have hclause := runIn_lastJoinClause (r := r) hopen' hx hrecord hlast
        dsimp only
        rw [runIn_bind_ok (runIn_tryEdit_some hx hst hadded), hclause]
        exact .refl fun _ _ => rfl

/-- The clause is that of the conditions the calls come to. -/
theorem joinedClause_eq (hx : s.builders[b]? = some x) (hc : x.connection = some c)
    (hconn : s.connections[c]? = some conn) (hst : s.records[x.record]? = some st)
    (kind table : Value) {calls : List JoinCall} (hknown : JoinCall.KnownAll s calls) :
    (runIn r (joinedClause b kind table calls) s).1 =
      (JoinCall.conditionsAll (s.context conn) .join calls >>=
        (s.context conn).joinOutcome x.overwrite.isTrue st kind table) := by
  let P : Session → Prop :=
    fun s' => Grown s s' ∧ s'.builders[b]? = some x ∧ s'.records[x.record]? = some st
  have hcollected : Follows P (collected b .join (JoinCall.performAll calls))
      (JoinCall.conditionsAll (s.context conn) .join calls) fun ds ds' s' => ds = ds' ∧ P s' := by
    refine collected_follows hconn ?_ ?_ fun h => JoinCall.performAll_follows h rfl hknown
    · rintro s' ⟨hgrown, hx', -⟩
      exact ⟨hgrown, x, hx', hc, hgrown.connections ▸ hconn⟩
    · rintro s' s'' ⟨hgrown, hx', hst'⟩ hgrown'
      exact ⟨hgrown.trans hgrown', hgrown'.builders b x hx', hgrown'.records _ st hst'⟩
  unfold joinedClause Builder.join
  simp only [bind_assoc]
  refine Agree.eq (hcollected.bind (R := fun f f' _ => f = f') (fun criteria _ => .given ?_) r s
    ⟨.refl s, hx, hst⟩)
  rintro rfl
  exact addJoin_follows hc hconn kind table criteria

end

/-! ## Bindings and text -/

theorem rawBindings_joined {ctx : Context} {table table' : Value}
    (h : ctx.joined table = .ok table') : table'.rawBindings = table.rawBindings := by
  have hname : ∀ {v : Value}, (do prefixed (← ctx.tablePrefix) false v) = .ok table' →
      table'.rawBindings = v.rawBindings := by
    intro v h
    obtain ⟨p, -, h⟩ := bind_ok h
    exact (sameName_prefixed h).rawBindings_eq
  cases table with
  | list items | tuple items =>
    match items, h with
    | [main, name], h =>
      obtain ⟨main', -, h⟩ := bind_ok h
      cases h
      rfl
  | _ => exact hname h

theorem bindings_joinTable {a : Adapter} {table : Value} {f : Fragment}
    (h : a.joinTable table = .ok f) : f.bindings = table.rawBindings := by
  cases table with
  | tuple items =>
    match items, h with
    | [main, name], h =>
      cases h
      rfl
  | _ =>
    cases h
    rfl

/-- The clause binds what its table and its conditions bind. -/
theorem bindings_joinClause {a : Adapter} {join : JoinEntry} {f : Fragment}
    (h : a.joinClause join = .ok f) :
    f.bindings = join.table.rawBindings ++ boundConditions false join.criteria := by
  rw [joinClause_eq] at h
  obtain ⟨table, htable, h⟩ := bind_ok h
  obtain ⟨criteria, hcriteria, h⟩ := bind_ok h
  obtain ⟨kind, -, h⟩ := bind_ok h
  have hbound : criteria.bindings = boundConditions false join.criteria := by
    unfold joinCriteria at hcriteria
    split at hcriteria
    · rename_i hempty
      rw [List.isEmpty_iff.1 hempty]
      cases hcriteria
      rfl
    · exact bindings_of_criteria hcriteria
  obtain rfl := Except.ok.inj h
  rw [← bindings_joinTable htable, ← hbound]
  simp

section

variable {ctx : Context} {overwrite : Bool} {st : Statements} {kind table : Value}
  {cs cs' : List Condition}

theorem bindings_joinOutcome {f : Fragment}
    (h : ctx.joinOutcome overwrite st kind table cs = .ok f) :
    f.bindings = table.rawBindings ++ boundConditions false cs := by
  obtain ⟨table', htable, h⟩ := bind_ok h
  split at h
  · cases h
  · obtain ⟨kind', -, h⟩ := bind_ok h
    rw [bindings_joinClause h, rawBindings_joined htable]

theorem joinOutcome_agree (h : ConditionsAlike false cs cs') :
    Agree (Fragment.SameShape 0) (ctx.joinOutcome overwrite st kind table cs)
      (ctx.joinOutcome overwrite st kind table cs') := by
  refine (Agree.self _).bind fun table' _ htable => ?_
  subst htable
  split
  · exact .misuse _
  · refine (Agree.self _).bind fun kind' _ hkind => ?_
    subst hkind
    exact joinClause_agree sameShape_congruence ⟨rfl, fun _ _ => steady_sameShape _,
      agree_sameShape_refl _, conditionsRel_of_alike h⟩

end

/-! ## Joins -/

/-- The clause of a join binds what the calls of its callback are given if and only if nothing of it
is lost: a scalar is lost where the builder of the join itself is given it, because it is written as
a name. And where nothing is lost the text does not depend on what is given. -/
theorem joinedClause_binds_iff {s : Session} {r : Reaction} {b c : Nat} {conn : Connection}
    {x : Builder} {st : Statements} (hx : s.builders[b]? = some x) (hc : x.connection = some c)
    (hconn : s.connections[c]? = some conn) (hst : s.records[x.record]? = some st)
    (kind table : Value) {calls : List JoinCall} (hknown : JoinCall.KnownAll s calls) :
    (∀ f, (runIn r (joinedClause b kind table calls) s).1 = .ok f →
      (f.bindings = table.rawBindings ++ JoinCall.givenAll (s.context conn) calls ↔
        JoinCall.lostAll (s.context conn) false calls = [])) ∧
    (JoinCall.lostAll (s.context conn) false calls = [] →
      ∀ calls', CallsAlike calls calls' → JoinCall.KnownAll s calls' →
        Agree (fun f f' => f'.sql = f.sql ∧
            f'.bindings = table.rawBindings ++ JoinCall.givenAll (s.context conn) calls')
          (runIn r (joinedClause b kind table calls) s).1
          (runIn r (joinedClause b kind table calls') s).1) := by
  have hquery : ∀ id w, (s.context conn).subQuery id = .ok w → w.isRaw = true := by
    intro id w hw
    obtain ⟨q, -, hw⟩ := bind_ok hw
    cases hw
    rfl
  have haccounts : ∀ {calls : List JoinCall} {f : Fragment},
      JoinCall.conditionsAll (s.context conn) .join calls >>=
        (s.context conn).joinOutcome x.overwrite.isTrue st kind table = .ok f →
      (f.bindings = table.rawBindings ++ JoinCall.givenAll (s.context conn) calls ↔
        JoinCall.lostAll (s.context conn) false calls = []) := by
    intro calls f hf
    obtain ⟨cs, hcs, hf⟩ := bind_ok hf
    rw [bindings_joinOutcome hf, List.append_cancel_left_eq]
    exact (JoinCall.accounts_of_conditionsAll hquery (fun _ => rfl) hcs).eq_iff
  refine ⟨fun f hf => ?_, fun hlost calls' halike hknown' => ?_⟩
  · rw [joinedClause_eq hx hc hconn hst kind table hknown] at hf
    exact haccounts hf
  · rw [joinedClause_eq hx hc hconn hst kind table hknown,
      joinedClause_eq hx hc hconn hst kind table hknown']
    have hlost' : JoinCall.lostAll (s.context conn) false calls' = [] := by
      rw [← List.length_eq_zero_iff, JoinCall.length_lostAll halike, hlost, List.length_nil]
    refine Agree.mono ?_ (Agree.second (R := Fragment.SameShape 0)
      ((JoinCall.conditionsAll_agree halike hlost).bind fun _ _ h => joinOutcome_agree h)
      fun f' hf' => (haccounts hf').2 hlost')
    rintro f f' ⟨⟨hsql, -⟩, hbindings⟩
    exact ⟨hsql.symm, hbindings⟩

/-- A session of one builder that selects from a table. -/
def Session.selecting (table : Value) : Session where
  connections := #[{ driver := .ofScenario {}, scenario := {}, settings := {}
                     adapter := ⟨.mysql, true⟩ }]
  builders := #[{ connection := some 0, record := 0 }]
  records := #[{ tables := .list [table] }]

/-- Calls on the builder of a join that are given a list and, in a group, a scalar. -/
def JoinCall.listAndGroup (items : List Value) (v : Value) : List JoinCall :=
  [.on (.text "u.id") (.text "=") (.text "t.id") (.text "AND"),
    .condition (.among false .and) rfl [.text "u.k", .list items],
    .group .or [.condition (.compare .and) rfl [.text "u.a", v]]]

/-- Texts that would end the statement are bound, and do not change the text. -/
theorem joinedClause_binds_listAndGroup :
    Agree (fun f f' => f'.sql = f.sql ∧
        f'.bindings = [.text "') --", .text "?", .text "'; DROP TABLE t"])
      (runIn (fun _ _ => pure ()) (joinedClause 0 (.text "left") (.text "u")
        (JoinCall.listAndGroup [.int 1, .int 2] (.int 3))) (Session.selecting (.text "t"))).1
      (runIn (fun _ _ => pure ()) (joinedClause 0 (.text "left") (.text "u")
        (JoinCall.listAndGroup [.text "') --", .text "?"] (.text "'; DROP TABLE t")))
        (Session.selecting (.text "t"))).1 := by
  have known : ∀ (items : List Value) (v : Value), v.isBuilder = false →
      JoinCall.KnownAll (Session.selecting (.text "t")) (JoinCall.listAndGroup items v) := by
    intro items v hv
    refine ⟨trivial, fun w hw => ?_, ⟨fun w hw => ?_, trivial⟩, trivial⟩
    · rcases List.mem_pair.1 hw with rfl | rfl <;> exact known_of_not_builder (by simp)
    · rcases List.mem_pair.1 hw with rfl | rfl
      · exact known_of_not_builder (by simp)
      · refine known_of_not_builder fun id kind h => ?_
        rw [h] at hv
        cases hv
  have hx : (Session.selecting (.text "t")).builders[0]? =
      some { connection := some 0, record := 0 } := rfl
  refine (joinedClause_binds_iff hx rfl rfl rfl (.text "left") (.text "u")
    (known [.int 1, .int 2] (.int 3) rfl)).2 rfl
    (JoinCall.listAndGroup [.text "') --", .text "?"] (.text "'; DROP TABLE t")) ?_ (known _ _ rfl)
  exact .same _ (.condition rfl (.among false .and _ (.ok (.list rfl)))
    (.group .or (.condition rfl (.equal .and _ (.scalar rfl rfl rfl rfl)) .nil) .nil))

end SqlBuilder
