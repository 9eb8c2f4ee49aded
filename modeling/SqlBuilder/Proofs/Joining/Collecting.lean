import SqlBuilder.Proofs.Joining.Calls

/-!
# What the builder of a join collects

The builder of a join, or of a group, starts without conditions (`Collects`). `performAll_follows`:
calls on it fail with the fault of `conditionsAll`, or add the conditions it gives, and leave
whatever was there before as it is.
-/

set_option autoImplicit false

namespace SqlBuilder

open Builder Session

variable {s₀ s₁ : Session} {conn : Connection} {b c n : Nat} {kind : BuilderKind}
  {cs : List Condition}

/-- The value is no builder, or one that is there with its statements. -/
def Session.Known (s : Session) (v : Value) : Prop :=
  ∀ id kind, v = .builder id kind →
    ∃ x st, s.builders[id]? = some x ∧ s.records[x.record]? = some st

/-- A builder that was not there has collected conditions in statements that were not there. -/
structure Collects (s₁ : Session) (b c n : Nat) (kind : BuilderKind) (cs : List Condition)
    (s : Session) : Prop where
  grown : Grown s₁ s
  builder : s.builders[b]? = some { connection := some c, record := n, kind }
  fresh : s₁.records[n]? = none
  record : ∃ st, s.records[n]? = some st ∧ st.criteria.getD [] = cs

namespace Collects

/-- What grows further still collects the same. -/
theorem grow {s s' : Session} (h : Collects s₁ b c n kind cs s) (hs : Grown s s') :
    Collects s₁ b c n kind cs s' where
  grown := h.grown.trans hs
  builder := hs.builders _ _ h.builder
  fresh := h.fresh
  record := by
    obtain ⟨st, hst, hcs⟩ := h.record
    exact ⟨st, hs.records _ _ hst, hcs⟩

end Collects

/-- The session has grown out of the one in which the join is called, on a connection. -/
structure Calling (s₀ s₁ : Session) (c : Nat) (conn : Connection) : Prop where
  grown : Grown s₀ s₁
  connected : s₀.connections[c]? = some conn

namespace Calling

variable (h : Calling s₀ s₁ c conn)
include h

theorem opened {s : Session} (hs : Collects s₁ b c n kind cs s) : s.Open b c conn := by
  refine ⟨_, hs.builder, rfl, ?_⟩
  rw [hs.grown.connections, h.grown.connections]
  exact h.connected

/-! ## Reading -/

theorem addPrefix_follows (v : Value) :
    Follows (Collects s₁ b c n kind cs) (addPrefix b v true) ((s₀.context conn).named v)
      fun a a' s => a = a' ∧ Collects s₁ b c n kind cs s :=
  .read fun r s hs => by
    rw [runIn_addPrefix (h.opened hs), (h.grown.trans hs.grown).prefixOf_eq]
    rfl

theorem resolved_follows {v : Value} (hv : s₀.Known v) :
    Follows (Collects s₁ b c n kind cs)
      (match v with
        | .builder id _ => subQuery id .null
        | v => pure v)
      ((s₀.context conn).resolved v) fun a a' s => a = a' ∧ Collects s₁ b c n kind cs s := by
  cases v with
  | builder id kind =>
    obtain ⟨x, st, hx, hst⟩ := hv id kind rfl
    intro r s hs
    have hs₀ := h.grown.trans hs.grown
    obtain ⟨journal, hrun⟩ := runIn_subQuery (r := r) (hs₀.builders _ _ hx) (hs₀.records _ _ hst)
    rw [hrun, hs₀.subQueryOf_eq hx hst]
    exact .refl fun _ _ => ⟨rfl, hs.grow ((Grown.refl s).journal journal)⟩
  | _ => exact .pure fun s hs => ⟨rfl, hs⟩

end Calling

theorem condition_eq (key operator v joiner : Value) :
    Builder.condition b (.value key) operator v joiner = (do
      let key ← addPrefix b key true
      let v ← (match v with
        | .builder id _ => subQuery id .null
        | v => pure v : Action Value)
      pure (.plain key operator v joiner)) := by
  cases v <;> rfl

theorem Calling.condition_follows (h : Calling s₀ s₁ c conn) {q : Comparison}
    (hq : s₀.Known q.value) :
    Follows (Collects s₁ b c n kind cs)
      (Builder.condition b (.value q.key) q.operator q.value (.text q.joiner.words))
      ((s₀.context conn).condition q)
      fun cond cond' s => cond = cond' ∧ Collects s₁ b c n kind cs s := by
  rw [condition_eq]
  refine (h.addPrefix_follows q.key).bind fun key _ => .given ?_
  rintro rfl
  refine (h.resolved_follows hq).bind fun v _ => .given ?_
  rintro rfl
  exact .pure fun s hs => ⟨rfl, hs⟩

/-! ## Adding conditions -/

theorem addCondition_follows (cond : Condition) :
    Follows (Collects s₁ b c n kind cs) (addCondition b .criteria cond) (.ok cond)
      fun _ cond => Collects s₁ b c n kind (cs ++ [cond]) := by
  intro r s hs
  obtain ⟨st, hst, rfl⟩ := hs.record
  have hrun : runIn r (addCondition b .criteria cond) s = (.ok (), { s with
      records := s.records.modify n fun _ =>
        st.setConditions .criteria (st.criteria.getD [] ++ [cond]) }) := by
    rw [addCondition, runIn_bind_ok (runIn_overwrites hs.builder), tryEdit, change,
      runIn_bind_ok (runIn_statementsOf hs.builder hst)]
    show runIn r (edit b _) s = _
    rw [edit, runIn_bind_ok (runIn_builder hs.builder)]
    rfl
  rw [hrun]
  refine .ok ⟨hs.grown.edited hs.fresh _, hs.builder, hs.fresh,
    st.setConditions .criteria (st.criteria.getD [] ++ [cond]), ?_, rfl⟩
  dsimp only
  rw [Array.getElem?_modify, if_pos rfl, hst]
  rfl

namespace Arity

variable {α : Type} {args : List α}

theorem allows_between {least most count : Nat}
    (h : (Arity.between least most).allows count = true) :
    least ≤ count ∧ count ≤ most := by
  obtain ⟨hleast, hmost⟩ := (Bool.and_eq_true _ _).mp h
  exact ⟨of_decide_eq_true hleast, of_decide_eq_true hmost⟩

theorem one_or_two (h : (Arity.between 1 2).allows args.length = true) :
    (∃ x, args = [x]) ∨ ∃ x y, args = [x, y] := by
  have hlength := allows_between h
  rcases (by omega : args.length = 1 ∨ args.length = 2) with h | h
  · exact .inl (List.length_eq_one_iff.1 h)
  · exact .inr (List.length_eq_two.1 h)

theorem two_or_three (h : (Arity.between 2 3).allows args.length = true) :
    (∃ x y, args = [x, y]) ∨ ∃ x y z, args = [x, y, z] := by
  have hlength := allows_between h
  rcases (by omega : args.length = 2 ∨ args.length = 3) with h | h
  · exact .inl (List.length_eq_two.1 h)
  · exact .inr (List.length_eq_three.1 h)

theorem one_to_three (h : (Arity.between 1 3).allows args.length = true) :
    (∃ x, args = [x]) ∨ (∃ x y, args = [x, y]) ∨ ∃ x y z, args = [x, y, z] := by
  have hlength := allows_between h
  rcases (by omega : args.length = 1 ∨ args.length = 2 ∨ args.length = 3) with h | h | h
  · exact .inl (List.length_eq_one_iff.1 h)
  · exact .inr (.inl (List.length_eq_two.1 h))
  · exact .inr (.inr (List.length_eq_three.1 h))

end Arity

theorem among_eq (negated : Bool) (joiner : Joiner) (key : Operand) (values : Value) :
    among b negated joiner key values = (do
      let members ← ofResult (membersOf values)
      addWhere b key (negatable negated "IN") members joiner) := by
  have hlist : ∀ v : Value, (do
      let members ← (do pure (.list (← ofResult v.toItems)) : Action Value)
      addWhere b key (negatable negated "IN") members joiner) = (do
      let members ← ofResult (do pure (.list (← v.toItems)))
      addWhere b key (negatable negated "IN") members joiner) := by
    intro v
    cases v.toItems <;> rfl
  cases values <;> rfl

theorem known_of_not_builder {s : Session} {v : Value} (hv : ∀ id kind, v ≠ .builder id kind) :
    s.Known v := fun id kind h => absurd h (hv id kind)

theorem known_membersOf {s : Session} {v : Value} (hv : s.Known v) :
    ∀ members, membersOf v = .ok members → s.Known members := by
  have hlist : ∀ v : Value, (do pure (.list (← v.toItems)) : Result Value) = membersOf v →
      ∀ members, membersOf v = .ok members → s.Known members := by
    intro v hmembers members h
    rw [← hmembers] at h
    cases hitems : v.toItems <;> rw [hitems] at h <;> cases h
    exact known_of_not_builder (by simp)
  intro members h
  cases v with
  | builder | raw =>
    cases h
    exact hv
  | _ => exact hlist _ rfl members h

theorem known_comparand {s : Session} {v : Value} (hv : s.Known v) : s.Known (comparand v) := by
  cases v <;> first | exact hv | exact known_of_not_builder (by simp [comparand])

section

variable (h : Calling s₀ s₁ c conn) (hkind : conditionList kind = .criteria)
include h hkind

theorem addWhere_follows {q : Comparison} (hq : s₀.Known q.value) :
    Follows (Collects s₁ b c n kind cs)
      (addWhere b (.value q.key) q.operator q.value q.joiner) ((s₀.context conn).condition q)
      fun _ cond => Collects s₁ b c n kind (cs ++ [cond]) := by
  refine (h.condition_follows hq).andThen fun cond _ => .given ?_
  rintro rfl
  refine .after (fun _ _ hs => runIn_builder hs.builder) ?_
  dsimp only
  rw [hkind]
  exact addCondition_follows cond

/-- A method that asks for one comparison. -/
theorem asking_follows {q : Comparison} (hq : s₀.Known q.value) :
    Follows (Collects s₁ b c n kind cs)
      (addWhere b (.value q.key) q.operator q.value q.joiner)
      ([Except.ok q].mapM fun q => do (s₀.context conn).condition (← q))
      fun _ ds => Collects s₁ b c n kind (cs ++ ds) := by
  rw [List.mapM_cons, List.mapM_nil]
  exact (addWhere_follows h hkind hq).map fun _ _ _ hs => hs

theorem among_follows (negated : Bool) (joiner : Joiner) (key : Value) {values : Value}
    (hvalues : s₀.Known values) :
    Follows (Collects s₁ b c n kind cs) (among b negated joiner (.value key) values)
      ([do pure ⟨key, negatable negated "IN", some (← membersOf values), joiner⟩].mapM fun q => do
        (s₀.context conn).condition (← q))
      fun _ ds => Collects s₁ b c n kind (cs ++ ds) := by
  rw [among_eq]
  have hknown := known_membersOf hvalues
  generalize membersOf values = y at hknown
  cases y with
  | error f => exact fun _ _ _ => .error f
  | ok members =>
    exact asking_follows (q := ⟨key, negatable negated "IN", some members, joiner⟩) h hkind
      (hknown members rfl)

theorem columns_follow (requests : List ColumnRequest) :
    Follows (Collects s₁ b c n kind cs) (requests.forM (addRequest b))
      ((requests.map (columnComparison conn.adapter)).mapM fun q => do
        (s₀.context conn).condition (← q))
      fun _ ds => Collects s₁ b c n kind (cs ++ ds) := by
  induction requests generalizing cs with
  | nil => exact .pure fun s hs => by simpa using hs
  | cons request requests ih =>
    rw [List.map_cons, List.mapM_cons]
    cases request with
    | malformed => exact fun _ _ _ => .error _
    | comparison first operator second =>
      refine Follows.bind (Q := fun _ cond => Collects s₁ b c n kind (cs ++ [cond])) ?_ ?_
      · refine .after (fun _ _ hs => runIn_adapterOf (h.opened hs)) ?_
        exact addWhere_follows (q := .ofRaw _ []) h hkind fun _ _ hv => by cases hv
      · intro _ cond
        refine ih.map ?_
        intro _ ds s hs
        rwa [List.append_assoc] at hs

/-- A method of the `where` family adds the conditions it asks for. -/
theorem method_follows {m : ConditionMethod} (hwhere : m.isWhere = true) {args : List Value}
    (harity : m.arity.allows args.length = true) (hargs : ∀ v ∈ args, s₀.Known v) :
    Follows (Collects s₁ b c n kind cs) (Call.condition b (args.map .value) m)
      ((asked conn.adapter m args).mapM fun q => do (s₀.context conn).condition (← q))
      fun _ ds => Collects s₁ b c n kind (cs ++ ds) := by
  have hasking : ∀ {key operator v : Value} {joiner : Joiner}, s₀.Known v →
      Follows (Collects s₁ b c n kind cs) (addWhere b (.value key) operator v joiner)
        ([Except.ok ⟨key, operator, some v, joiner⟩].mapM fun q => do
          (s₀.context conn).condition (← q))
        fun _ ds => Collects s₁ b c n kind (cs ++ ds) :=
    fun {key operator v joiner} hv =>
      asking_follows (q := ⟨key, operator, some v, joiner⟩) h hkind hv
  have hraw : ∀ {key : Value}, Follows (Collects s₁ b c n kind cs)
      (addWhere b (.value key) .null .null .and)
        ([Except.ok { key }].mapM fun q => do (s₀.context conn).condition (← q))
        fun _ ds => Collects s₁ b c n kind (cs ++ ds) :=
    fun {key} => asking_follows (q := { key }) h hkind
      (known_of_not_builder (by simp [Comparison.value]))
  have htext : ∀ s : String, s₀.Known (.text s) := fun s => known_of_not_builder (by simp)
  cases m with
  | compare joiner =>
    rcases Arity.one_to_three harity with ⟨key, rfl⟩ | ⟨key, v, rfl⟩ | ⟨key, operator, v, rfl⟩
    · have hvalue : (if key.isRaw then none else some Value.null).getD .null = .null := by
        split <;> rfl
      have hfollows : Follows (Collects s₁ b c n kind cs) _ _ _ := asking_follows (b := b) (n := n)
        (q := { key, joiner, value? := if key.isRaw then none else some .null }) h hkind
        (by rw [Comparison.value, hvalue]; exact known_of_not_builder (by simp))
      rwa [Comparison.value, hvalue] at hfollows
    · exact hasking (known_comparand (hargs v (by simp)))
    · exact hasking (known_comparand (hargs v (by simp)))
  | raw =>
    rcases Arity.one_or_two harity with ⟨sql, rfl⟩ | ⟨sql, bindings, rfl⟩
    · exact hraw
    · exact hraw
  | among negated joiner =>
    obtain ⟨key, values, rfl⟩ := List.length_eq_two.1 ((Arity.allows_exactly _ _).1 harity)
    exact among_follows h hkind negated joiner key (hargs values (by simp))
  | between negated joiner =>
    obtain ⟨key, least, most, rfl⟩ := List.length_eq_three.1 ((Arity.allows_exactly _ _).1 harity)
    exact hasking (v := .list [least, most]) (known_of_not_builder (by simp))
  | dateBetween negated =>
    obtain ⟨key, least, most, rfl⟩ := List.length_eq_three.1 ((Arity.allows_exactly _ _).1 harity)
    show Follows _ (dateBetween b negated (.value key) least most) _ _
    refine .after (fun _ _ hs => runIn_adapterOf (h.opened hs)) ?_
    exact hasking (v := dateRange conn.adapter least most)
      (known_of_not_builder (by simp [dateRange]))
  | isNull negated joiner =>
    obtain ⟨key, rfl⟩ := List.length_eq_one_iff.1 ((Arity.allows_exactly _ _).1 harity)
    exact hasking (v := .raw "NULL" []) (known_of_not_builder (by simp))
  | like negated =>
    obtain ⟨key, v, rfl⟩ := List.length_eq_two.1 ((Arity.allows_exactly _ _).1 harity)
    exact hasking (hargs v (by simp))
  | startsWith =>
    obtain ⟨key, v, rfl⟩ := List.length_eq_two.1 ((Arity.allows_exactly _ _).1 harity)
    exact hasking (v := .text _) (htext _)
  | search =>
    rcases Arity.one_or_two harity with ⟨key, rfl⟩ | ⟨key, v, rfl⟩
    · exact hasking (v := .text _) (htext _)
    · exact hasking (v := .text _) (htext _)
  | column =>
    rcases Arity.one_to_three harity with ⟨first, rfl⟩ | ⟨first, second, rfl⟩ |
      ⟨first, operator, second, rfl⟩
    · exact columns_follow h hkind _
    · exact columns_follow h hkind _
    · exact columns_follow h hkind _
  | datePart part =>
    rcases Arity.two_or_three harity with ⟨column, v, rfl⟩ | ⟨column, operator, v, rfl⟩
    · show Follows _ (whereDatePart b part column v none) _ _
      exact .after (fun _ _ hs => runIn_adapterOf (h.opened hs)) hraw
    · show Follows _ (whereDatePart b part column operator (some v)) _ _
      exact .after (fun _ _ hs => runIn_adapterOf (h.opened hs)) hraw
  | rowsExist | having | orHaving | havingRaw => cases hwhere

end

/-! ## Fresh builders -/

/-- A fresh builder has collected nothing. -/
theorem collects_newBuilder (s : Session) (c : Nat) (kind : BuilderKind) :
    Collects s s.builders.size c s.records.size kind [] (s.withBuilder c kind .empty) where
  grown := grown_withBuilder s c kind .empty
  builder := Array.getElem?_push_size
  fresh := Array.getElem?_eq_none (Nat.le_refl _)
  record := ⟨.empty, Array.getElem?_push_size, rfl⟩

/-! ## Calls -/

/-- A call on a builder, once it is known that builders have the method. -/
theorem invoke_eq {m : BuilderMethod} {args : List Operand} {x : Action Unit}
    (harity : m.arity.allows args.length = true) (hx : Call.builder m b args = Call.fluent b x) :
    JoinCall.invoke b m args = (do
      Call.require b m
      x) := by
  have hperform : Call.perform (.builder m) (some b) args = Call.fluent b x := by
    unfold Call.perform
    rw [if_neg (by simp [Method.arity, harity])]
    exact hx
  have hfluent : (do let _ ← Call.fluent b x) = x := by
    show ((x >>= fun _ => pure (Output.builder (some b))) >>= fun _ => pure ()) = x
    rw [bind_assoc]
    simp only [pure_bind]
    exact bind_pure_unit
  show (do
    Call.require b m
    let _ ← Call.perform (.builder m) (some b) args) = _
  rw [hperform, hfluent]

theorem invoke_refused {m : BuilderMethod} {args : List Operand}
    (harity : m.arity.allows args.length = false) :
    JoinCall.invoke b m args = (do
      Call.require b m
      throw (.misuse .wrongType)) := by
  have hperform : Call.perform (.builder m) (some b) args = throw (.misuse .wrongType) := by
    unfold Call.perform
    rw [if_pos (by simp [Method.arity, harity])]
    rfl
  show (do
    Call.require b m
    let _ ← Call.perform (.builder m) (some b) args) = _
  rw [hperform]
  rfl

theorem columnRequests_refused (first : Value) {rest : List Value} (h : 2 < rest.length) :
    columnRequests first rest = [.malformed] := by
  have hcolumn : columnRequest first rest = .malformed := by
    match rest, h with
    | _ :: _ :: _ :: _, _ => rfl
  cases first <;> simp only [columnRequests, hcolumn, Nat.not_le.2 h, if_false]

/-- A wrong number of arguments asks for nothing. -/
theorem asked_refused {m : ConditionMethod} (hwhere : m.isWhere = true) (a : Adapter)
    {args : List Value} (harity : m.arity.allows args.length = false) :
    asked a m args = [misuse .wrongType] := by
  have hne : m.arity.allows args.length ≠ true := by simp [harity]
  cases m with
  | rowsExist | having | orHaving | havingRaw => cases hwhere
  | column =>
    cases args with
    | nil => rfl
    | cons first rest =>
      have hrest : 2 < rest.length := by
        by_contra hle
        refine hne ?_
        simp [ConditionMethod.arity, Arity.allows, Arity.between]
        omega
      show (columnRequests first rest).map (columnComparison a) = _
      rw [columnRequests_refused first hrest]
      rfl
  | _ =>
    rcases args with _ | ⟨_, _ | ⟨_, _ | ⟨_, _ | ⟨_, _⟩⟩⟩⟩
    all_goals first | rfl | exact absurd rfl hne

/-- Only the builder of a join has the method. -/
theorem join_method_follows {m : ChangeMethod} (hm : Call.kindOf? (.change m) = some .join)
    {args : List Operand} (harity : m.arity.allows args.length = true)
    {y : Result (List Condition)}
    (hy : kind = .join → Follows (Collects s₁ b c n kind cs) (Call.change b args m) y
      fun _ ds => Collects s₁ b c n kind (cs ++ ds)) :
    Follows (Collects s₁ b c n kind cs) (JoinCall.invoke b (.change m) args)
      (if kind = .join then y else misuse .missingAttribute)
      fun _ ds => Collects s₁ b c n kind (cs ++ ds) := by
  rw [invoke_eq (m := .change m) harity rfl]
  intro r s hs
  have hrequire : runIn r (Call.require b (.change m)) s =
      (if kind = .join then .ok () else misuse .missingAttribute, s) := by
    unfold Call.require
    rw [hm]
    dsimp only
    rw [runIn_bind_ok (runIn_builder hs.builder)]
    dsimp only
    cases kind <;> rfl
  split
  · rename_i hjoin
    rw [if_pos hjoin] at hrequire
    rw [runIn_bind_ok hrequire]
    exact hy hjoin r s hs
  · rename_i hjoin
    rw [if_neg hjoin] at hrequire
    rw [runIn_bind, hrequire]
    exact .error _

theorem shared_follows (columns : Value) :
    Follows (Collects s₁ b c n kind cs) (onShared b columns)
      (do
        let columns ← sharedColumns columns
        pure [{ Condition.plain .null .null .null (.text "AND USING") with columns }])
      fun _ ds => Collects s₁ b c n kind (cs ++ ds) := by
  have heq : onShared b columns = (do
      let columns ← ofResult (sharedColumns columns)
      addCondition b .criteria
        { Condition.plain .null .null .null (.text "AND USING") with columns }) := by
    cases columns <;> rfl
  rw [heq]
  refine (Follows.ofResult _).bind fun columns _ => .given ?_
  rintro rfl
  exact (addCondition_follows _).map (g := fun cond => [cond]) fun _ _ _ hs => hs

section

variable (h : Calling s₀ s₁ c conn)
include h

theorem condition_call_follows (hkind : conditionList kind = .criteria) {m : ConditionMethod}
    (hwhere : m.isWhere = true) {args : List Value} (hargs : ∀ v ∈ args, s₀.Known v) :
    Follows (Collects s₁ b c n kind cs) (JoinCall.invoke b (.condition m) (args.map .value))
      ((asked conn.adapter m args).mapM fun q => do (s₀.context conn).condition (← q))
      fun _ ds => Collects s₁ b c n kind (cs ++ ds) := by
  cases harity : m.arity.allows args.length with
  | false =>
    rw [invoke_refused (by rwa [List.length_map]), asked_refused hwhere _ harity]
    exact fun _ _ _ => .error _
  | true =>
    rw [invoke_eq (by rwa [List.length_map]) rfl]
    exact method_follows h hkind hwhere harity hargs

theorem on_follows (key operator v joiner : Value) :
    Follows (Collects s₁ b c n kind cs) (Builder.on b key operator v joiner)
      (do
        let key ← (s₀.context conn).named key
        let value ← (s₀.context conn).named v
        pure [{ Condition.plain key operator value joiner with leading := .text "ON" }])
      fun _ ds => Collects s₁ b c n kind (cs ++ ds) := by
  refine (h.addPrefix_follows key).bind fun key _ => .given ?_
  rintro rfl
  refine (h.addPrefix_follows v).bind fun v _ => .given ?_
  rintro rfl
  exact (addCondition_follows _).map (g := fun cond => [cond]) fun _ _ _ hs => hs

end

/-- What a callback collects on a fresh builder. The builder that asks for it keeps its own. -/
theorem collected_follows {P : Session → Prop} (hconn : s₀.connections[c]? = some conn)
    (hopen : ∀ s, P s → Grown s₀ s ∧ s.Open b c conn) (hgrow : ∀ s s', P s → Grown s s' → P s')
    {inner : BuilderKind} {f : Nat → Action Unit} {y : Result (List Condition)}
    (hf : ∀ {s₂ : Session} {g m : Nat}, Calling s₀ s₂ c conn →
      Follows (Collects s₂ g c m inner []) (f g) y fun _ ds => Collects s₂ g c m inner ds) :
    Follows P (collected b inner f) y fun ds ds' s => ds = ds' ∧ P s := by
  intro r s hs
  obtain ⟨hgrown, hopened⟩ := hopen s hs
  unfold collected
  rw [runIn_bind_ok (runIn_connectionOf hopened), runIn_bind_ok runIn_newBuilder]
  have hnew := collects_newBuilder s c inner
  have hcall := hf ⟨hgrown, hconn⟩ r _ hnew
  rw [runIn_bind]
  generalize runIn r (f s.builders.size) (s.withBuilder c inner .empty) = p at hcall ⊢
  obtain ⟨z, s'⟩ := p
  dsimp only at hcall
  cases hcall with
  | error fault => exact .error fault
  | @ok _ ds hds =>
    obtain ⟨st, hst, hcs⟩ := hds.record
    dsimp only
    rw [runIn_bind_ok (runIn_statementsOf hds.builder hst), hcs]
    exact .ok ⟨rfl, hgrow s s' hs hds.grown⟩

theorem group_eq (f : Nat → Action Unit) (joiner : Joiner) :
    Call.condition b [.callback 0 f] (.compare joiner) = (do
      let inner ← collected b .criteria f
      addCondition b (conditionList (← Session.builder b).kind)
        (.plain (.group inner) .null .null (.text joiner.words))) := by
  show addWhere b (.callback 0 f) .null .null joiner = _
  unfold addWhere Builder.condition
  simp only [bind_assoc, pure_bind]

/-- The select of a fresh builder that is left with statements. -/
theorem runIn_freshSelect {r : Reaction} {s : Session} (hs : s.Open b c conn) (st : Statements) :
    ∃ s', Grown s s' ∧ runIn r (do
      let target ← newQuery b
      edit target fun _ => st
      compileSelect target) s = (conn.adapter.compile .select st [], s') := by
  have hconn := hs
  obtain ⟨-, -, -, hconn⟩ := hconn
  have hnew := collects_newBuilder s c .query
  let s' := { s.withBuilder c .query .empty with
    records := (s.withBuilder c .query .empty).records.modify s.records.size fun _ => st }
  have hgrown : Grown s s' := hnew.grown.edited hnew.fresh fun _ => st
  have hbuilder : s'.builders[s.builders.size]? =
      some { connection := some c, record := s.records.size, kind := .query } := hnew.builder
  have hrecord : s'.records[s.records.size]? = some st := by
    show ((s.records.push .empty).modify s.records.size fun _ => st)[s.records.size]? = some st
    rw [Array.getElem?_modify, if_pos rfl, Array.getElem?_push_size]
    rfl
  have hedit : runIn r (edit s.builders.size fun _ => st) (s.withBuilder c .query .empty) =
      (.ok (), s') := by
    rw [edit, runIn_bind_ok (runIn_builder hnew.builder)]
    rfl
  have hselect : s'.selectOf s.builders.size = conn.adapter.compile .select st [] := by
    have hconn' : s'.connections[c]? = some conn := hconn
    rw [selectOf, hbuilder]
    dsimp only
    rw [hconn', hrecord]
  obtain ⟨journal, hrun⟩ := runIn_compileSelect (r := r) hbuilder hrecord
  refine ⟨_, hgrown.journal journal, ?_⟩
  rw [newQuery, bind_assoc, runIn_bind_ok (runIn_connectionOf hs), runIn_bind_ok runIn_newBuilder,
    runIn_bind_ok hedit, hrun, hselect]

/-- A subquery of a callback that leaves its builder with statements. -/
theorem exists_follows (h : Calling s₀ s₁ c conn) (hkind : conditionList kind = .criteria)
    (st : Statements) :
    Follows (Collects s₁ b c n kind cs)
      (whereExists b (.callback 0 fun target => edit target fun _ => st))
      (do
        let q ← conn.adapter.compile .select st []
        let cond ← (s₀.context conn).condition
          (.ofRaw ("EXISTS (" ++ q.sql.toText ++ ")") q.rawBindings)
        pure [cond])
      fun _ ds => Collects s₁ b c n kind (cs ++ ds) := by
  have heq : whereExists b (.callback 0 fun target => edit target fun _ => st) = (do
      let q ← (do
        let target ← newQuery b
        edit target fun _ => st
        compileSelect target)
      addRaw b ("EXISTS (" ++ q.sql.toText ++ ")") q.rawBindings) := by
    simp only [bind_assoc]
    rfl
  rw [heq]
  refine Follows.bind (Q := fun q q' s => q = q' ∧ Collects s₁ b c n kind cs s) ?_ ?_
  · intro r s hs
    obtain ⟨s', hgrown, hrun⟩ := runIn_freshSelect (r := r) (h.opened hs) st
    rw [hrun]
    exact .refl fun _ _ => ⟨rfl, hs.grow hgrown⟩
  · refine fun q _ => .given ?_
    rintro rfl
    exact (addWhere_follows (q := .ofRaw _ _) h hkind (known_of_not_builder (by
      simp [Comparison.ofRaw, Comparison.value]))).map (g := fun cond => [cond]) fun _ _ _ hs => hs

/-! ## All calls -/

namespace JoinCall

mutual

/-- The builders that are given as values are there with their statements. -/
def Known (s : Session) : JoinCall → Prop
  | .condition _ _ args => ∀ v ∈ args, s.Known v
  | .group _ calls => KnownAll s calls
  | _ => True

/-- The builders that are given as values to any of the calls are there. -/
def KnownAll (s : Session) : List JoinCall → Prop
  | [] => True
  | call :: calls => Known s call ∧ KnownAll s calls

end

mutual

/-- A call adds the conditions it comes to. -/
theorem perform_follows {call : JoinCall} {s₁ : Session} {b n : Nat} {kind : BuilderKind}
    {cs : List Condition} (h : Calling s₀ s₁ c conn)
    (hkind : conditionList kind = .criteria) (hknown : call.Known s₀) :
    Follows (Collects s₁ b c n kind cs) (call.perform b)
      (call.conditions (s₀.context conn) kind)
      fun _ ds => Collects s₁ b c n kind (cs ++ ds) := by
  match call with
  | .on key operator v joiner =>
    rw [perform, conditions]
    exact join_method_follows (m := .on) rfl rfl fun _ => on_follows h key operator v joiner
  | .orOn key operator v =>
    rw [perform, conditions]
    exact join_method_follows (m := .orOn) rfl rfl fun _ => on_follows h key operator v (.text "OR")
  | .shared columns =>
    rw [perform, conditions]
    exact join_method_follows (m := .onShared) rfl rfl fun _ => shared_follows columns
  | .condition m hwhere args =>
    rw [Known] at hknown
    rw [perform, conditions]
    exact condition_call_follows h hkind hwhere hknown
  | .group joiner calls =>
    rw [Known] at hknown
    rw [perform, conditions, invoke_eq rfl rfl]
    show Follows _ (Call.condition b [.callback 0 fun g => performAll calls g] (.compare joiner))
      _ _
    rw [group_eq]
    refine (collected_follows h.connected (fun s hs => ⟨h.grown.trans hs.grown, h.opened hs⟩)
      (fun _ _ hs => hs.grow) fun hinner => ?_).bind fun inner _ => .given ?_
    · exact performAll_follows hinner rfl hknown
    · rintro rfl
      refine .after (fun _ _ hs => runIn_builder hs.builder) ?_
      dsimp only
      rw [hkind]
      exact (addCondition_follows _).map (g := fun cond => [cond]) fun _ _ _ hs => hs
  | .rowsExist st =>
    rw [perform, conditions, invoke_eq rfl rfl]
    exact exists_follows h hkind st

/-- Calls add the conditions they come to. -/
theorem performAll_follows {calls : List JoinCall} {s₁ : Session} {b n : Nat} {kind : BuilderKind}
    {cs : List Condition} (h : Calling s₀ s₁ c conn)
    (hkind : conditionList kind = .criteria) (hknown : KnownAll s₀ calls) :
    Follows (Collects s₁ b c n kind cs) (performAll calls b)
      (conditionsAll (s₀.context conn) kind calls)
      fun _ ds => Collects s₁ b c n kind (cs ++ ds) := by
  match calls with
  | [] => exact .pure fun s hs => by rwa [List.append_nil]
  | call :: calls =>
    rw [KnownAll] at hknown
    rw [performAll, conditionsAll]
    refine (perform_follows h hkind hknown.1).bind fun _ first => ?_
    refine (performAll_follows h hkind hknown.2).map (g := fun rest => first ++ rest)
      fun _ rest s hs => ?_
    rwa [List.append_assoc] at hs

end

end JoinCall

end SqlBuilder
