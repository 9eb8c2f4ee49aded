import SqlBuilder.Builder.Joins
import SqlBuilder.Builder.Clauses
import SqlBuilder.Proofs.Joining.Alike
import SqlBuilder.Proofs.Twins.Sessions

/-!
# Building alike

What a builder of each of two twin sessions may be given so that both go on collecting the same
statements. Where a name gets a prefix it may be another name in the other session, so long as both
are the same with their prefixes in front (`Stage.Named`); everything else is the same, but for
builders, which are a pair (`Subject`).

There is one relation for every way in which names stand in an argument: `Stage.Tables`,
`Stage.Field`, `Stage.Orders`, `Stage.Groups`, `Stage.Joined`. For each function of a builder there
is the lemma that it concurs with itself.
-/

set_option autoImplicit false

namespace SqlBuilder

open Session Builder

/-- The value is a collection of names. -/
def Value.isMany : Value → Bool
  | .list _ | .tuple _ | .map _ => true
  | _ => false

variable {S : Stage} {own : List Pair} {b b' : Nat}

/-! ## Names in arguments -/

namespace Stage

/-- What is neither a name nor a collection of names has no prefix. -/
theorem named_other (S : Stage) (mixed : Bool) {v : Value} (htext : v.isText = false)
    (hmany : v.isMany = false) : S.Named mixed v v := by
  have hprefixed (p : Value) : prefixed p mixed v = .ok v := by
    unfold prefixed
    split
    · rfl
    · cases v <;> first | rfl | exact absurd htext Bool.noConfusion |
        exact absurd hmany Bool.noConfusion
  refine ⟨?_, Iff.rfl⟩
  have hprefixes := S.prefixes
  generalize S.s.prefixOf S.conn = x at hprefixes ⊢
  generalize S.s'.prefixOf S.conn' = x' at hprefixes ⊢
  cases hprefixes with
  | ok _ => exact (hprefixed _).trans (hprefixed _).symm
  | error f => rfl

/-- A key that is a name, and what it is mapped to. -/
def Entry (S : Stage) (mixed : Bool) (e e' : Value × Value) : Prop :=
  S.Named mixed e.1 e'.1 ∧ e'.2 = e.2

/-- Tables to select from. -/
inductive Tables (S : Stage) : Value → Value → Prop where
  | map {es es' : List (Value × Value)} (h : List.Forall₂ (S.Entry false) es es') :
      Tables S (.map es) (.map es')
  | list {vs vs' : List Value} (h : S.Named false (.list vs) (.list vs')) :
      Tables S (.list vs) (.list vs')
  | tuple {vs vs' : List Value} (h : S.Named false (.list vs) (.list vs')) :
      Tables S (.tuple vs) (.tuple vs')
  | name {v v' : Value} (h : S.Named false v v') (hv : v.isMany = false)
      (hv' : v'.isMany = false) : Tables S v v'

mutual

/-- Selected expressions. -/
inductive Field (S : Stage) : Value → Value → Prop where
  | map {es es' : List (Value × Value)} (h : List.Forall₂ (S.Entry true) es es') :
      Field S (.map es) (.map es')
  | list {vs vs' : List Value} (h : Fields S vs vs') : Field S (.list vs) (.list vs')
  | tuple {vs vs' : List Value} (h : Fields S vs vs') : Field S (.tuple vs) (.tuple vs')
  | name {v v' : Value} (h : S.Named true v v') (hv : v.isMany = false)
      (hv' : v'.isMany = false) : Field S v v'

/-- Several selected expressions. -/
inductive Fields (S : Stage) : List Value → List Value → Prop where
  | nil : Fields S [] []
  | cons {v v' : Value} {vs vs' : List Value} (h : Field S v v') (hs : Fields S vs vs') :
      Fields S (v :: vs) (v' :: vs')

end

/-- Fields to order by. -/
def Orders (S : Stage) (v v' : Value) : Prop :=
  ∀ direction, List.Forall₂ (S.Entry true) (orderings v direction) (orderings v' direction)

/-- Fields to group by. -/
inductive Groups (S : Stage) : Value → Value → Prop where
  | list {vs vs' : List Value} (h : S.Named true (.list vs) (.list vs')) :
      Groups S (.list vs) (.list vs')
  | tuple {vs vs' : List Value} (h : S.Named true (.list vs) (.list vs')) :
      Groups S (.tuple vs) (.tuple vs')
  | name {v v' : Value} (h : S.Named true v v') (hv : v.items? = none) (hv' : v'.items? = none) :
      Groups S v v'

/-- The table of a join. -/
inductive Joined (S : Stage) : Value → Value → Prop where
  | pair {v v' main main' name : Value} (h : S.Named false main main')
      (hv : v.items? = some [main, name]) (hv' : v'.items? = some [main', name]) : Joined S v v'
  | malformed {v v' : Value} {vs vs' : List Value} (hv : v.items? = some vs)
      (hv' : v'.items? = some vs') (hvs : vs.length ≠ 2) (hvs' : vs'.length ≠ 2) : Joined S v v'
  | name {v v' : Value} (h : S.Named false v v') (hv : v.items? = none) (hv' : v'.items? = none) :
      Joined S v v'

/-! ### Equal prefixes -/

/-- What is in front of table names is the same in both sessions. -/
def Uniform (S : Stage) : Prop := S.s.prefixOf S.conn = S.s'.prefixOf S.conn'

variable (h : S.Uniform)
include h

theorem Uniform.named (mixed : Bool) (v : Value) : S.Named mixed v v :=
  ⟨congrArg (· >>= (prefixed · mixed v)) h, Iff.rfl⟩

theorem Uniform.entries (mixed : Bool) (es : List (Value × Value)) :
    List.Forall₂ (S.Entry mixed) es es :=
  List.forall₂_same.2 fun e _ => ⟨h.named mixed e.1, rfl⟩

theorem Uniform.tables (v : Value) : S.Tables v v := by
  cases v with
  | map es => exact .map (h.entries false es)
  | list vs => exact .list (h.named false _)
  | tuple vs => exact .tuple (h.named false _)
  | _ => exact .name (h.named false _) rfl rfl

omit h in
mutual

theorem Uniform.field (h : S.Uniform) (v : Value) : S.Field v v :=
  if hmany : v.isMany = true then
    match v, hmany with
    | .map es, _ => .map (h.entries true es)
    | .list vs, _ => .list (Uniform.fields h vs)
    | .tuple vs, _ => .tuple (Uniform.fields h vs)
  else .name (h.named true v) (Bool.eq_false_iff.2 hmany) (Bool.eq_false_iff.2 hmany)

theorem Uniform.fields (h : S.Uniform) : ∀ vs : List Value, S.Fields vs vs
  | [] => .nil
  | v :: vs => .cons (Uniform.field h v) (Uniform.fields h vs)

end

theorem Uniform.orders (v : Value) : S.Orders v v := fun _ => h.entries true _

theorem Uniform.groups (v : Value) : S.Groups v v := by
  cases v with
  | list vs => exact .list (h.named true _)
  | tuple vs => exact .tuple (h.named true _)
  | _ => exact .name (h.named true _) rfl rfl

theorem Uniform.joined (v : Value) : S.Joined v v := by
  cases hv : v.items? with
  | none => exact .name (h.named false v) hv hv
  | some vs =>
    by_cases hpair : vs.length = 2
    · obtain ⟨main, name, rfl⟩ := List.length_eq_two.1 hpair
      exact .pair (h.named false main) hv hv
    · exact .malformed hv hv hpair hpair

end Stage

/-- What something is compared with: a builder of a pair, or the same value. -/
inductive Subject (own : List Pair) : Value → Value → Prop where
  | same {v : Value} (h : v.isBuilder = false) : Subject own v v
  | builder {id id' : Nat} (kind : BuilderKind) (h : Coupled own id id') :
      Subject own (.builder id kind) (.builder id' kind)

theorem Subject.mono {own' : List Pair} {v v' : Value} (h : Subject own v v')
    (hsub : own ⊆ own') : Subject own' v v' := by
  cases h with
  | same h => exact .same h
  | builder kind h => exact .builder kind (h.mono hsub)

/-- Two callbacks concur on the builders of every pair there will be. -/
def Callbacks (S : Stage) (own : List Pair) (f f' : Nat → Action Unit) : Prop :=
  ∀ own', own ⊆ own' → ∀ g g', Coupled own' g g' → Match S own' (f g) (f' g')

theorem Callbacks.mono {own' : List Pair} {f f' : Nat → Action Unit} (h : Callbacks S own f f')
    (hsub : own ⊆ own') : Callbacks S own' f f' :=
  fun own'' hsub' => h own'' (List.Subset.trans hsub hsub')

/-- The keys of conditions: names, or callbacks that concur. -/
inductive Key (S : Stage) (own : List Pair) : Operand → Operand → Prop where
  | value {v v' : Value} (h : S.Named true v v') : Key S own (.value v) (.value v')
  | callback (identity : Nat) {f f' : Nat → Action Unit} (h : Callbacks S own f f') :
      Key S own (.callback identity f) (.callback identity f')

theorem Key.mono {own' : List Pair} {op op' : Operand} (h : Key S own op op') (hsub : own ⊆ own') :
    Key S own' op op' := by
  cases h with
  | value h => exact .value h
  | callback identity h => exact .callback identity (h.mono hsub)

theorem Key.plain {op op' : Operand} (h : Key S own op op') : S.Named true op.plain op'.plain := by
  cases h with
  | value h => exact h
  | callback identity h => exact S.named_other true rfl rfl

theorem Key.raw (sql : String) (bindings : List Value) :
    Key S own (.value (.raw sql bindings)) (.value (.raw sql bindings)) :=
  .value (S.named_other true rfl rfl)

/-! ## Tables -/

theorem concur_newQuery (hb : Coupled own b b') :
    Concur S own (newQuery b) (newQuery b') Coupled := by
  refine (concur_connectionOf hb).bind fun own₁ h₁ c c' hc => ?_
  obtain ⟨rfl, rfl⟩ := hc
  exact concur_newBuilder .query .empty

theorem match_setAlias (hb : Coupled own b b') (name table : Value) :
    Match S own (setAlias b name table) (setAlias b' name table) := by
  refine (match_edit hb _).andThen fun own₁ h₁ _ => ?_
  refine (Concur.result name.lower).andThen fun own₂ h₂ name => ?_
  exact match_change ((hb.mono h₁).mono h₂) _

theorem collectTables_name {v : Value} (hv : v.isMany = false) (b : Nat) :
    collectTables b v = (do pure [← addPrefix b v false]) := by
  cases v <;> first | rfl | cases hv

theorem match_collectTables (hb : Coupled own b b') {v v' : Value} (h : S.Tables v v') :
    Match S own (collectTables b v) (collectTables b' v') := by
  cases h with
  | map h =>
    refine Concur.mapM h fun own₁ h₁ e e' he => ?_
    obtain ⟨table, name⟩ := e
    obtain ⟨table', name'⟩ := e'
    obtain ⟨htable, rfl⟩ := he
    refine (match_addPrefix (hb.mono h₁) htable).andThen fun own₂ h₂ table => ?_
    exact (match_setAlias ((hb.mono h₁).mono h₂) _ _).andThen fun _ _ _ => .pure rfl
  | list h => exact match_addPrefixAll hb h
  | tuple h => exact match_addPrefixAll hb h
  | name h hv hv' =>
    rw [collectTables_name hv, collectTables_name hv']
    exact (match_addPrefix hb h).andThen fun _ _ _ => .pure rfl

theorem isNothing_iff {vs vs' : List Value} (h : List.Forall₂ S.Tables vs vs') :
    isNothing vs' = isNothing vs := by
  have hnull {v v' : Value} (h : S.Tables v v') : v = .null ↔ v' = .null := by
    cases h with
    | name h => exact h.null
    | _ => exact iff_of_false nofun nofun
  have hsingle (v : Value) : isNothing [v] = true ↔ v = .null := by
    cases v <;> simp [isNothing]
  cases h with
  | nil => rfl
  | @cons v v' vs vs' h hs =>
    cases hs with
    | nil => exact Bool.eq_iff_iff.2 ((hsingle v').trans ((hnull h).symm.trans (hsingle v).symm))
    | cons _ _ => rw [isNothing.eq_3, isNothing.eq_3] <;> simp

theorem match_fromTables (hb : Coupled own b b') {vs vs' : List Value}
    (h : List.Forall₂ S.Tables vs vs') : Match S own (fromTables b vs) (fromTables b' vs') := by
  unfold fromTables
  rw [isNothing_iff h]
  split
  · exact match_edit hb _
  · refine (Concur.mapM h fun own₁ h₁ v v' hv =>
      match_collectTables (hb.mono h₁) hv).andThen fun own₂ h₂ collected => ?_
    exact match_change (hb.mono h₂) _

theorem match_aliasTable (hb : Coupled own b b') (name : Value) {table table' : Value}
    (h : S.Named false table table') :
    Match S own (aliasTable b name table) (aliasTable b' name table') := by
  have hfirst (b : Nat) : aliasTable b name .null = (do
      let s ← statementsOf b
      if !s.hasTables then throw (.validation .noTable)
      setAlias b name (← ofResult s.tables.front)) := rfl
  have hgiven (b : Nat) {v : Value} (hv : v ≠ .null) : aliasTable b name v = (do
      setAlias b name (← addPrefix b v false)) := by
    cases v <;> first | rfl | exact absurd rfl hv
  by_cases hnull : table = .null
  · obtain rfl := hnull
    obtain rfl := h.null.1 rfl
    rw [hfirst, hfirst]
    refine (match_statementsOf hb).andThen fun own₁ h₁ s => Concur.checked ?_
    refine (Concur.result s.tables.front).andThen fun own₂ h₂ table => ?_
    exact match_setAlias ((hb.mono h₁).mono h₂) _ _
  · rw [hgiven b hnull, hgiven b' (mt h.null.2 hnull)]
    refine (match_addPrefix hb h).andThen fun own₁ h₁ table => ?_
    exact match_setAlias (hb.mono h₁) _ _

/-! ## Columns -/

theorem collectField_name {v : Value} (hv : v.isMany = false) (b : Nat) :
    collectField b v = (do pure [← addPrefix b v true]) := by
  cases v <;> first | rfl | cases hv

mutual

theorem match_collectField {own : List Pair} (hb : Coupled own b b') :
    ∀ {v v' : Value}, S.Field v v' → Match S own (collectField b v) (collectField b' v')
  | _, _, .map h => by
    refine Concur.mapM h fun own₁ h₁ e e' he => ?_
    obtain ⟨expression, name⟩ := e
    obtain ⟨expression', name'⟩ := e'
    obtain ⟨hexpression, rfl⟩ := he
    exact (match_addPrefix (hb.mono h₁) hexpression).andThen fun _ _ _ => .pure rfl
  | _, _, .list h => match_collectFields hb h
  | _, _, .tuple h => match_collectFields hb h
  | _, _, .name h hv hv' => by
    rw [collectField_name hv, collectField_name hv']
    exact (match_addPrefix hb h).andThen fun _ _ _ => .pure rfl

theorem match_collectFields {own : List Pair} (hb : Coupled own b b') :
    ∀ {vs vs' : List Value}, S.Fields vs vs' →
      Match S own (collectFields b vs) (collectFields b' vs')
  | _, _, .nil => .pure rfl
  | _, _, .cons h hs => by
    refine (match_collectField hb h).andThen fun own₁ h₁ items => ?_
    refine (match_collectFields (hb.mono h₁) hs).andThen fun own₂ h₂ rest => ?_
    exact .pure rfl

end

theorem match_select (hb : Coupled own b b') {vs vs' : List Value} (h : S.Fields vs vs') :
    Match S own (select b vs) (select b' vs') := by
  refine (match_collectFields hb h).andThen fun own₁ h₁ items => ?_
  refine (match_overwrites (hb.mono h₁)).andThen fun own₂ h₂ overwrite => ?_
  exact match_change ((hb.mono h₁).mono h₂) _

theorem match_selectDistinct (hb : Coupled own b b') {vs vs' : List Value} (h : S.Fields vs vs') :
    Match S own (selectDistinct b vs) (selectDistinct b' vs') := by
  refine (match_collectFields hb h).andThen fun own₁ h₁ items => ?_
  refine (match_overwrites (hb.mono h₁)).andThen fun own₂ h₂ overwrite => ?_
  exact match_change ((hb.mono h₁).mono h₂) _

/-! ## Conditions -/

theorem concur_subQuery (hb : Coupled own b b') (name : Value) :
    Concur S own (subQuery b name) (subQuery b' name) fun _ v v' => v' = v ∧ v.isRaw = true :=
  (match_compileSelect hb).andThen fun _ _ _ => .pure ⟨rfl, rfl⟩

theorem match_addCondition (hb : Coupled own b b') (list : ConditionList) (c : Condition) :
    Match S own (addCondition b list c) (addCondition b' list c) :=
  (match_overwrites hb).andThen fun _ h _ => match_tryEdit (hb.mono h) _

theorem match_collected (hb : Coupled own b b') (kind : BuilderKind) {f f' : Nat → Action Unit}
    (h : Callbacks S own f f') : Match S own (collected b kind f) (collected b' kind f') := by
  refine (concur_connectionOf hb).bind fun own₁ h₁ c c' hc => ?_
  obtain ⟨rfl, rfl⟩ := hc
  refine (concur_newBuilder kind .empty).bind fun own₂ h₂ g g' hg => ?_
  refine (h own₂ (List.Subset.trans h₁ h₂) g g' hg).andThen fun own₃ h₃ _ => ?_
  exact (match_statementsOf (hg.mono h₃)).andThen fun _ _ _ => .pure rfl

theorem match_condition (hb : Coupled own b b') {key key' : Operand} (hkey : Key S own key key')
    (operator joiner : Value) {v v' : Value} (hv : Subject own v v') :
    Match S own (condition b key operator v joiner) (condition b' key' operator v' joiner) := by
  rw [condition_parts, condition_parts]
  have hname : Match S own (addPrefix b key.plain true) (addPrefix b' key'.plain true) :=
    match_addPrefix hb hkey.plain
  have hgiven : Match S own (conditionKey b key operator) (conditionKey b' key' operator) := by
    cases hkey with
    | value h => exact hname
    | callback identity h =>
      cases operator with
      | null => exact (match_collected hb .criteria h).andThen fun _ _ _ => .pure rfl
      | _ => exact hname
  refine hgiven.andThen fun own₁ h₁ name => ?_
  have hvalue : Match S own₁ (conditionValue v) (conditionValue v') := by
    cases hv with
    | builder kind h => exact (concur_subQuery (h.mono h₁) .null).mono fun _ _ _ _ h => h.1.symm
    | same h =>
      cases v with
      | builder id kind => cases h
      | _ => exact .pure rfl
  exact hvalue.andThen fun _ _ _ => .pure rfl

theorem match_addWhere (hb : Coupled own b b') {key key' : Operand} (hkey : Key S own key key')
    (operator : Value) {v v' : Value} (hv : Subject own v v') (joiner : Joiner) :
    Match S own (addWhere b key operator v joiner) (addWhere b' key' operator v' joiner) := by
  refine (match_condition hb hkey operator _ hv).andThen fun own₁ h₁ c => ?_
  refine (concur_builder (hb.mono h₁)).bind fun own₂ h₂ x x' hx => ?_
  rw [hx.1]
  exact match_addCondition ((hb.mono h₁).mono h₂) _ c

theorem match_addRaw (hb : Coupled own b b') (sql : String) (bindings : List Value) :
    Match S own (addRaw b sql bindings) (addRaw b' sql bindings) :=
  match_addWhere hb (.raw sql bindings) .null (.same rfl) .and

/-- The operator and the value of a comparison. -/
def Compared (own : List Pair) (q q' : Value × Value) : Prop := q'.1 = q.1 ∧ Subject own q.2 q'.2

theorem match_compare (hb : Coupled own b b') (joiner : Joiner) {key key' : Operand}
    (hkey : Key S own key key') {operator operator' v v' : Option Value}
    (h : Compared own (operands operator v) (operands operator' v')) :
    Match S own (Builder.compare b joiner key operator v)
      (Builder.compare b' joiner key' operator' v') := by
  show Match S own (addWhere b key (operands operator v).1 (operands operator v).2 joiner)
    (addWhere b' key' (operands operator' v').1 (operands operator' v').2 joiner)
  rw [h.1]
  exact match_addWhere hb hkey _ h.2 joiner

theorem match_having (hb : Coupled own b b') {key key' : Operand} (hkey : Key S own key key')
    {operator operator' v v' : Option Value}
    (h : Compared own (operands operator v) (operands operator' v')) (joiner : Value) :
    Match S own (having b key operator v joiner) (having b' key' operator' v' joiner) := by
  show Match S own
    (condition b key (operands operator v).1 (operands operator v).2 joiner >>=
      addCondition b .havings)
    (condition b' key' (operands operator' v').1 (operands operator' v').2 joiner >>=
      addCondition b' .havings)
  rw [h.1]
  refine (match_condition hb hkey _ joiner h.2).andThen fun own₁ h₁ c => ?_
  exact match_addCondition (hb.mono h₁) .havings c

theorem match_among (hb : Coupled own b b') (negated : Bool) (joiner : Joiner) {key key' : Operand}
    (hkey : Key S own key key') {v v' : Value} (hv : Subject own v v') :
    Match S own (among b negated joiner key v) (among b' negated joiner key' v') := by
  have hadd (own' : List Pair) (h : own ⊆ own') (v v' : Value) (hv : Subject own' v v') :
      Match S own' (addWhere b key (negatable negated "IN") v joiner)
        (addWhere b' key' (negatable negated "IN") v' joiner) :=
    match_addWhere (hb.mono h) (hkey.mono h) _ hv joiner
  have hother {v : Value} (h : v.isBuilder = false) (own' : List Pair) :
      Concur S own' (pure v) (pure v) Subject := .pure (.same h)
  unfold among
  cases hv with
  | builder kind h => exact (Concur.pure (Q := Subject) (.builder kind h)).bind hadd
  | same h =>
    cases v with
    | builder id kind => cases h
    | raw sql bindings => exact (hother h own).bind hadd
    | _ =>
      refine (Concur.result _).andThen fun own₁ h₁ items => ?_
      exact (hother rfl own₁).bind fun own₂ h₂ => hadd own₂ (List.Subset.trans h₁ h₂)

theorem match_dateBetween (hb : Coupled own b b') (negated : Bool) {key key' : Operand}
    (hkey : Key S own key key') (least most : Value) :
    Match S own (dateBetween b negated key least most)
      (dateBetween b' negated key' least most) := by
  refine (match_adapterOf hb).andThen fun own₁ h₁ a => ?_
  exact match_addWhere (hb.mono h₁) (hkey.mono h₁) _ (.same rfl) .and

theorem match_whereExists (hb : Coupled own b b') {op op' : Operand}
    (h : Callbacks S own op.apply op'.apply) :
    Match S own (whereExists b op) (whereExists b' op') := by
  refine (concur_newQuery hb).bind fun own₁ h₁ target target' htarget => ?_
  refine (h own₁ h₁ target target' htarget).andThen fun own₂ h₂ _ => ?_
  refine (match_compileSelect (htarget.mono h₂)).andThen fun own₃ h₃ q => ?_
  exact match_addRaw (((hb.mono h₁).mono h₂).mono h₃) _ _

theorem match_whereDatePart (hb : Coupled own b b') (part : String) (column operator : Value)
    (v : Option Value) :
    Match S own (whereDatePart b part column operator v)
      (whereDatePart b' part column operator v) := by
  unfold whereDatePart
  refine (match_adapterOf hb).andThen fun own₁ h₁ a => ?_
  exact match_addRaw (hb.mono h₁) _ _

theorem match_whereColumn (hb : Coupled own b b') (first : Value) (rest : List Value) :
    Match S own (whereColumn b first rest) (whereColumn b' first rest) := by
  refine Concur.forM (P := Eq) (List.forall₂_same.2 fun _ _ => rfl) fun own₁ h₁ request _ heq => ?_
  obtain rfl := heq
  cases request with
  | comparison first operator second =>
    refine (match_adapterOf (hb.mono h₁)).andThen fun own₂ h₂ a => ?_
    exact match_addRaw ((hb.mono h₁).mono h₂) _ _
  | malformed => exact .throw _

/-! ## Joins -/

theorem match_on (hb : Coupled own b b') {key key' : Value} (hkey : S.Named true key key')
    (operator : Value) {v v' : Value} (hv : S.Named true v v') (joiner : Value) :
    Match S own (on b key operator v joiner) (on b' key' operator v' joiner) := by
  refine (match_addPrefix hb hkey).andThen fun own₁ h₁ key => ?_
  refine (match_addPrefix (hb.mono h₁) hv).andThen fun own₂ h₂ v => ?_
  exact match_addCondition ((hb.mono h₁).mono h₂) .criteria _

theorem match_onShared (hb : Coupled own b b') (columns : Value) :
    Match S own (onShared b columns) (onShared b' columns) := by
  have hadd (own' : List Pair) (h : own ⊆ own') (columns : List Value) :
      Match S own' (addCondition b .criteria
          { Condition.plain .null .null .null (.text "AND USING") with columns })
        (addCondition b' .criteria
          { Condition.plain .null .null .null (.text "AND USING") with columns }) :=
    match_addCondition (hb.mono h) .criteria _
  unfold onShared
  cases columns with
  | text s => exact (Concur.pure (Q := fun _ => Eq) rfl).andThen hadd
  | _ => exact (Concur.result _).andThen hadd

theorem joinTable_pair {v main name : Value} (hv : v.items? = some [main, name]) (b : Nat) :
    joinTable b v = (do pure (.tuple [← addPrefix b main false, name])) := by
  cases v <;> cases hv <;> rfl

theorem joinTable_malformed {v : Value} {vs : List Value} (hv : v.items? = some vs)
    (hvs : vs.length ≠ 2) (b : Nat) : joinTable b v = throw (.misuse .badValue) := by
  have hne : ∀ main name, vs ≠ [main, name] := by
    rintro main name rfl
    exact hvs rfl
  cases v <;> cases hv
  · exact joinTable.eq_3 b vs hne
  · exact joinTable.eq_4 b vs hne

theorem joinTable_name {v : Value} (hv : v.items? = none) (b : Nat) :
    joinTable b v = addPrefix b v false := by
  cases v <;> first | rfl | cases hv

theorem match_joinTable (hb : Coupled own b b') {v v' : Value} (h : S.Joined v v') :
    Match S own (joinTable b v) (joinTable b' v') := by
  cases h with
  | pair h hv hv' =>
    rw [joinTable_pair hv, joinTable_pair hv']
    exact (match_addPrefix hb h).andThen fun _ _ _ => .pure rfl
  | malformed hv hv' hvs hvs' =>
    rw [joinTable_malformed hv hvs, joinTable_malformed hv' hvs']
    exact .throw _
  | name h hv hv' =>
    rw [joinTable_name hv, joinTable_name hv']
    exact match_addPrefix hb h

theorem match_addJoin (hb : Coupled own b b') (kind : Value) {table table' : Value}
    (h : S.Joined table table') (criteria : List Condition) :
    Match S own (addJoin b kind table criteria) (addJoin b' kind table' criteria) := by
  refine (match_joinTable hb h).andThen fun own₁ h₁ table => ?_
  refine (match_overwrites (hb.mono h₁)).andThen fun own₂ h₂ overwrite => ?_
  cases kind.lower with
  | ok kind => exact match_tryEdit ((hb.mono h₁).mono h₂) _
  | error f =>
    exact (match_tryEdit ((hb.mono h₁).mono h₂) _).andThen fun own₃ h₃ _ => .throw f

theorem match_join (hb : Coupled own b b') (kind : Value) {table table' : Value}
    (htable : S.Joined table table') {key key' : Operand} (hkey : Key S own key key')
    (operator : Value) {v v' : Value} (hv : S.Named true v v') :
    Match S own (join b kind table key operator v) (join b' kind table' key' operator v') := by
  have hadd (own' : List Pair) (h : own ⊆ own') (criteria : List Condition) :
      Match S own' (addJoin b kind table criteria) (addJoin b' kind table' criteria) :=
    match_addJoin (hb.mono h) kind htable criteria
  unfold join
  cases hkey with
  | callback identity h => exact (match_collected hb .join h).andThen hadd
  | @value name name' h =>
    by_cases hnull : name = .null
    · obtain rfl := hnull
      obtain rfl := h.null.1 rfl
      exact (Concur.pure (Q := fun _ => Eq) rfl).andThen hadd
    · have hnull' := mt h.null.2 hnull
      have hon : Match S own (collected b .join fun j => on j name operator v (.text "AND"))
          (collected b' .join fun j => on j name' operator v' (.text "AND")) :=
        match_collected hb .join fun own' _ j j' hj => match_on hj h operator hv (.text "AND")
      have hjoin := hon.andThen hadd
      cases name <;> first
        | exact absurd rfl hnull
        | cases name' <;> first | exact hjoin | exact absurd rfl hnull'

theorem match_joinUsing (hb : Coupled own b b') (kind : Value) {table table' : Value}
    (htable : S.Joined table table') (columns : Value) :
    Match S own (joinUsing b kind table columns) (joinUsing b' kind table' columns) := by
  refine (match_collected hb .join fun own' _ j j' hj => match_onShared hj columns).andThen
    fun own₁ h₁ criteria => ?_
  exact match_addJoin (hb.mono h₁) kind htable criteria

/-! ## Ordering, grouping, paging, unions -/

theorem match_orderBy (hb : Coupled own b b') {fields fields' : Value} (h : S.Orders fields fields')
    (direction : Value) :
    Match S own (orderBy b fields direction) (orderBy b' fields' direction) := by
  refine Concur.forM (h direction) fun own₁ h₁ e e' he => ?_
  obtain ⟨field, direction⟩ := e
  obtain ⟨field', direction'⟩ := e'
  obtain ⟨hfield, rfl⟩ := he
  refine (match_addPrefix (hb.mono h₁) hfield).andThen fun own₂ h₂ field => ?_
  refine (match_overwrites ((hb.mono h₁).mono h₂)).andThen fun own₃ h₃ overwrite => ?_
  exact match_tryEdit (((hb.mono h₁).mono h₂).mono h₃) _

/-- Groups by what one more argument gives. -/
def groupField (b : Nat) (field : Value) : Action Unit := do
  change b (·.addGroups [])
  let fields ← match field with
    | .list items | .tuple items => addPrefixAll b items true
    | field => do pure [← addPrefix b field true]
  change b (·.addGroups fields)

theorem groupField_name {v : Value} (hv : v.items? = none) (b : Nat) :
    groupField b v = (do
      change b (·.addGroups [])
      let field ← addPrefix b v true
      change b (·.addGroups [field])) := by
  cases v with
  | list | tuple => cases hv
  | _ => rfl

theorem match_groupField (hb : Coupled own b b') {field field' : Value}
    (h : S.Groups field field') :
    Match S own (groupField b field) (groupField b' field') := by
  have hmany {vs vs' : List Value} (h : S.Named true (.list vs) (.list vs')) :
      Match S own (do change b (·.addGroups []); change b (·.addGroups (← addPrefixAll b vs true)))
        (do change b' (·.addGroups []); change b' (·.addGroups (← addPrefixAll b' vs' true))) := by
    refine (match_change hb _).andThen fun own₁ h₁ _ => ?_
    refine (match_addPrefixAll (hb.mono h₁) h).andThen fun own₂ h₂ fields => ?_
    exact match_change ((hb.mono h₁).mono h₂) _
  cases h with
  | list h => exact hmany h
  | tuple h => exact hmany h
  | name h hv hv' =>
    rw [groupField_name hv, groupField_name hv']
    refine (match_change hb _).andThen fun own₁ h₁ _ => ?_
    refine (match_addPrefix (hb.mono h₁) h).andThen fun own₂ h₂ field => ?_
    exact match_change ((hb.mono h₁).mono h₂) _

theorem match_groupBy (hb : Coupled own b b') {fields fields' : List Value}
    (h : List.Forall₂ S.Groups fields fields') :
    Match S own (groupBy b fields) (groupBy b' fields') := by
  refine (match_overwrites hb).andThen fun own₁ h₁ overwrite => ?_
  refine (match_edit (hb.mono h₁) _).andThen fun own₂ h₂ _ => ?_
  exact Concur.forM h fun own₃ h₃ _ _ => match_groupField (((hb.mono h₁).mono h₂).mono h₃)

theorem match_limit (hb : Coupled own b b') (v : Value) : Match S own (limit b v) (limit b' v) :=
  (Concur.result v.toWhole).andThen fun _ h _ => match_edit (hb.mono h) _

theorem match_offset (hb : Coupled own b b') (v : Value) : Match S own (offset b v) (offset b' v) :=
  (Concur.result v.toWhole).andThen fun _ h _ => match_edit (hb.mono h) _

theorem match_onDuplicate (hb : Coupled own b b') (row : Value) :
    Match S own (onDuplicate b row) (onDuplicate b' row) :=
  (Concur.result row.toEntries).andThen fun _ h _ => match_edit (hb.mono h) _

theorem match_union (hb : Coupled own b b') {other other' : Value} (h : Subject own other other')
    (type : Value) : Match S own (union b other type) (union b' other' type) := by
  refine (Concur.result (unionType type)).andThen fun own₁ h₁ type => ?_
  have hmember : Concur S own₁ (Operand.builderOf other) (Operand.builderOf other') Coupled := by
    cases h with
    | builder kind h => exact .pure (h.mono h₁)
    | same h =>
      cases other with
      | builder id kind => cases h
      | _ => exact .throw _
  refine hmember.bind fun own₂ h₂ id id' hid => ?_
  refine (match_statementsOf hid).andThen fun own₃ h₃ member => ?_
  exact match_change (((hb.mono h₁).mono h₂).mono h₃) _

end SqlBuilder
