import SqlBuilder.Proofs.Joining.Bindings
import SqlBuilder.Proofs.Joining.Calls

/-!
# What calls are given and what they bind

`JoinCall.given` lists what the calls on the builder of a join are given to bind: the values of the
`where` family, the bindings of raw fragments and those of subqueries. `JoinCall.lost` lists what of
it is not bound: a scalar that is given to the builder of the join itself becomes a name in the SQL,
and of the items for `BETWEEN` only two are taken.

* `accounts_of_conditionsAll`: the conditions bind what is given, but for what is lost.
-/

set_option autoImplicit false

namespace SqlBuilder

open Adapter

/-- What is bound is what is given, but for what is lost. -/
structure Accounts (bound given lost : List Value) : Prop where
  length : given.length = bound.length + lost.length
  eq : lost = [] → bound = given

namespace Accounts

theorem all (vs : List Value) : Accounts vs vs [] := ⟨rfl, fun _ => rfl⟩

/-- What comes behind is lost. -/
theorem behind (bound lost : List Value) : Accounts bound (bound ++ lost) lost where
  length := List.length_append
  eq hlost := by rw [hlost, List.append_nil]

theorem append {bound bound' given given' lost lost' : List Value} (h : Accounts bound given lost)
    (h' : Accounts bound' given' lost') :
    Accounts (bound ++ bound') (given ++ given') (lost ++ lost') where
  length := by
    have := h.length
    have := h'.length
    simp only [List.length_append]
    omega
  eq hlost := by
    obtain ⟨hlost, hlost'⟩ := List.append_eq_nil_iff.1 hlost
    rw [h.eq hlost, h'.eq hlost']

theorem eq_iff {bound given lost : List Value} (h : Accounts bound given lost) :
    bound = given ↔ lost = [] := by
  refine ⟨fun heq => ?_, h.eq⟩
  have hlength := h.length
  rw [heq] at hlength
  exact List.length_eq_zero_iff.1 (by omega)

end Accounts

/-! ## Comparisons -/

/-- What a value to compare with brings along to bind. -/
def Value.supplied (ctx : Context) : Value → List Value
  | .builder id _ =>
    match ctx.subQuery id with
    | .ok query => query.rawBindings
    | .error _ => []
  | .raw _ bindings => bindings
  | v =>
    match v.items? with
    | some items => items.map Value.normalize
    | none => [v.normalize]

/-- What of it is not bound. A scalar is not where scalars are names, nor behind a raw fragment
without an operator. -/
def unboundOperand (bindValues : Bool) (key operator : Value) : Value → List Value
  | .builder _ _ | .raw _ _ => []
  | v =>
    match v.items? with
    | some items => if isBetween operator then (items.drop 2).map Value.normalize else []
    | none => if bindValues && !(key.isRaw && operator.isNull) then [] else [v.normalize]

namespace Comparison

/-- What a comparison is given to bind. -/
def given (ctx : Context) (q : Comparison) : List Value :=
  match q.key, q.value? with
  | .group conditions, v? =>
    boundConditions true conditions ++ (v?.map (Value.supplied ctx)).getD []
  | key, none => key.rawBindings
  | key, some v => if isEmptySet q.operator v then [] else key.rawBindings ++ v.supplied ctx

/-- What of it is not bound. A group is not compared with anything. -/
def lost (ctx : Context) (bindValues : Bool) (q : Comparison) : List Value :=
  match q.key, q.value? with
  | .group _, v? => (v?.map (Value.supplied ctx)).getD []
  | _, none => []
  | key, some v => unboundOperand bindValues key q.operator v

/-- A comparison without a value is raw SQL that stands alone. -/
def Complete (q : Comparison) : Prop := q.value? = none → q.key.isRaw = true ∧ q.operator = .null

variable {key operator : Value} {value? : Option Value} {joiner : Joiner}

theorem given_of_not_group (h : ∀ gs, key ≠ .group gs) (ctx : Context) :
    given ctx ⟨key, operator, value?, joiner⟩ =
      match value? with
      | none => key.rawBindings
      | some v => if isEmptySet operator v then [] else key.rawBindings ++ v.supplied ctx := by
  cases key <;> cases value? <;> first | rfl | exact absurd rfl (h _)

theorem lost_of_not_group (h : ∀ gs, key ≠ .group gs) (ctx : Context) (bindValues : Bool) :
    lost ctx bindValues ⟨key, operator, value?, joiner⟩ =
      match value? with
      | none => []
      | some v => unboundOperand bindValues key operator v := by
  cases key <;> cases value? <;> first | rfl | exact absurd rfl (h _)

end Comparison

/-- A prefix changes names only. -/
inductive SameName : Value → Value → Prop where
  | refl (v : Value) : SameName v v
  | renamed {v v' : Value} (hraw : v.isRaw = false) (hraw' : v'.isRaw = false)
      (hgroup : ∀ gs, v ≠ .group gs) (hgroup' : ∀ gs, v' ≠ .group gs) : SameName v v'

theorem SameName.isRaw_eq {v v' : Value} (h : SameName v v') : v'.isRaw = v.isRaw := by
  cases h with
  | refl => rfl
  | renamed hraw hraw' => rw [hraw, hraw']

theorem rawBindings_of_not_raw {v : Value} (h : v.isRaw = false) : v.rawBindings = [] := by
  cases v <;> first | rfl | simp [Value.isRaw] at h

theorem SameName.rawBindings_eq {v v' : Value} (h : SameName v v') :
    v'.rawBindings = v.rawBindings := by
  cases h with
  | refl => rfl
  | renamed hraw hraw' => rw [rawBindings_of_not_raw hraw, rawBindings_of_not_raw hraw']

theorem sameName_prefixedName {p v v' : Value} {mixed : Bool}
    (h : Builder.prefixedName p mixed v = .ok v') : SameName v v' := by
  unfold Builder.prefixedName at h
  split at h
  · split at h
    · cases h
      exact .refl _
    · obtain ⟨t, -, rfl⟩ := Session.plus_text h
      exact .renamed rfl rfl (by simp) (by simp)
  · cases h
    exact .refl _

theorem sameName_prefixed {p v v' : Value} {mixed : Bool}
    (h : Builder.prefixed p mixed v = .ok v') : SameName v v' := by
  unfold Builder.prefixed at h
  split at h
  · cases h
    exact .refl _
  · split at h
    · obtain ⟨entries, -, h⟩ := bind_ok h
      cases h
      exact .renamed rfl rfl (by simp) (by simp)
    · obtain ⟨items, -, h⟩ := bind_ok h
      cases h
      exact .renamed rfl rfl (by simp) (by simp)
    · obtain ⟨items, -, h⟩ := bind_ok h
      cases h
      exact .renamed rfl rfl (by simp) (by simp)
    · exact sameName_prefixedName h

theorem sameName_named {ctx : Context} {v v' : Value} (h : ctx.named v = .ok v') :
    SameName v v' := by
  obtain ⟨p, -, h⟩ := bind_ok h
  exact sameName_prefixed h

section

variable {ctx : Context} {bindValues : Bool}

theorem not_isEmptySet {operator v : Value} (h : v.items? = none) :
    isEmptySet operator v = false := by
  unfold isEmptySet
  rw [h]
  cases operatorWord operator <;> rfl

theorem accounts_raw {key key' operator : Value} (hkey : SameName key key') (sql : String)
    (bindings : List Value) :
    Accounts (boundComparison bindValues key' operator (.raw sql bindings))
      (key.rawBindings ++ bindings) [] := by
  rw [boundComparison, not_isEmptySet rfl, if_neg (by simp),
    if_neg (by simp [standsAlone, Value.isRaw]), hkey.rawBindings_eq]
  exact .all _

theorem accounts_items {key key' operator v : Value} {items : List Value}
    (hkey : SameName key key') (hitems : v.items? = some items) :
    Accounts (boundComparison bindValues key' operator v)
      (if isEmptySet operator v then [] else key.rawBindings ++ items.map Value.normalize)
      (if isBetween operator then (items.drop 2).map Value.normalize else []) := by
  have halone : standsAlone bindValues key' operator v = false := by simp [standsAlone, hitems]
  rw [boundComparison, halone, hkey.rawBindings_eq]
  split
  · rename_i hempty
    have hnil : items = [] := by
      unfold isEmptySet at hempty
      rw [hitems] at hempty
      cases items with
      | nil => rfl
      | cons v vs => cases operatorWord operator <;> simp at hempty
    subst hnil
    cases isBetween operator <;> exact .all _
  · rw [if_neg (by simp)]
    unfold boundOperand
    rw [hitems]
    dsimp only
    split
    · refine ⟨?_, fun hdrop => ?_⟩
      · simp only [List.length_append, List.length_map, List.length_take, List.length_drop]
        omega
      · rw [List.map_eq_nil_iff, List.drop_eq_nil_iff] at hdrop
        rw [List.take_of_length_le hdrop]
    · exact .all _

theorem accounts_scalar {key key' operator v : Value} (hkey : SameName key key')
    (hscalar : v.isScalar = true) :
    Accounts (boundComparison bindValues key' operator v) (key.rawBindings ++ [v.normalize])
      (if bindValues && !(key.isRaw && operator.isNull) then [] else [v.normalize]) := by
  have hitems := Value.isScalar_iff.1 hscalar
  have halone : standsAlone bindValues key' operator v =
      (bindValues && (key.isRaw && operator.isNull)) := by
    simp [standsAlone, hitems, hkey.isRaw_eq, Bool.and_assoc]
  have hbound : boundOperand bindValues operator v = if bindValues then [v.normalize] else [] := by
    unfold boundOperand
    rw [hitems.1]
    cases v <;> first | rfl | simp [Value.isRaw] at hitems
  rw [boundComparison, not_isEmptySet hitems.1, if_neg (by simp), halone, hkey.rawBindings_eq,
    hbound]
  generalize (key.isRaw && operator.isNull) = alone
  have hlost : Accounts (key.rawBindings ++ []) (key.rawBindings ++ [v.normalize])
      [v.normalize] := by
    rw [List.append_nil]
    exact .behind _ _
  cases bindValues
  · exact hlost
  · cases alone
    · exact .all _
    · exact hlost

/-- What a value brings along is bound, but for what is lost. -/
theorem accounts_operand (hquery : ∀ id w, ctx.subQuery id = .ok w → w.isRaw = true)
    {key key' operator v v' : Value} (hkey : SameName key key') (hv : ctx.resolved v = .ok v') :
    Accounts (boundComparison bindValues key' operator v')
      (if isEmptySet operator v then [] else key.rawBindings ++ v.supplied ctx)
      (unboundOperand bindValues key operator v) := by
  cases v with
  | builder id kind =>
    obtain ⟨sql, bindings, rfl⟩ := Value.exists_eq_raw (hquery id v' hv)
    have hid : ctx.subQuery id = .ok (.raw sql bindings) := hv
    rw [not_isEmptySet rfl, if_neg (by simp), Value.supplied, hid]
    exact accounts_raw hkey sql bindings
  | raw sql bindings =>
    cases hv
    rw [not_isEmptySet rfl, if_neg (by simp)]
    exact accounts_raw hkey sql bindings
  | list items | tuple items =>
    cases hv
    exact accounts_items hkey rfl
  | _ =>
    cases hv
    rw [not_isEmptySet rfl, if_neg (by simp)]
    exact accounts_scalar hkey rfl

theorem accounts_comparison (hquery : ∀ id w, ctx.subQuery id = .ok w → w.isRaw = true)
    {q : Comparison} (hq : q.Complete) {cond : Condition} (h : ctx.condition q = .ok cond) :
    Accounts (boundCondition bindValues cond) (q.given ctx) (q.lost ctx bindValues) := by
  obtain ⟨key', hkey, h⟩ := bind_ok h
  obtain ⟨v', hv, h⟩ := bind_ok h
  cases h
  have hsame := sameName_named hkey
  obtain ⟨key, operator, value?, joiner⟩ := q
  show Accounts (boundKey bindValues operator v' key') _ _
  by_cases hgroup : ∃ gs, key = .group gs
  · obtain ⟨gs, rfl⟩ := hgroup
    cases hsame with
    | refl => exact .behind (boundConditions true gs) _
    | renamed _ _ hgroup => exact absurd rfl (hgroup gs)
  · have hnot : ∀ gs, key ≠ .group gs := fun gs h => hgroup ⟨gs, h⟩
    have hnot' : ∀ gs, key' ≠ .group gs := by
      cases hsame with
      | refl => exact hnot
      | renamed _ _ _ hgroup' => exact hgroup'
    rw [boundKey_of_not_group _ _ _ hnot', Comparison.given_of_not_group hnot,
      Comparison.lost_of_not_group hnot]
    cases value? with
    | some v => exact accounts_operand hquery hsame hv
    | none =>
      obtain ⟨hraw, rfl⟩ := hq rfl
      obtain ⟨sql, bindings, rfl⟩ := Value.exists_eq_raw hraw
      cases hv
      obtain ⟨sql', bindings', rfl⟩ := Value.exists_eq_raw (hsame.isRaw_eq.trans hraw)
      have hbound : boundComparison bindValues (.raw sql' bindings') .null .null = bindings' := by
        cases bindValues <;> exact List.append_nil _
      have hbindings : bindings' = bindings := hsame.rawBindings_eq
      show Accounts (boundComparison bindValues (.raw sql' bindings') .null .null) bindings []
      rw [hbound, hbindings]
      exact .all _

end

theorem isRaw_rawOf (sql bindings : Value) : (Builder.rawOf sql bindings).isRaw = true := by
  unfold Builder.rawOf Value.ofRaw
  split <;> rfl

theorem asked_complete {a : Adapter} {m : ConditionMethod} {args : List Value} (q : Comparison)
    (h : .ok q ∈ asked a m args) : q.Complete := by
  intro hv
  unfold asked at h
  split at h
  case h_1 joiner key =>
    obtain rfl := Except.ok.inj (List.mem_singleton.1 h)
    dsimp only at hv ⊢
    split at hv
    · rename_i hraw
      exact ⟨hraw, rfl⟩
    · cases hv
  case h_4 | h_5 =>
    cases List.mem_singleton.1 h
    refine ⟨?_, rfl⟩
    dsimp only
    exact isRaw_rawOf _ _
  case h_6 negated joiner key values =>
    obtain ⟨members, -, h⟩ := bind_ok (List.mem_singleton.1 h).symm
    cases h
    cases hv
  case h_14 first rest =>
    obtain ⟨request, -, h⟩ := List.mem_map.1 h
    cases request with
    | comparison =>
      cases h
      exact ⟨rfl, rfl⟩
    | malformed => cases h
  case h_15 | h_16 =>
    obtain rfl := Except.ok.inj (List.mem_singleton.1 h)
    exact ⟨rfl, rfl⟩
  case h_17 => cases List.mem_singleton.1 h
  all_goals
    obtain rfl := Except.ok.inj (List.mem_singleton.1 h)
    cases hv

/-! ## Calls -/

/-- What comparisons that are asked for come to. One that cannot be made comes to nothing. -/
def Comparison.total (f : Comparison → List Value) : List (Result Comparison) → List Value
  | [] => []
  | .ok q :: qs => f q ++ total f qs
  | .error _ :: qs => total f qs

namespace JoinCall

mutual

/-- What a call is given to bind. What `on` compares with are names, so only lists and raw fragments
bring values along. -/
def given (ctx : Context) : JoinCall → List Value
  | .on key operator value _ | .orOn key operator value =>
    match ctx.named key, ctx.named value with
    | .ok key, .ok value => boundKey false operator value key
    | _, _ => []
  | .shared _ => []
  | .condition m _ args => Comparison.total (Comparison.given ctx) (asked ctx.adapter m args)
  | .group _ calls => givenAll ctx calls
  | .rowsExist s =>
    match ctx.adapter.compile .select s [] with
    | .ok q => q.rawBindings
    | .error _ => []

/-- What calls are given to bind, in order. -/
def givenAll (ctx : Context) : List JoinCall → List Value
  | [] => []
  | call :: calls => given ctx call ++ givenAll ctx calls

end

mutual

/-- What of it is not bound. The scalars of groups are bound. -/
def lost (ctx : Context) (bindValues : Bool) : JoinCall → List Value
  | .on _ _ _ _ | .orOn _ _ _ | .shared _ | .rowsExist _ => []
  | .condition m _ args =>
    Comparison.total (Comparison.lost ctx bindValues) (asked ctx.adapter m args)
  | .group _ calls => lostAll ctx true calls

/-- What of what calls are given is not bound, in order. -/
def lostAll (ctx : Context) (bindValues : Bool) : List JoinCall → List Value
  | [] => []
  | call :: calls => lost ctx bindValues call ++ lostAll ctx bindValues calls

end

end JoinCall

section

variable {ctx : Context} {bindValues : Bool}

theorem accounts_asked (hquery : ∀ id w, ctx.subQuery id = .ok w → w.isRaw = true)
    {qs : List (Result Comparison)} (hqs : ∀ q : Comparison, .ok q ∈ qs → q.Complete)
    {cs : List Condition} (h : (qs.mapM fun q => do ctx.condition (← q)) = .ok cs) :
    Accounts (boundConditions bindValues cs) (Comparison.total (Comparison.given ctx) qs)
      (Comparison.total (Comparison.lost ctx bindValues) qs) := by
  induction qs generalizing cs with
  | nil =>
    cases h
    exact .all _
  | cons q qs ih =>
    rw [List.mapM_cons] at h
    obtain ⟨cond, hcond, h⟩ := bind_ok h
    obtain ⟨rest, hrest, h⟩ := bind_ok h
    cases h
    obtain ⟨q, rfl, hcond⟩ := bind_ok hcond
    have hfirst : Accounts (boundCondition bindValues cond) _ _ :=
      accounts_comparison hquery (hqs q List.mem_cons_self) hcond
    have hothers := ih (fun q hq => hqs q (List.mem_cons_of_mem _ hq)) hrest
    exact hfirst.append hothers

/-- Columns that both tables have bind nothing, and a comparison without any of them nothing either.
-/
theorem accounts_shared {kind : BuilderKind} (hkind : kind = .join → bindValues = false)
    {columns : Value} {cs : List Condition}
    (h : (JoinCall.shared columns).conditions ctx kind = .ok cs) :
    Accounts (boundConditions bindValues cs) [] [] := by
  rw [JoinCall.conditions] at h
  split at h
  · rename_i hjoin
    obtain ⟨names, -, h⟩ := bind_ok h
    cases h
    rw [hkind hjoin, boundConditions_singleton]
    cases names <;> exact .all _
  · cases h

/-- A condition of a comparison of columns binds what it brings along. -/
theorem accounts_on {kind : BuilderKind} (hkind : kind = .join → bindValues = false)
    {key operator v joiner : Value} {cs : List Condition}
    (h : ctx.on kind key operator v joiner = .ok cs) :
    Accounts (boundConditions bindValues cs)
      (match ctx.named key, ctx.named v with
        | .ok key, .ok v => boundKey false operator v key
        | _, _ => []) [] := by
  unfold Context.on at h
  split at h
  · rename_i hjoin
    obtain ⟨key', hkey, h⟩ := bind_ok h
    obtain ⟨v', hv, h⟩ := bind_ok h
    cases h
    rw [hkind hjoin, hkey, hv, boundConditions_singleton]
    exact .all _
  · cases h

namespace JoinCall

mutual

theorem accounts_of_conditions (hquery : ∀ id w, ctx.subQuery id = .ok w → w.isRaw = true)
    {kind : BuilderKind} {bindValues : Bool} (hkind : kind = .join → bindValues = false)
    {call : JoinCall}
    {cs : List Condition} (h : call.conditions ctx kind = .ok cs) :
    Accounts (boundConditions bindValues cs) (call.given ctx)
      (call.lost ctx bindValues) := by
  match call with
  | .on key operator v joiner =>
    rw [given, lost]
    exact accounts_on hkind h
  | .orOn key operator v =>
    rw [given, lost]
    exact accounts_on hkind h
  | .shared columns =>
    rw [given, lost]
    exact accounts_shared hkind h
  | .condition m hwhere args =>
    rw [conditions] at h
    rw [given, lost]
    exact accounts_asked hquery asked_complete h
  | .group joiner calls =>
    rw [conditions] at h
    obtain ⟨inner, hinner, h⟩ := bind_ok h
    cases h
    rw [given, lost, boundConditions_singleton]
    show Accounts (boundConditions true inner) _ _
    exact accounts_of_conditionsAll hquery (by simp) hinner
  | .rowsExist s =>
    rw [conditions] at h
    obtain ⟨q, hq, h⟩ := bind_ok h
    obtain ⟨cond, hcond, h⟩ := bind_ok h
    cases h
    rw [given, lost, boundConditions_singleton, hq]
    exact accounts_comparison hquery (fun _ => ⟨rfl, rfl⟩) hcond

theorem accounts_of_conditionsAll (hquery : ∀ id w, ctx.subQuery id = .ok w → w.isRaw = true)
    {kind : BuilderKind} {bindValues : Bool} (hkind : kind = .join → bindValues = false)
    {calls : List JoinCall}
    {cs : List Condition} (h : conditionsAll ctx kind calls = .ok cs) :
    Accounts (boundConditions bindValues cs) (givenAll ctx calls)
      (lostAll ctx bindValues calls) := by
  match calls with
  | [] =>
    cases h
    exact .all _
  | call :: calls =>
    rw [conditionsAll] at h
    obtain ⟨first, hfirst, h⟩ := bind_ok h
    obtain ⟨rest, hrest, h⟩ := bind_ok h
    cases h
    rw [givenAll, lostAll, boundConditions_append]
    exact (accounts_of_conditions hquery hkind hfirst).append
      (accounts_of_conditionsAll hquery hkind hrest)

end

end JoinCall

end

end SqlBuilder
