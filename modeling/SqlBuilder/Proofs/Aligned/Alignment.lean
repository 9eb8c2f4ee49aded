import SqlBuilder.Proofs.Aligned.Replacement

/-!
# Placeholders match values

`fragment_lacks`: a sound request is written with closed quotes and with one placeholder for each
value, and one more for each value it leaves behind. It is a request compared with itself.
-/

set_option autoImplicit false

namespace SqlBuilder

open Placeholder Adapter Fragment

namespace Replacement

/-! ## Replacing nothing -/

theorem none_overlay (v : Value) : none.overlay (fun v => v) v = v := by
  cases v <;> rfl

theorem none_name (v : Value) : none.name v = v := none_overlay v

theorem none_item (v : Value) : none.item v = v := by
  cases v <;> first | rfl | simp only [item, none_name]

theorem listed_id {f : Value → Value} (hf : ∀ v, f v = v) (v : Value) : listed f v = v := by
  have hmap : ∀ items : List Value, items.map f = items := fun items => by
    rw [funext hf, List.map_id']
  cases v <;> first | rfl | simp only [listed, hmap]

theorem none_conditions (bindValues : Bool) : ∀ cs : List Condition,
    none.conditions bindValues cs = cs
  | [] => rfl
  | ⟨key, operator, value, joiner, leading, columns⟩ :: cs => by
    have hkey : none.conditionKey key = key := by
      cases key with
      | group gs => rw [conditionKey, none_conditions true gs]
      | _ => rfl
    rw [conditions, condition, none_conditions bindValues cs, hkey]
    exact congrArg (fun v => (⟨key, operator, v, joiner, leading, columns⟩ : Condition) :: cs)
      (none_overlay value)

theorem none_join (j : JoinEntry) : none.join j = j := by
  obtain ⟨kind, table, criteria⟩ := j
  have htable : none.joinTable table = table := by
    unfold joinTable
    split
    · rw [none_name]
    · exact none_name _
  rw [join, none_conditions, htable]

theorem none_order (entry : OrderEntry) : none.order entry = entry := by
  rw [order, none_name]

theorem none_data (v : Value) : none.data v = v := by
  cases v with
  | map entries =>
    have hrow : none.row entries = entries := by
      refine (List.map_congr_left fun e _ => ?_).trans (List.map_id' entries)
      exact congrArg (Prod.mk e.1) (none_overlay e.2)
    rw [data, hrow]
  | _ => rfl

theorem none_map {α : Type} {f : α → α} (hf : ∀ x, f x = x) (entries : Option (List α)) :
    entries.map (List.map f) = entries := by
  cases entries with
  | none => rfl
  | some entries => rw [funext hf, Option.map_some, List.map_id']

mutual

theorem none_statements (bindCriteria : Bool) : ∀ s : Statements,
    none.statements bindCriteria s = s
  | { selects, distincts, tables, aliases, wheres, havings, criteria, joins, groupBys, orderBys,
      unions, limit, offset, lock, onDuplicate } => by
    have hconditions : ∀ (bindValues : Bool) (conditions : Option (List Condition)),
        conditions.map (none.conditions bindValues) = conditions := by
      intro bindValues conditions
      cases conditions with
      | none => rfl
      | some cs => rw [Option.map_some, none_conditions]
    rw [statements, none_furtherMembers unions, none_data, listed_id none_item, listed_id none_item,
      listed_id none_item, listed_id none_name, hconditions, hconditions, hconditions,
      none_map none_join, none_map none_order]

theorem none_furtherMembers : ∀ unions : Option (List UnionEntry),
    none.furtherMembers unions = unions
  | .none => rfl
  | some entries => by rw [furtherMembers, none_members entries]

theorem none_members : ∀ entries : List UnionEntry, none.members entries = entries
  | [] => rfl
  | { statements := s, .. } :: entries => by
    rw [members, none_statements true s, none_members entries]

end

theorem none_payload (op : Operation) (values : List Value) : none.payload op values = values := by
  cases op <;> simp only [payload] <;> first
    | rfl
    | exact (List.map_congr_left fun v _ => none_data v).trans (List.map_id' values)
    | exact (List.map_congr_left fun v _ => listed_id none_item v).trans (List.map_id' values)

end Replacement

namespace Adapter

variable {P Q : Value → Prop} {a : Adapter}

/-! ## Counting -/

theorem lacks_listSide (hPQ : ∀ v, P v → Q v.normalize) {operator : Value} {items : List Value}
    (hbetween : isBetween operator = true → 2 ≤ items.length)
    (h : ∀ v ∈ Value.boundItems operator items, P v) : (listSide operator items).Lacks Q 0 := by
  unfold Value.boundItems at h
  unfold listSide
  split
  · rename_i hop
    rw [if_pos hop] at h
    have htext : Balanced "? AND ?" ∧ Placeholder.count "? AND ?" = 2 := by decide
    refine ⟨htext.1, ?_, ?_⟩
    · have := hbetween hop
      simp only [htext.2, List.length_map, List.length_take]
      omega
    · intro v hv
      obtain ⟨w, hw, rfl⟩ := List.mem_map.1 hv
      exact hPQ w (h w hw)
  · rename_i hop
    rw [if_neg hop] at h
    refine (lacking_congruence.parenthesized (lacking_congruence.intercalate
      (lacking_congruence.word (by decide)) (.of_forall₂ (List.forall₂_same.2 ?_)))).2
    intro f hf
    obtain ⟨v, hv, rfl⟩ := List.mem_map.1 hf
    exact ⟨rfl, lacks_bound (hPQ v (h v hv))⟩

theorem lacks_rightSide (hPQ : ∀ v, P v → Q v.normalize) {bindValues : Bool}
    {key operator v : Value} (h : Value.OperandSound P Q bindValues key operator v)
    (halone : standsAlone bindValues key operator v = false) :
    (a.rightSide bindValues operator v).Lacks Q 0 := by
  cases h with
  | raw hf => exact hf
  | items hitems hbetween h =>
    rw [rightSide, hitems]
    exact lacks_listSide hPQ hbetween h
  | alone h => exact absurd h (by simp [halone])
  | bound hscalar hbind h =>
    subst hbind
    rw [a.rightSide_bound hscalar]
    exact lacks_bound (hPQ v h)
  | name hscalar hbind h =>
    subst hbind
    rw [a.rightSide_name hscalar]
    exact lacks_ofText (a.quiet_wrapText h)

theorem dataValue_of_not_raw {v : Value} (h : v.isRaw = false) :
    dataValue v = Fragment.bound v.normalize := by
  cases v <;> first | rfl | simp [Value.isRaw] at h

theorem respects_none (hPQ : ∀ v, P v → Q v.normalize) :
    Replacement.Respects P Q (Lacking Q) a True .none .none where
  quiet h := ⟨rfl, lacks_ofText h⟩
  raw h := ⟨rfl, h⟩
  dropped h _ := ⟨rfl, fun _ hs => ⟨rfl, h.text.of_signs hs⟩⟩
  operand _ _ h := ⟨.rfl, .inr rfl, rfl, fun halone => ⟨rfl, lacks_rightSide hPQ h halone⟩⟩
  datum {v} hraw h := by
    have hvalue := lacks_bound (hPQ v h)
    rw [← dataValue_of_not_raw hraw] at hvalue
    exact ⟨rfl, hvalue⟩

/-- A sound request is written with as many placeholders as values, and one more for each value
that it leaves behind. -/
theorem fragment_lacks (hPQ : ∀ v, P v → Q v.normalize) {op : Operation} {s : Statements}
    {values : List Value} (hs : s.Sound P Q (Replacement.bindsCriteria values))
    (hvalues : PayloadSound P Q op values) {f : Fragment} (hf : a.fragment op s values = .ok f) :
    f.Lacks Q (s.lost op) := by
  have h := fragment_agree lacking_congruence ((respects_none (a := a) hPQ).requestRel
    lacking_congruence op hs hvalues (.inl trivial))
  rw [Replacement.none_statements, Replacement.none_payload, hf] at h
  obtain ⟨_, -, -, h⟩ := h.exists_ok
  exact h

end Adapter

end SqlBuilder
