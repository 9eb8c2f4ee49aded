import SqlBuilder.Proofs.Related.Criteria

/-!
# What conditions bind

`boundConditions` lists the bindings of a list of conditions in the order of the text. A scalar of a
join is a name and binds nothing (`bindings_of_criteria`).
-/

set_option autoImplicit false

namespace SqlBuilder

open Adapter

namespace Value

/-- The bindings of a raw fragment. -/
def rawBindings : Value → List Value
  | .raw _ bindings => bindings
  | _ => []

end Value

/-- The comparison with an empty list becomes a constant. -/
def isEmptySet (operator value : Value) : Bool :=
  match operatorWord operator, value.items? with
  | .ok word, some [] => (emptySetPredicate? word).isSome
  | _, _ => false

/-- What is bound behind the operator. -/
def boundOperand (bindValues : Bool) (operator : Value) (value : Value) : List Value :=
  match value.items? with
  | some items => (if isBetween operator then items.take 2 else items).map Value.normalize
  | none =>
    match value with
    | .raw _ bindings => bindings
    | v => if bindValues then [v.normalize] else []

/-- What a comparison binds. -/
def boundComparison (bindValues : Bool) (key operator value : Value) : List Value :=
  if isEmptySet operator value then []
  else key.rawBindings ++
    if standsAlone bindValues key operator value then []
    else boundOperand bindValues operator value

mutual

/-- What a condition binds. -/
def boundCondition (bindValues : Bool) : Condition → List Value
  | { key, operator, value, columns, .. } =>
    if columns.isEmpty then boundKey bindValues operator value key else []

/-- What a group or a comparison binds. -/
def boundKey (bindValues : Bool) (operator value : Value) : Value → List Value
  | .group conditions => boundConditions true conditions
  | key => boundComparison bindValues key operator value

/-- What a list of conditions binds. -/
def boundConditions (bindValues : Bool) : List Condition → List Value
  | [] => []
  | c :: cs => boundCondition bindValues c ++ boundConditions bindValues cs

end

variable {a : Adapter}

theorem boundConditions_append (bindValues : Bool) (cs ds : List Condition) :
    boundConditions bindValues (cs ++ ds) =
      boundConditions bindValues cs ++ boundConditions bindValues ds := by
  induction cs with
  | nil => rfl
  | cons c cs ih => rw [List.cons_append, boundConditions, boundConditions, ih, List.append_assoc]

theorem boundConditions_singleton (bindValues : Bool) (c : Condition) :
    boundConditions bindValues [c] = boundCondition bindValues c := by
  rw [boundConditions, boundConditions, List.append_nil]

theorem boundKey_of_not_group (bindValues : Bool) (operator value : Value) {key : Value}
    (h : ∀ gs, key ≠ .group gs) :
    boundKey bindValues operator value key = boundComparison bindValues key operator value := by
  cases key <;> first | rfl | exact absurd rfl (h _)

namespace Adapter

/-! ## Comparisons -/

theorem bindings_conditionKey (style : CriteriaStyle) (key : Value) :
    (a.conditionKey style key).bindings = key.rawBindings := by
  cases hkey : key.isRaw with
  | true =>
    obtain ⟨sql, bindings, rfl⟩ := Value.exists_eq_raw hkey
    rfl
  | false =>
    rw [conditionKey_of_not_raw hkey]
    cases key <;> first | rfl | simp [Value.isRaw] at hkey

theorem bindings_rightSide (bindValues : Bool) (operator value : Value) :
    (a.rightSide bindValues operator value).bindings = boundOperand bindValues operator value := by
  unfold rightSide boundOperand
  cases value.items? with
  | some items =>
    dsimp only
    unfold listSide
    split
    · rfl
    · show [] ++ (placeholders ", " items).bindings ++ [] = _
      rw [bindings_placeholders, List.nil_append, List.append_nil]
  | none => cases bindValues <;> cases value <;> rfl

theorem bindings_of_comparison {style : CriteriaStyle} {key operator value : Value}
    {fs : List Fragment} (h : a.comparison style key operator value = .ok fs) :
    fs.flatMap Fragment.bindings = boundComparison style.bindValues key operator value := by
  have hspells := a.comparison_spells style key operator value
  rw [h] at hspells
  obtain ⟨f, hf, -, rfl⟩ := hspells.exists_ok
  rw [← Fragment.bindings_intercalate " "]
  generalize Fragment.intercalate " " fs = f at hf
  obtain ⟨word, hword, hf⟩ := bind_ok hf
  have hwritten : (if value.items?.isSome && !operator.isKey then misuse .wrongType
      else if standsAlone style.bindValues key operator value then
        pure (a.conditionKey style key)
      else pure (compared (a.conditionKey style key) operator
        (a.rightSide style.bindValues operator value))) = Except.ok f →
      f.bindings = key.rawBindings ++ if standsAlone style.bindValues key operator value then []
        else boundOperand style.bindValues operator value := by
    intro hf
    split at hf
    · cases hf
    · split at hf
      · rename_i halone
        cases hf
        rw [if_pos halone, List.append_nil, bindings_conditionKey]
      · rename_i halone
        cases hf
        rw [if_neg halone, ← a.bindings_rightSide, ← a.bindings_conditionKey style key]
        show (a.conditionKey style key).bindings ++ [] ++ _ = _
        rw [List.append_nil]
  unfold boundComparison isEmptySet
  rw [hword]
  revert hf hwritten
  generalize value.items? = items
  intro hf hwritten
  cases hpredicate : emptySetPredicate? word with
  | none =>
    rw [hpredicate] at hf
    rcases items with _ | _ | _
    · exact hwritten hf
    · exact (hwritten hf).trans (if_neg (by simp [hpredicate])).symm
    · exact hwritten hf
  | some predicate =>
    rw [hpredicate] at hf
    rcases items with _ | _ | _
    · exact hwritten hf
    · cases hf
      exact (if_pos (by simp [hpredicate])).symm
    · exact hwritten hf

/-! ## Lists of conditions -/

theorem bindings_of_pieces {ps : List Piece} {f : Fragment} (h : joinPieces ps = .ok f) :
    f.bindings = ps.flatMap fun p => (p.map Fragment.bindings).getD [] := by
  unfold joinPieces at h
  cases hfs : ps.mapM id with
  | none =>
    rw [hfs] at h
    cases h
  | some fs =>
    rw [hfs] at h
    cases h
    rw [Fragment.bindings_intercalate]
    induction ps generalizing fs with
    | nil =>
      cases hfs
      rfl
    | cons p ps ih =>
      rw [List.mapM_cons] at hfs
      cases p with
      | none => cases hfs
      | some f =>
        cases hrest : ps.mapM id with
        | none =>
          rw [hrest] at hfs
          cases hfs
        | some rest =>
          rw [hrest] at hfs
          cases hfs
          exact congrArg (f.bindings ++ ·) (ih rest hrest)

/-- The words between the conditions bind nothing. -/
theorem bindings_of_word (v : Value) :
    (wordPieces v).flatMap (fun p => (p.map Fragment.bindings).getD []) = [] := by
  unfold wordPieces
  split
  · cases v <;> rfl
  · rfl

theorem bindings_of_body (fs : List Fragment) :
    (fs.map some).flatMap (fun p => (p.map Fragment.bindings).getD []) =
      fs.flatMap Fragment.bindings := by
  rw [List.flatMap_map]
  rfl

theorem bindings_of_criteriaPieces {style : CriteriaStyle} {first : Bool} :
    ∀ {cs : List Condition} {ps : List Piece}, a.criteriaPieces style first cs = .ok ps →
      ps.flatMap (fun p => (p.map Fragment.bindings).getD []) =
        boundConditions style.bindValues cs
  | [], _, h => by
    cases h
    rfl
  | ⟨key, operator, value, joiner, leading, columns⟩ :: cs, ps, h => by
    rw [criteriaPieces] at h
    obtain ⟨word, -, h⟩ := bind_ok h
    obtain ⟨body, hbody, h⟩ := bind_ok h
    obtain ⟨rest, hrest, h⟩ := bind_ok h
    have hlead : (if first then wordPieces leading else []).flatMap
        (fun p => (p.map Fragment.bindings).getD []) = [] := by
      split
      · exact bindings_of_word leading
      · rfl
    have hbound : body.flatMap Fragment.bindings =
        boundCondition style.bindValues ⟨key, operator, value, joiner, leading, columns⟩ := by
      rw [boundCondition]
      rw [conditionBody] at hbody
      split at hbody
      · rename_i hcolumns
        rw [if_pos hcolumns]
        cases key with
        | group conditions =>
          rw [keyBody] at hbody
          obtain ⟨pieces, hpieces, hbody⟩ := bind_ok hbody
          obtain ⟨f, hf, hbody⟩ := bind_ok hbody
          cases hbody
          rw [boundKey, ← bindings_of_criteriaPieces hpieces, ← bindings_of_pieces hf]
          show [] ++ f.bindings ++ [] ++ [] = _
          rw [List.append_nil, List.append_nil, List.nil_append]
        | _ => exact bindings_of_comparison hbody
      · rename_i hcolumns
        rw [if_neg hcolumns]
        cases hbody
        rfl
    cases h
    rw [List.flatMap_append, List.flatMap_append, List.flatMap_append, hlead, bindings_of_word,
      bindings_of_body, hbound, bindings_of_criteriaPieces hrest, boundConditions]
    rfl
termination_by cs => sizeOf cs

/-- What a list of conditions is written with is what it binds. -/
theorem bindings_of_criteria {style : CriteriaStyle} {cs : List Condition} {f : Fragment}
    (h : a.criteria style cs = .ok f) : f.bindings = boundConditions style.bindValues cs := by
  obtain ⟨ps, hps, h⟩ := bind_ok h
  rw [bindings_of_pieces h, bindings_of_criteriaPieces hps]

end Adapter

end SqlBuilder
