import SqlBuilder.Adapter.Clause
import SqlBuilder.Proofs.Related.Fragment
import SqlBuilder.Proofs.Text.Signs

/-!
# Related conditions

`ConditionsRel` relates two lists of conditions that are written alike: the same words and
operators, keys and values for which related fragments are written, and groups of related
conditions. `criteria_agree`: both lists fail with one fault, or are written as related fragments.

* `comparison_eq` says what a comparison is: a predicate for an empty list, the key alone, or the
  key, the operator and the right-hand side (`rightSide`).
* `OperandRel` relates the values of two comparisons by their right-hand sides.
-/

set_option autoImplicit false

namespace SqlBuilder

namespace Value

/-- Neither a raw fragment nor a list. -/
def isScalar (v : Value) : Bool := v.items?.isNone && !v.isRaw

theorem isScalar_iff {v : Value} : v.isScalar = true ↔ v.items? = none ∧ v.isRaw = false := by
  simp [isScalar]

theorem exists_eq_raw {v : Value} (h : v.isRaw = true) : ∃ sql bindings, v = .raw sql bindings := by
  cases v <;> simp only [isRaw, Bool.false_eq_true] at h
  exact ⟨_, _, rfl⟩

theorem eq_null {v : Value} (h : v.isNull = true) : v = .null := by
  cases v <;> simp only [isNull, Bool.false_eq_true] at h
  rfl

end Value

namespace Adapter

open Fragment

/-! ## The right-hand side -/

theorem sql_placeholders (separator : String) (vs : List Value) :
    (placeholders separator vs).sql = separator.intercalate (List.replicate vs.length "?") := by
  have hmarks : (vs.map fun v => Fragment.bound v.normalize).map Fragment.sql =
      List.replicate vs.length "?" := by
    rw [List.map_map, List.eq_replicate_iff]
    simp [Fragment.bound]
  rw [placeholders, Fragment.intercalate, hmarks]

@[simp] theorem bindings_placeholders (separator : String) (vs : List Value) :
    (placeholders separator vs).bindings = vs.map Value.normalize := by
  rw [placeholders, bindings_intercalate, List.flatMap_map, List.map_eq_flatMap]
  rfl

/-- What is written for the items of a list. -/
def listSide (operator : Value) (items : List Value) : Fragment :=
  if isBetween operator then ⟨"? AND ?", (items.take 2).map Value.normalize⟩
  else (placeholders ", " items).parenthesized

/-- What is written for a value that is no list. -/
def scalarSide (a : Adapter) (bindValues : Bool) : Value → Fragment
  | .raw sql bindings => ⟨sql, bindings⟩
  | v => if bindValues then Fragment.bound v.normalize else Fragment.ofText (a.wrap v)

/-- What is written behind the operator. -/
def rightSide (a : Adapter) (bindValues : Bool) (operator value : Value) : Fragment :=
  match value.items? with
  | some items => listSide operator items
  | none => a.scalarSide bindValues value

theorem rightSide_bound (a : Adapter) {v : Value} (h : v.isScalar = true) (operator : Value) :
    a.rightSide true operator v = Fragment.bound v.normalize := by
  cases v <;> first | rfl | simp [Value.isScalar, Value.items?, Value.isRaw] at h

theorem rightSide_name (a : Adapter) {v : Value} (h : v.isScalar = true) (operator : Value) :
    a.rightSide false operator v = ofText (a.wrapText v.toText) := by
  cases v <;> first | rfl | simp [Value.isScalar, Value.items?, Value.isRaw] at h

/-- The key is written alone. -/
def standsAlone (bindValues : Bool) (key operator value : Value) : Bool :=
  value.items?.isNone && !value.isRaw && (bindValues && key.isRaw && operator.isNull)

theorem items?_of_standsAlone {bindValues : Bool} {key operator v : Value}
    (h : standsAlone bindValues key operator v = true) : v.items? = none := by
  simp only [standsAlone, Bool.and_eq_true, Option.isNone_iff_eq_none] at h
  exact h.1.1

/-- The key, the operator and the right-hand side. -/
def compared (left : Fragment) (operator : Value) (right : Fragment) : Fragment :=
  left ++ ofText (" " ++ operator.toText ++ " ") ++ right

theorem comparison_list (a : Adapter) (style : CriteriaStyle) (key operator : Value) {value : Value}
    {items : List Value} (h : value.items? = some items) :
    a.comparison style key operator value = (do
      match emptySetPredicate? (← operatorWord operator), items with
      | some predicate, [] => pure [ofText predicate]
      | _, items => listComparison (a.conditionKey style key) operator items) := by
  cases value <;> simp only [Value.items?, Option.some.injEq, reduceCtorEq] at h
  all_goals
    subst h
    unfold comparison
    refine congrArg (bind (operatorWord operator)) (funext fun word => ?_)
    rename_i xs
    cases xs <;> cases emptySetPredicate? word <;> rfl

theorem alone_or_compared (bindValues : Bool) (key operator : Value) (left x y : Fragment) :
    (if (!bindValues) = true then pure [compared left operator y]
      else match key, operator with
        | .raw _ _, .null => pure [left]
        | _, _ => pure [compared left operator x] : Result (List Fragment)) =
      if bindValues && key.isRaw && operator.isNull then pure [left]
      else pure [compared left operator (if bindValues then x else y)] := by
  cases bindValues with
  | false => rfl
  | true =>
    rw [if_neg (by decide)]
    split
    · rfl
    · rename_i hother
      rw [if_neg]
      · rfl
      · intro h
        simp only [Bool.true_and, Bool.and_eq_true] at h
        obtain ⟨sql, bindings, rfl⟩ := Value.exists_eq_raw h.1
        exact hother sql bindings rfl (Value.eq_null h.2)

theorem comparison_scalar (a : Adapter) (style : CriteriaStyle) (key operator : Value)
    {value : Value} (h : value.items? = none) :
    a.comparison style key operator value = (do
      let _ ← operatorWord operator
      if standsAlone style.bindValues key operator value then pure [a.conditionKey style key]
      else pure [compared (a.conditionKey style key) operator
        (a.scalarSide style.bindValues value)]) := by
  unfold comparison
  refine congrArg (bind (operatorWord operator)) (funext fun word => ?_)
  cases value <;> simp only [Value.items?, reduceCtorEq] at h <;>
    cases emptySetPredicate? word <;>
    first | rfl | exact alone_or_compared style.bindValues key operator _ _ _

/-- A comparison as one fragment. -/
def comparisonText (a : Adapter) (style : CriteriaStyle) (key operator value : Value) :
    Result Fragment := do
  match emptySetPredicate? (← operatorWord operator), value.items? with
  | some predicate, some [] => pure (ofText predicate)
  | _, items? =>
    if items?.isSome && !operator.isKey then misuse .wrongType
    else if standsAlone style.bindValues key operator value then pure (a.conditionKey style key)
    else pure (compared (a.conditionKey style key) operator
      (a.rightSide style.bindValues operator value))

/-- The pieces with single spaces between them are the text. -/
def Spells (fs : List Fragment) (f : Fragment) : Prop := fs ≠ [] ∧ intercalate " " fs = f

theorem Spells.single (f : Fragment) : Spells [f] f := ⟨by simp, by simp⟩

theorem listComparison_spells (left : Fragment) (operator : Value) (items : List Value) :
    Agree Spells (listComparison left operator items)
      (if !operator.isKey then misuse .wrongType
        else pure (compared left operator (listSide operator items))) := by
  have hspells : ∀ right, Spells [left ++ ofText (" " ++ operator.toText), right]
      (compared left operator right) := by
    intro right
    refine ⟨by simp, ?_⟩
    rw [intercalate_cons _ _ (by simp), intercalate_singleton, ← append_assoc, append_assoc left]
    rfl
  unfold listComparison listSide
  split
  · exact .misuse _
  · split
    · exact .ok (hspells _)
    · exact .ok (hspells _)

theorem comparison_spells (a : Adapter) (style : CriteriaStyle) (key operator value : Value) :
    Agree Spells (a.comparison style key operator value)
      (a.comparisonText style key operator value) := by
  unfold comparisonText
  cases hitems : value.items? with
  | none =>
    rw [comparison_scalar a style key operator hitems]
    refine (Agree.self _).bind fun word _ hword => hword ▸ ?_
    have hright : a.rightSide style.bindValues operator value =
        a.scalarSide style.bindValues value := by rw [rightSide, hitems]
    simp only [hright]
    cases emptySetPredicate? word <;>
    · simp only [Option.isSome_none, Bool.false_and, Bool.false_eq_true, if_false]
      split
      · exact .ok (.single _)
      · exact .ok (.single _)
  | some items =>
    rw [comparison_list a style key operator hitems]
    refine (Agree.self _).bind fun word _ hword => hword ▸ ?_
    have hright : a.rightSide style.bindValues operator value = listSide operator items := by
      rw [rightSide, hitems]
    have halone : standsAlone style.bindValues key operator value = false := by
      simp [standsAlone, hitems]
    have hlist := listComparison_spells (a.conditionKey style key) operator items
    simp only [hright, halone, Bool.false_eq_true, if_false]
    cases items with
    | nil =>
      cases emptySetPredicate? word with
      | none => exact hlist
      | some predicate => exact .ok (.single _)
    | cons item items => cases emptySetPredicate? word <;> exact hlist

/-! ## Related keys and values -/

section Related

variable (R : Nat → Fragment → Fragment → Prop) (a : Adapter)

/-- What names a column or a table in both runs: one name, or raw fragments. -/
inductive Named : Value → Value → Prop where
  | raw {sql sql' : String} {bindings bindings' : List Value}
      (h : R 0 ⟨sql, bindings⟩ ⟨sql', bindings'⟩) : Named (.raw sql bindings) (.raw sql' bindings')
  | name {v : Value} (hraw : v.isRaw = false) (h : Steady R (a.wrap v)) : Named v v

/-- The values of two comparisons: lists for lists, except that a list that is not empty may have a
single right-hand side in the other run. -/
structure OperandRel (bindValues : Bool) (key operator value value' : Value) : Prop where
  empty_iff : value.items? = some [] ↔ value'.items? = some []
  keyed : operator.isKey = true ∨ value.items?.isSome = value'.items?.isSome
  alone : standsAlone bindValues key operator value = standsAlone bindValues key operator value'
  right : standsAlone bindValues key operator value = false →
    R 0 (a.rightSide bindValues operator value) (a.rightSide bindValues operator value')

variable {R a}

theorem Named.isRaw_eq {v v' : Value} (h : Named R a v v') : v.isRaw = v'.isRaw := by
  cases h <;> rfl

/-- Of the key it only matters whether it is a raw fragment. -/
theorem OperandRel.of_key {bindValues : Bool} {key key' operator value value' : Value}
    (hkey : key'.isRaw = key.isRaw) (h : OperandRel R a bindValues key operator value value') :
    OperandRel R a bindValues key' operator value value' where
  empty_iff := h.empty_iff
  keyed := h.keyed
  alone := by simpa only [standsAlone, hkey] using h.alone
  right halone := h.right (by simpa only [standsAlone, hkey] using halone)

/-- The second run by itself, under what its fragments have from being related to others. -/
theorem OperandRel.second {S : Nat → Fragment → Fragment → Prop}
    (hS : ∀ {f f' : Fragment}, R 0 f f' → S 0 f' f') {bindValues : Bool}
    {key operator value value' : Value} (h : OperandRel R a bindValues key operator value value') :
    OperandRel S a bindValues key operator value' value' :=
  ⟨.rfl, .inr rfl, rfl, fun halone => hS (h.right (h.alone.trans halone))⟩

theorem nameFragment_of_not_raw {v : Value} (h : v.isRaw = false) :
    a.nameFragment v = ofText (a.wrap v) := by
  cases v <;> first | rfl | simp [Value.isRaw] at h

theorem Named.nameFragment {v v' : Value} (h : Named R a v v') :
    R 0 (a.nameFragment v) (a.nameFragment v') := by
  cases h with
  | raw h => exact h
  | name hraw h => rwa [nameFragment_of_not_raw hraw]

theorem conditionKey_of_not_raw {style : CriteriaStyle} {key : Value} (h : key.isRaw = false) :
    a.conditionKey style key =
      ofText (if style.qualifier.isTrue && !(a.wrap key).toList.contains '.' then
        a.wrap style.qualifier ++ "." ++ a.wrap key else a.wrap key) := by
  cases key <;> simp only [Value.isRaw, Bool.true_eq_false] at h <;>
  · simp only [conditionKey]
    split <;> rfl

theorem Named.conditionKey (hR : Congruence R) {style : CriteriaStyle}
    (hqualifier : Steady R (a.wrap style.qualifier)) {v v' : Value} (h : Named R a v v') :
    R 0 (a.conditionKey style v) (a.conditionKey style v') := by
  cases h with
  | raw h => exact h
  | name hraw h =>
    rw [conditionKey_of_not_raw hraw]
    split
    · exact hR.steady_append (hR.steady_append hqualifier (hR.word (by decide))) h
    · exact h

theorem signs_emptySetPredicate {word predicate : String}
    (h : emptySetPredicate? word = some predicate) :
    Placeholder.signs predicate.toList = [] := by
  unfold emptySetPredicate? at h
  split at h
  · cases h; decide
  · cases h; decide
  · cases h

theorem comparisonText_agree (hR : Congruence R) {style : CriteriaStyle}
    (hqualifier : Steady R (a.wrap style.qualifier)) {key key' operator value value' : Value}
    (hkey : Named R a key key') (hop : Steady R operator.toText)
    (hvalue : OperandRel R a style.bindValues key operator value value') :
    Agree (R 0) (a.comparisonText style key operator value)
      (a.comparisonText style key' operator value') := by
  have hkeys := hkey.conditionKey hR hqualifier
  have hwritten : Agree (R 0)
      (if value.items?.isSome && !operator.isKey then misuse .wrongType
        else if standsAlone style.bindValues key operator value then
          pure (a.conditionKey style key)
        else pure (compared (a.conditionKey style key) operator
          (a.rightSide style.bindValues operator value)))
      (if value'.items?.isSome && !operator.isKey then misuse .wrongType
        else if standsAlone style.bindValues key' operator value' then
          pure (a.conditionKey style key')
        else pure (compared (a.conditionKey style key') operator
          (a.rightSide style.bindValues operator value'))) := by
    have hsome : (value.items?.isSome && !operator.isKey) =
        (value'.items?.isSome && !operator.isKey) := by
      rcases hvalue.keyed with h | h <;> simp [h]
    have halone : standsAlone style.bindValues key' operator value' =
        standsAlone style.bindValues key operator value := by
      rw [hvalue.alone, standsAlone, standsAlone, hkey.isRaw_eq]
    rw [hsome, halone]
    split
    · exact .misuse _
    · split
      · exact .ok hkeys
      · rename_i halone
        have hwords := hR.steady_append (hR.steady_append (hR.word (s := " ") (by decide)) hop)
          (hR.word (s := " ") (by decide))
        exact .ok (hR.append_zero (hR.append_zero hkeys hwords)
          (hvalue.right (eq_false_of_ne_true halone)))
  refine (Agree.self _).bind fun word _ hword => hword ▸ ?_
  cases hpredicate : emptySetPredicate? word with
  | none => exact hwritten
  | some predicate =>
    by_cases hempty : value.items? = some []
    · rw [hempty, hvalue.empty_iff.1 hempty]
      exact .ok (hR.word (signs_emptySetPredicate hpredicate))
    · have hempty' := mt hvalue.empty_iff.2 hempty
      revert hwritten
      generalize value.items? = items at hempty ⊢
      generalize value'.items? = items' at hempty' ⊢
      intro hwritten
      rcases items with _ | _ | _ <;> rcases items' with _ | _ | _ <;>
        first | exact hwritten | exact absurd rfl hempty | exact absurd rfl hempty'

theorem comparison_agree (hR : Congruence R) {style : CriteriaStyle}
    (hqualifier : Steady R (a.wrap style.qualifier)) {key key' operator value value' : Value}
    (hkey : Named R a key key') (hop : Steady R operator.toText)
    (hvalue : OperandRel R a style.bindValues key operator value value') :
    Agree (Joined R) (a.comparison style key operator value)
      (a.comparison style key' operator value') := by
  have htext := comparisonText_agree hR hqualifier hkey hop hvalue
  refine (((a.comparison_spells style key operator value).trans htext).trans
    (a.comparison_spells style key' operator value').symm).mono ?_
  rintro fs fs' ⟨f', ⟨f, ⟨hne, rfl⟩, h⟩, hne', rfl⟩
  exact ⟨by simp [hne, hne'], h⟩

/-! ## Lists of conditions -/

variable (R a)

/-- The words in front of a condition may be written in both runs. -/
structure Words (joiner leading : Value) : Prop where
  joiner : ∀ s, joiner = .text s → Steady R s ∧ Steady R (firstWords s)
  leading : ∀ s, leading = .text s → Steady R s

/-- Lists of conditions that are written alike, groups in them bound whatever the list is. -/
inductive ConditionsRel : Bool → List Condition → List Condition → Prop where
  | nil {bindValues : Bool} : ConditionsRel bindValues [] []
  | columns {bindValues : Bool} {k k' o o' v v' joiner leading : Value}
      {columns columns' : List Value} {cs cs' : List Condition} (words : Words R joiner leading)
      (hne : columns ≠ []) (heq : columns'.map a.wrap = columns.map a.wrap)
      (h : Steady R (", ".intercalate (columns.map a.wrap)))
      (rest : ConditionsRel bindValues cs cs') :
      ConditionsRel bindValues (⟨k, o, v, joiner, leading, columns⟩ :: cs)
        (⟨k', o', v', joiner, leading, columns'⟩ :: cs')
  | group {bindValues : Bool} {o o' v v' joiner leading : Value} {gs gs' cs cs' : List Condition}
      (words : Words R joiner leading) (inner : ConditionsRel true gs gs')
      (rest : ConditionsRel bindValues cs cs') :
      ConditionsRel bindValues (⟨.group gs, o, v, joiner, leading, []⟩ :: cs)
        (⟨.group gs', o', v', joiner, leading, []⟩ :: cs')
  | comparison {bindValues : Bool} {k k' operator v v' joiner leading : Value}
      {cs cs' : List Condition} (words : Words R joiner leading) (hgroup : ∀ gs, k ≠ .group gs)
      (hkey : Named R a k k') (hop : Steady R operator.toText)
      (hvalue : OperandRel R a bindValues k operator v v')
      (rest : ConditionsRel bindValues cs cs') :
      ConditionsRel bindValues (⟨k, operator, v, joiner, leading, []⟩ :: cs)
        (⟨k', operator, v', joiner, leading, []⟩ :: cs')

/-- Pieces of two lists: related, or neither list can be written. -/
inductive Pieced : List Piece → List Piece → Prop where
  | joined {fs fs' : List Fragment} (h : Joined R fs fs') : Pieced (fs.map some) (fs'.map some)
  | blocked {ps ps' : List Piece} (h : none ∈ ps) (h' : none ∈ ps') : Pieced ps ps'

variable {R a}

theorem joinPieces_some (fs : List Fragment) :
    joinPieces (fs.map some) = .ok (Fragment.intercalate " " fs) := by
  have : (fs.map some).mapM id = some fs := by
    induction fs with
    | nil => rfl
    | cons f fs ih => simp [ih]
  rw [joinPieces, this]

theorem joinPieces_none {ps : List Piece} (h : none ∈ ps) : joinPieces ps = misuse .wrongType := by
  have : ps.mapM id = none := by
    induction ps with
    | nil => cases h
    | cons p ps ih =>
      cases p with
      | none => rfl
      | some f =>
        have := ih (by simpa using h)
        simp [this]
  rw [joinPieces, this]

theorem Pieced.nil (hR : Congruence R) : Pieced R [] [] := .joined (Joined.nil hR)

theorem Pieced.single {f f' : Fragment} (h : R 0 f f') : Pieced R [some f] [some f'] :=
  .joined (Joined.single h)

theorem Pieced.glue {R S T : Nat → Fragment → Fragment → Prop}
    (hjoined : ∀ {fs fs' gs gs'}, Joined R fs fs' → Joined S gs gs' →
      Joined T (fs ++ gs) (fs' ++ gs'))
    {ps ps' qs qs' : List Piece} (hp : Pieced R ps ps') (hq : Pieced S qs qs') :
    Pieced T (ps ++ qs) (ps' ++ qs') := by
  cases hp with
  | blocked h h' => exact .blocked (List.mem_append_left _ h) (List.mem_append_left _ h')
  | joined hf =>
    cases hq with
    | blocked h h' => exact .blocked (List.mem_append_right _ h) (List.mem_append_right _ h')
    | joined hg =>
      rw [← List.map_append, ← List.map_append]
      exact .joined (hjoined hf hg)

theorem Pieced.append (hR : Congruence R) {ps ps' qs qs' : List Piece} (hp : Pieced R ps ps')
    (hq : Pieced R qs qs') : Pieced R (ps ++ qs) (ps' ++ qs') :=
  hp.glue (Joined.append hR) hq

theorem joinPieces_agree {ps ps' : List Piece} (h : Pieced R ps ps') :
    Agree (R 0) (joinPieces ps) (joinPieces ps') := by
  cases h with
  | joined h =>
    rw [joinPieces_some, joinPieces_some]
    exact .ok h.related
  | blocked h h' =>
    rw [joinPieces_none h, joinPieces_none h']
    exact .misuse _

/-- A word is the same piece in both runs. -/
theorem wordPieces_pieced (hR : Congruence R) {v : Value} (h : ∀ s, v = .text s → Steady R s) :
    Pieced R (wordPieces v) (wordPieces v) := by
  unfold wordPieces
  split
  · cases htext : v.text? with
    | none => exact .blocked (by simp) (by simp)
    | some s =>
      have hv : v = .text s := by cases v <;> simp_all [Value.text?]
      exact .single (h s hv)
  · exact .nil hR

theorem joinerWord_agree (hR : Congruence R) {joiner leading : Value} (h : Words R joiner leading)
    (first : Bool) :
    Agree (fun v v' => Pieced R (wordPieces v) (wordPieces v')) (joinerWord first joiner)
      (joinerWord first joiner) := by
  refine .refl fun word hword => wordPieces_pieced hR fun s hs => ?_
  subst hs
  unfold joinerWord at hword
  split at hword
  · cases hword
    exact (h.joiner s rfl).1
  · split at hword
    · cases hword
      exact (h.joiner _ rfl).2
    · split at hword
      · cases hword
        exact hR.word rfl
      · cases hword
    · cases hword

/-- A condition agrees with another if what stands behind the joiner does. -/
theorem criteriaPieces_cons (hR : Congruence R) {style : CriteriaStyle} {first : Bool}
    {c c' : Condition} {cs cs' : List Condition} (words : Words R c.joiner c.leading)
    (hjoiner : c'.joiner = c.joiner) (hleading : c'.leading = c.leading)
    (hbody : Agree (Joined R) (conditionBody a style c) (conditionBody a style c'))
    (hrest :
      Agree (Pieced R) (criteriaPieces a style false cs) (criteriaPieces a style false cs')) :
    Agree (Pieced R) (criteriaPieces a style first (c :: cs))
      (criteriaPieces a style first (c' :: cs')) := by
  have hlead : Pieced R (if first then wordPieces c.leading else [])
      (if first then wordPieces c.leading else []) := by
    split
    · exact wordPieces_pieced hR words.leading
    · exact .nil hR
  rw [criteriaPieces, criteriaPieces, hjoiner, hleading]
  refine (joinerWord_agree hR words first).bind fun _ _ hword => hbody.bind fun _ _ hbody =>
    hrest.bind fun _ _ hrest => .ok ?_
  exact ((hlead.append hR hword).append hR (.joined hbody)).append hR hrest

theorem keyBody_of_not_group {style : CriteriaStyle} (operator value : Value) {key : Value}
    (h : ∀ gs, key ≠ .group gs) :
    keyBody a style operator value key = a.comparison style key operator value := by
  cases key <;> first | rfl | exact absurd rfl (h _)

theorem Named.not_group {k k' : Value} (h : Named R a k k') (hk : ∀ gs, k ≠ .group gs) :
    ∀ gs, k' ≠ .group gs := by
  cases h with
  | raw h => exact fun gs hgs => by cases hgs
  | name hraw h => exact hk

theorem steady_wrap_null (hR : Congruence R) : Steady R (a.wrap .null) :=
  hR.word ((a.signs_wrapText _).trans (by decide))

theorem criteriaPieces_agree (hR : Congruence R) {bindValues : Bool} {cs cs' : List Condition}
    (h : ConditionsRel R a bindValues cs cs') (style : CriteriaStyle) (first : Bool)
    (hbind : style.bindValues = bindValues) (hqualifier : Steady R (a.wrap style.qualifier)) :
    Agree (Pieced R) (criteriaPieces a style first cs) (criteriaPieces a style first cs') := by
  induction h generalizing style first with
  | nil =>
    rw [criteriaPieces]
    exact .ok (.nil hR)
  | @columns _ _ _ _ _ _ _ _ _ columns columns' _ _ words hne heq h rest ih =>
    have hne' : columns' ≠ [] := by
      rintro rfl
      exact hne (List.map_eq_nil_iff.1 heq.symm)
    refine criteriaPieces_cons hR words rfl rfl ?_ (ih style false hbind hqualifier)
    simp only [conditionBody, List.isEmpty_eq_false_iff.2 hne, List.isEmpty_eq_false_iff.2 hne',
      Bool.false_eq_true, if_false, heq]
    exact .ok (Joined.single (hR.parenthesized h))
  | @group _ _ _ _ _ _ _ gs gs' _ _ words inner rest ihInner ih =>
    refine criteriaPieces_cons hR words rfl rfl ?_ (ih style false hbind hqualifier)
    have hinner := ihInner {} true rfl (steady_wrap_null hR)
    simp only [conditionBody, List.isEmpty_nil, if_true, keyBody]
    exact hinner.bind fun _ _ h => (joinPieces_agree h).bind fun _ _ h =>
      .ok (Joined.single (hR.parenthesized h))
  | comparison words hgroup hkey hop hvalue rest ih =>
    refine criteriaPieces_cons hR words rfl rfl ?_ (ih style false hbind hqualifier)
    simp only [conditionBody, List.isEmpty_nil, if_true]
    rw [keyBody_of_not_group _ _ hgroup, keyBody_of_not_group _ _ (hkey.not_group hgroup)]
    exact comparison_agree hR hqualifier hkey hop (hbind ▸ hvalue)

theorem criteria_agree (hR : Congruence R) (style : CriteriaStyle) {cs cs' : List Condition}
    (h : ConditionsRel R a style.bindValues cs cs')
    (hqualifier : Steady R (a.wrap style.qualifier)) :
    Agree (R 0) (a.criteria style cs) (a.criteria style cs') :=
  (criteriaPieces_agree hR h style true rfl hqualifier).bind fun _ _ h => joinPieces_agree h

end Related

end Adapter

end SqlBuilder
