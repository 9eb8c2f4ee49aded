import Mathlib
import SqlBuilder.Proofs.Operators.Outline
import SqlBuilder.Proofs.Related.Criteria

/-!
# Conditions with operators in capitals

`Condition.raisedAll` writes the operators of conditions in capitals, in groups at any depth too. In
small letters an operator is known for one that has a predicate for empty lists, but not for
`BETWEEN`: a list is compared with it as with any other operator (`Condition.missesAll`).

* `criteria_raised`: for each operator that is missed so, there is a pair of parentheses that is not
  there in capitals; where none is missed, only the operators differ.
* `exists_criteria`: conditions can be written if they are in words (`Condition.SpelledAll`).
* `criteria_recased_iff`: conditions are the same in capitals but for the operators just if no
  operator is missed, or they cannot be written.
-/

set_option autoImplicit false

namespace SqlBuilder

open Fragment

mutual

/-- A key with the operators in its groups in capitals. -/
def Value.raisedKey : Value → Value
  | .group cs => .group (Condition.raisedAll cs)
  | key => key

/-- Conditions with their operators in capitals. -/
def Condition.raisedAll : List Condition → List Condition
  | [] => []
  | c :: cs => Condition.raised c :: Condition.raisedAll cs

/-- A condition with its operators in capitals. -/
def Condition.raised : Condition → Condition
  | { key, operator, value, joiner, leading, columns } =>
    { key := Value.raisedKey key, operator := operator.raised, value, joiner, leading, columns }

end

mutual

/-- The operators in the groups of a key. -/
def Value.keyOperators : Value → List Value
  | .group cs => Condition.operatorsAll cs
  | _ => []

/-- The operators of conditions, in order. -/
def Condition.operatorsAll : List Condition → List Value
  | [] => []
  | c :: cs => Condition.operators c ++ Condition.operatorsAll cs

/-- The operators of a condition. -/
def Condition.operators : Condition → List Value
  | { key, operator, .. } => operator :: Value.keyOperators key

end

/-- `1` for an operator that compares with two values only once it is in capitals, if there is a
list of values. -/
def Value.missed (operator value : Value) : Nat :=
  if value.items?.isSome && !isBetween operator && isBetween operator.raised then 1 else 0

mutual

/-- How many operators are missed in a key, or at it. -/
def Value.misses (operator value : Value) : Value → Nat
  | .group cs => Condition.missesAll cs
  | _ => Value.missed operator value

/-- How many operators are missed among conditions. -/
def Condition.missesAll : List Condition → Nat
  | [] => 0
  | c :: cs => Condition.misses c + Condition.missesAll cs

/-- How many operators are missed in a condition. -/
def Condition.misses : Condition → Nat
  | { key, operator, value, columns, .. } =>
    if columns.isEmpty then Value.misses operator value key else 0

end

/-- A text, or nothing. -/
def Value.IsWord (v : Value) : Prop := v = .null ∨ ∃ s, v = .text s

mutual

/-- The conditions of the groups in a key are in words. -/
def Value.Spelled : Value → Prop
  | .group cs => Condition.SpelledAll cs
  | _ => True

/-- Conditions are in words. -/
def Condition.SpelledAll : List Condition → Prop
  | [] => True
  | c :: cs => Condition.Spelled c ∧ Condition.SpelledAll cs

/-- The joiner of a condition is a text, and so are its operator and the word in front of it if it
has them, in groups too. -/
def Condition.Spelled : Condition → Prop
  | { key, operator, joiner, leading, .. } =>
    Value.Spelled key ∧ operator.IsWord ∧ (∃ s, joiner = .text s) ∧ leading.IsWord

end

/-! ## One operator -/

namespace Value

theorem isKey_raised (v : Value) : v.raised.isKey = v.isKey := by
  cases v <;> rfl

theorem isNull_raised (v : Value) : v.raised.isNull = v.isNull := by
  cases v <;> rfl

theorem operatorWord_raised (v : Value) : operatorWord v.raised = operatorWord v := by
  cases v with
  | text s =>
    have htrue : (text (Text.upperAscii s)).isTrue = (text s).isTrue := by
      by_cases hs : s = ""
      · rw [hs]
        rfl
      · have hascii : Text.upperAscii s ≠ "" := by
          rw [Text.upperAscii, Ne, String.ofList_eq_empty_iff, List.map_eq_nil_iff]
          exact mt String.toList_eq_nil_iff.1 hs
        rw [isTrue, isTrue, bne_iff_ne.2 hascii, bne_iff_ne.2 hs]
    simp only [raised, operatorWord, htrue, upper, Text.upper_upperAscii]
  | _ => rfl

/-- An operator that compares with two values is in capitals already. -/
theorem raised_of_isBetween {v : Value} (h : isBetween v = true) : v.raised = v := by
  cases v with
  | text s =>
    simp only [isBetween, Bool.or_eq_true, beq_iff_eq] at h
    rcases h with rfl | rfl
    · rfl
    · rfl
  | _ => rfl

theorem missed_of_no_items {value : Value} (h : value.items? = none) (operator : Value) :
    missed operator value = 0 := by
  rw [missed, h]
  rfl

/-- An operator that has a predicate for empty lists is not missed. -/
theorem not_missed {operator : Value} {word predicate : String}
    (hword : operatorWord operator = .ok word) (h : emptySetPredicate? word = some predicate)
    (value : Value) : missed operator value = 0 := by
  suffices hraised : isBetween operator.raised = false by
    rw [missed, hraised, Bool.and_false, if_neg Bool.false_ne_true]
  cases operator with
  | text s =>
    refine Bool.eq_false_iff.2 fun hbetween => ?_
    simp only [raised, isBetween, Bool.or_eq_true, beq_iff_eq] at hbetween
    -- what is `BETWEEN` in capitals is looked up as such, and has no predicate
    have hupper : Text.upper s = "BETWEEN" ∨ Text.upper s = "NOT BETWEEN" := by
      rw [← Text.upper_upperAscii]
      refine hbetween.imp (fun hs => ?_) fun hs => ?_
      · rw [hs]
        decide
      · rw [hs]
        decide
    rw [operatorWord] at hword
    split at hword
    · cases hword
      rcases hupper with hs | hs
      · simp only [text?, Option.getD_some, hs] at h
        cases h
      · simp only [text?, Option.getD_some, hs] at h
        cases h
    · cases hword
      cases h
  | _ => rfl

end Value

namespace Adapter

variable (a : Adapter)

theorem opens_placeholders (items : List Value) : (placeholders ", " items).opens = 0 := by
  rw [opens, sql_placeholders, List.count_eq_zero]
  induction items.length with
  | zero => decide
  | succ n ih =>
    cases n with
    | zero => decide
    | succ n =>
      rw [List.replicate_succ, String.intercalate_cons_of_ne_nil (by simp), String.toList_append,
        String.toList_append, List.mem_append, not_or]
      exact ⟨by decide, ih⟩

/-- Behind the operator there is a pair of parentheses, unless the operator is recognised. -/
theorem rightSide_raised (bindValues : Bool) (operator value : Value) :
    Raised [] (operator.missed value) (a.rightSide bindValues operator value)
      (a.rightSide bindValues operator.raised value) := by
  cases hitems : value.items? with
  | none =>
    rw [Value.missed_of_no_items hitems, rightSide, rightSide, hitems]
    exact .refl [] _
  | some items =>
    rw [Value.missed, rightSide, rightSide, hitems]
    dsimp only [listSide]
    cases hbetween : isBetween operator with
    | true =>
      rw [Value.raised_of_isBetween hbetween, hbetween]
      exact .refl [] _
    | false =>
      cases hraised : isBetween operator.raised with
      | false => exact .refl [] _
      | true =>
        -- here the operator is missed: a list in parentheses, and in capitals none
        have hopen : (ofText "(").opens = 1 ∧ (ofText ")").opens = 0 ∧
            ∀ vs, (⟨"? AND ?", vs⟩ : Fragment).opens = 0 :=
          ⟨by decide, by decide, fun _ => (by decide : (ofText "? AND ?").opens = 0)⟩
        rw [if_neg Bool.false_ne_true, if_pos rfl]
        refine ⟨?_, fun hone => by cases hone⟩
        rw [parenthesized, opens_append, opens_append, opens_placeholders, hopen.1, hopen.2.1,
          hopen.2.2]
        rfl

/-- A comparison that can be written is the same with its operator in capitals, but for the operator
if it is not missed. -/
theorem comparisonText_raised (style : CriteriaStyle) (key operator value : Value) :
    Agree (Raised [operator] (operator.missed value))
      (a.comparisonText style key operator value)
      (a.comparisonText style key operator.raised value) := by
  have hwritten : Agree (Raised [operator] (operator.missed value))
      (if value.items?.isSome && !operator.isKey then misuse .wrongType
        else if standsAlone style.bindValues key operator value then
          pure (a.conditionKey style key)
        else pure (compared (a.conditionKey style key) operator
          (a.rightSide style.bindValues operator value)))
      (if value.items?.isSome && !operator.raised.isKey then misuse .wrongType
        else if standsAlone style.bindValues key operator.raised value then
          pure (a.conditionKey style key)
        else pure (compared (a.conditionKey style key) operator.raised
          (a.rightSide style.bindValues operator.raised value))) := by
    have halone : standsAlone style.bindValues key operator.raised value =
        standsAlone style.bindValues key operator value := by
      rw [standsAlone, standsAlone, Value.isNull_raised]
    rw [Value.isKey_raised, halone]
    split
    · exact .misuse _
    · split
      · rename_i hstands
        rw [Value.missed_of_no_items (items?_of_standsAlone hstands)]
        exact .ok (.refl _ _)
      · have hoperator := ((Raised.operator operator).enclosed (ofText " ") (ofText " "))
        have hright := ((Raised.refl [] (a.conditionKey style key)).append hoperator).append
          (a.rightSide_raised style.bindValues operator value)
        rw [List.nil_append, List.append_nil, Nat.zero_add] at hright
        exact .ok hright
  rw [comparisonText, comparisonText, Value.operatorWord_raised]
  have hsame : Agree (fun w w' => w = w' ∧ operatorWord operator = .ok w) (operatorWord operator)
      (operatorWord operator) := .refl fun w hw => ⟨rfl, hw⟩
  refine hsame.bind ?_
  rintro word _ ⟨rfl, hword⟩
  cases hpredicate : emptySetPredicate? word with
  | none => exact hwritten
  | some predicate =>
    generalize value.items? = items? at hwritten ⊢
    cases items? with
    | none => exact hwritten
    | some items =>
      cases items with
      | nil =>
        rw [Value.not_missed hword hpredicate value]
        exact .ok (.refl _ _)
      | cons => exact hwritten

theorem comparison_raised (style : CriteriaStyle) (key operator value : Value) :
    Agree (Joined fun _ => Raised [operator] (operator.missed value))
      (a.comparison style key operator value) (a.comparison style key operator.raised value) := by
  refine (((a.comparison_spells style key operator value).trans
    (a.comparisonText_raised style key operator value)).trans
    (a.comparison_spells style key operator.raised value).symm).mono ?_
  rintro fs fs' ⟨f', ⟨f, ⟨hne, rfl⟩, h⟩, hne', rfl⟩
  exact ⟨by simp [hne, hne'], h⟩

/-! ## Conditions -/

theorem pieced_refl (ps : List Piece) : Pieced (fun _ => Raised [] 0) ps ps := by
  by_cases hnone : none ∈ ps
  · exact .blocked hnone hnone
  · obtain ⟨fs, rfl⟩ : ∃ fs : List Fragment, fs.map some = ps := by
      refine ⟨ps.filterMap id, ?_⟩
      induction ps with
      | nil => rfl
      | cons p ps ih =>
        rw [List.mem_cons, not_or] at hnone
        cases p with
        | none => exact absurd rfl hnone.1
        | some f => exact congrArg (some f :: ·) (ih hnone.2)
    exact .joined ⟨.rfl, .refl [] _⟩

theorem parts_raised (c : Condition) :
    c.raised.joiner = c.joiner ∧ c.raised.leading = c.leading := by
  cases c
  exact ⟨rfl, rfl⟩

mutual

theorem keyBody_raised (style : CriteriaStyle) (operator value key : Value) :
    Agree (Joined fun _ => Raised (operator :: key.keyOperators) (Value.misses operator value key))
      (keyBody a style operator value key)
      (keyBody a style operator.raised value key.raisedKey) := by
  cases key with
  | group cs =>
    rw [Value.raisedKey, keyBody, keyBody, Value.misses, Value.keyOperators]
    refine (criteriaPieces_raised {} true cs).bind fun ps qs h => ?_
    refine (joinPieces_agree h).bind fun f g h => .ok (Joined.single ?_)
    exact (h.mono (List.sublist_cons_self ..)).enclosed (ofText "(") (ofText ")")
  | _ => exact a.comparison_raised style _ operator value

theorem conditionBody_raised (style : CriteriaStyle) (c : Condition) :
    Agree (Joined fun _ => Raised c.operators c.misses) (conditionBody a style c)
      (conditionBody a style c.raised) := by
  match c with
  | { key, operator, value, joiner, leading, columns } =>
    rw [Condition.operators, Condition.misses, Condition.raised, conditionBody, conditionBody]
    split
    · exact keyBody_raised style operator value key
    · exact .ok (Joined.single (.refl _ _))

/-- Conditions are written with as many opening parentheses less as operators are missed. If none
is, they are written the same but for the operators. -/
theorem criteriaPieces_raised (style : CriteriaStyle) (first : Bool) (cs : List Condition) :
    Agree (Pieced fun _ => Raised (Condition.operatorsAll cs) (Condition.missesAll cs))
      (criteriaPieces a style first cs)
      (criteriaPieces a style first (Condition.raisedAll cs)) := by
  match cs with
  | [] => exact .ok (pieced_refl [])
  | c :: cs =>
    obtain ⟨hjoiner, hleading⟩ := parts_raised c
    rw [Condition.raisedAll, Condition.operatorsAll, Condition.missesAll, criteriaPieces,
      criteriaPieces, hjoiner, hleading]
    refine (Agree.self (joinerWord first c.joiner)).bind fun word _ hword => hword ▸ ?_
    refine (conditionBody_raised style c).bind fun body body' hbody => ?_
    refine (criteriaPieces_raised style false cs).bind fun rest rest' hrest => .ok ?_
    have hfront := pieced_refl ((if first then wordPieces c.leading else []) ++ wordPieces word)
    have hpieces := (hfront.glue Raised.joined (.joined hbody)).glue Raised.joined hrest
    rwa [List.nil_append, Nat.zero_add] at hpieces

end

theorem criteria_raised (style : CriteriaStyle) (cs : List Condition) :
    Agree (Raised (Condition.operatorsAll cs) (Condition.missesAll cs)) (a.criteria style cs)
      (a.criteria style (Condition.raisedAll cs)) :=
  (criteriaPieces_raised a style true cs).bind fun _ _ h => joinPieces_agree h

/-! ## Conditions in words -/

theorem parts_spelled {c : Condition} (h : c.Spelled) :
    (∃ s, c.joiner = .text s) ∧ c.leading.IsWord := by
  cases c
  exact ⟨h.2.2.1, h.2.2.2⟩

theorem exists_comparison (style : CriteriaStyle) (key : Value) {operator : Value}
    (h : operator.IsWord) (value : Value) :
    ∃ fs, a.comparison style key operator value = .ok fs := by
  obtain ⟨word, hword⟩ : ∃ word, operatorWord operator = .ok word := by
    obtain rfl | ⟨s, rfl⟩ := h
    · exact ⟨_, rfl⟩
    · unfold operatorWord
      split
      · exact ⟨_, rfl⟩
      · exact ⟨_, rfl⟩
  have hkey : operator.isKey = true := by
    obtain rfl | ⟨s, rfl⟩ := h
    · rfl
    · rfl
  obtain ⟨f, hf⟩ : ∃ f, a.comparisonText style key operator value = .ok f := by
    rw [comparisonText, hword, hkey]
    dsimp only [bind, Except.bind]
    split
    · exact ⟨_, rfl⟩
    · rw [Bool.not_true, Bool.and_false, if_neg Bool.false_ne_true]
      split
      · exact ⟨_, rfl⟩
      · exact ⟨_, rfl⟩
  have hspells := (a.comparison_spells style key operator value).symm
  rw [hf] at hspells
  obtain ⟨fs, hfs, -⟩ := hspells.exists_ok
  exact ⟨fs, hfs⟩

theorem exists_wordPieces {v : Value} (h : v.IsWord) :
    ∃ fs : List Fragment, wordPieces v = fs.map some := by
  unfold wordPieces
  split
  · obtain rfl | ⟨s, rfl⟩ := h
    · rename_i hnull
      cases hnull
    · exact ⟨[ofText s], rfl⟩
  · exact ⟨[], rfl⟩

mutual

theorem exists_keyBody {key : Value} (h : key.Spelled) (style : CriteriaStyle) {operator : Value}
    (hoperator : operator.IsWord) (value : Value) :
    ∃ fs, keyBody a style operator value key = .ok fs := by
  cases key with
  | group cs =>
    obtain ⟨fs, hfs⟩ := exists_criteriaPieces h {} true
    rw [keyBody, hfs]
    show ∃ fs', (joinPieces (fs.map some) >>= fun f => .ok [f.parenthesized]) = .ok fs'
    rw [joinPieces_some]
    exact ⟨_, rfl⟩
  | _ => exact a.exists_comparison style _ hoperator value

theorem exists_conditionBody {c : Condition} (h : c.Spelled) (style : CriteriaStyle) :
    ∃ fs, conditionBody a style c = .ok fs := by
  match c with
  | { key, operator, value, joiner, leading, columns } =>
    obtain ⟨hkey, hoperator, -, -⟩ := h
    rw [conditionBody]
    split
    · exact exists_keyBody hkey style hoperator value
    · exact ⟨_, rfl⟩

/-- All the pieces of conditions in words can be written. -/
theorem exists_criteriaPieces {cs : List Condition} (h : Condition.SpelledAll cs)
    (style : CriteriaStyle) (first : Bool) :
    ∃ fs : List Fragment, criteriaPieces a style first cs = .ok (fs.map some) := by
  match cs with
  | [] => exact ⟨[], rfl⟩
  | c :: cs =>
    obtain ⟨hc, hcs⟩ := h
    obtain ⟨body, hbody⟩ := exists_conditionBody hc style
    obtain ⟨rest, hrest⟩ := exists_criteriaPieces hcs style false
    obtain ⟨⟨s, hjoiner⟩, hleading⟩ := parts_spelled hc
    obtain ⟨lead, hlead⟩ : ∃ fs : List Fragment,
        (if first then wordPieces c.leading else []) = fs.map some := by
      split
      · exact exists_wordPieces hleading
      · exact ⟨[], rfl⟩
    obtain ⟨word, hword⟩ : ∃ word, joinerWord first (.text s) = .ok (.text word) := by
      cases first
      · exact ⟨_, rfl⟩
      · exact ⟨_, rfl⟩
    obtain ⟨joined, hjoined⟩ := exists_wordPieces (.inr ⟨word, rfl⟩)
    rw [criteriaPieces, hjoiner, hword, hbody, hrest, hlead]
    refine ⟨lead ++ joined ++ body ++ rest, ?_⟩
    rw [List.map_append, List.map_append, List.map_append, ← hjoined]
    rfl

end

theorem exists_criteria {cs : List Condition} (h : Condition.SpelledAll cs)
    (style : CriteriaStyle) : ∃ f, a.criteria style cs = .ok f := by
  obtain ⟨fs, hfs⟩ := exists_criteriaPieces a h style true
  rw [criteria, hfs]
  exact ⟨_, joinPieces_some fs⟩

/-- Conditions whose operators are put in capitals are written with these operators in capitals, and
everything else as it was, just if no list is compared with an operator that is only recognised in
capitals. Conditions in words can be written, and where others cannot the fault is the same. -/
theorem criteria_recased_iff (style : CriteriaStyle) (cs : List Condition) :
    (Condition.SpelledAll cs → ∃ f, a.criteria style cs = .ok f) ∧
      (Agree (Recased (Condition.operatorsAll cs)) (a.criteria style cs)
          (a.criteria style (Condition.raisedAll cs)) ↔
        (∃ fault, a.criteria style cs = .error fault) ∨ Condition.missesAll cs = 0) := by
  refine ⟨fun hwords => a.exists_criteria hwords style, ?_⟩
  have hraised := a.criteria_raised style cs
  generalize a.criteria style cs = x at hraised ⊢
  generalize a.criteria style (Condition.raisedAll cs) = y at hraised ⊢
  cases hraised with
  | error fault => exact ⟨fun _ => .inl ⟨fault, rfl⟩, fun _ => .error fault⟩
  | @ok f g h =>
    rw [← h.recased_iff]
    constructor
    · rintro (hok | _)
      exact .inr hok
    · rintro (⟨fault, hfault⟩ | hsame)
      · cases hfault
      · exact .ok hsame

/-- In a group a list is compared with `between` in small letters, behind one that is compared with
`in`. -/
def betweenInGroup : List Condition :=
  [⟨.group [⟨.text "a", .text "in", .list [.int 1], .text "AND", .null, []⟩,
    ⟨.text "b", .text "between", .list [.int 1, .int 2], .text "OR", .null, []⟩], .null, .null,
    .text "AND NOT", .null, []⟩]

/-- With its operators in capitals the list has no parentheses behind `BETWEEN`. -/
theorem criteria_recased_iff_of_between :
    let a : Adapter := { dialect := .sqlite }
    Condition.SpelledAll betweenInGroup ∧
      (a.criteria {} betweenInGroup).map Fragment.sql =
        .ok "NOT (a in (?) OR b between (?, ?))" ∧
      (a.criteria {} (Condition.raisedAll betweenInGroup)).map Fragment.sql =
        .ok "NOT (a IN (?) OR b BETWEEN ? AND ?)" ∧
      ¬Agree (Recased (Condition.operatorsAll betweenInGroup)) (a.criteria {} betweenInGroup)
        (a.criteria {} (Condition.raisedAll betweenInGroup)) := by
  intro a
  have hwords : Condition.SpelledAll betweenInGroup :=
    ⟨⟨⟨⟨trivial, .inr ⟨_, rfl⟩, ⟨_, rfl⟩, .inl rfl⟩,
      ⟨trivial, .inr ⟨_, rfl⟩, ⟨_, rfl⟩, .inl rfl⟩, trivial⟩, .inl rfl, ⟨_, rfl⟩, .inl rfl⟩,
      trivial⟩
  obtain ⟨hwritten, hrecased⟩ := a.criteria_recased_iff {} betweenInGroup
  refine ⟨hwords, by cbv, by cbv, fun hagree => ?_⟩
  obtain ⟨f, hf⟩ := hwritten hwords
  rcases hrecased.1 hagree with ⟨fault, hfault⟩ | hnone
  · rw [hf] at hfault
    cases hfault
  · revert hnone
    decide

end Adapter

end SqlBuilder
