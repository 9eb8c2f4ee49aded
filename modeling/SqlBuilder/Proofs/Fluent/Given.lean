import SqlBuilder.Proofs.Aligned.Alignment
import SqlBuilder.Proofs.Joining.Calls

/-!
# What calls are given

What a call on a builder may be given so that placeholders and values go on matching: names, labels
and operators that are quiet texts (without placeholders, and with closed quotes), and raw fragments
with a value for each placeholder (`NameGiven`). Values to bind may be anything.

* `ColumnGiven`: a name that is written as text only, so a raw fragment among them binds nothing.
* `OperandGiven`: what to compare with; where two items are asked for, two are there.
* `named_of_prefixed`: a quiet prefix makes names of names.
-/

set_option autoImplicit false

namespace SqlBuilder

open Placeholder Adapter Value Builder

namespace Value

/-- Any value. -/
def Any (_ : Value) : Prop := True

/-- A raw fragment with a value for each placeholder, or no raw fragment. -/
def RawAligned (v : Value) : Prop :=
  ∀ sql bindings, v = .raw sql bindings → (⟨sql, bindings⟩ : Fragment).Lacks Any 0

/-- The value is written as one name: no list, no map and no group. -/
def isSingle : Value → Bool
  | .list _ | .tuple _ | .map _ | .aliased _ _ | .group _ => false
  | _ => true

/-- A name: a value that is written as a quiet text, or a raw fragment with a value for each
placeholder. -/
inductive NameGiven : Value → Prop where
  | word {v : Value} (h : v.Plain) (hsingle : v.isSingle = true) : NameGiven v
  | raw {sql : String} {bindings : List Value} (h : (⟨sql, bindings⟩ : Fragment).Lacks Any 0) :
      NameGiven (.raw sql bindings)

/-- An alias. -/
inductive LabelGiven : Value → Prop where
  | text {s : String} (h : Quiet s) : LabelGiven (.text s)

/-- A name that is written without values. -/
structure ColumnGiven (v : Value) : Prop where
  name : NameGiven v
  bare : v.bindingCount = 0

/-- Tables to select from, and their aliases. -/
inductive TableGiven : Value → Prop where
  | name {v : Value} (h : NameGiven v) : TableGiven v
  | list {items : List Value} (h : ∀ v ∈ items, NameGiven v) : TableGiven (.list items)
  | tuple {items : List Value} (h : ∀ v ∈ items, NameGiven v) : TableGiven (.tuple items)
  | map {entries : List (Value × Value)} (h : ∀ e ∈ entries, NameGiven e.1 ∧ LabelGiven e.2) :
      TableGiven (.map entries)

/-- Selected expressions, and their aliases. -/
inductive FieldGiven : Value → Prop where
  | name {v : Value} (h : NameGiven v) : FieldGiven v
  | list {items : List Value} (h : ∀ v ∈ items, FieldGiven v) : FieldGiven (.list items)
  | tuple {items : List Value} (h : ∀ v ∈ items, FieldGiven v) : FieldGiven (.tuple items)
  | map {entries : List (Value × Value)} (h : ∀ e ∈ entries, NameGiven e.1 ∧ LabelGiven e.2) :
      FieldGiven (.map entries)

/-- Fields to group by. -/
inductive GroupGiven : Value → Prop where
  | name {v : Value} (h : NameGiven v) : GroupGiven v
  | list {items : List Value} (h : ∀ v ∈ items, NameGiven v) : GroupGiven (.list items)
  | tuple {items : List Value} (h : ∀ v ∈ items, NameGiven v) : GroupGiven (.tuple items)

/-- The table of a join. With an alias it is written without values. -/
inductive JoinTableGiven : Value → Prop where
  | name {v : Value} (h : NameGiven v) : JoinTableGiven v
  | list {main name : Value} (hmain : ColumnGiven main) (hname : LabelGiven name) :
      JoinTableGiven (.list [main, name])
  | tuple {main name : Value} (hmain : ColumnGiven main) (hname : LabelGiven name) :
      JoinTableGiven (.tuple [main, name])

/-- What to compare with. Where two items are asked for, two are there; where scalars are not bound,
they are names. -/
structure OperandGiven (bound : Bool) (operator v : Value) : Prop where
  raw : v.RawAligned
  between : isBetween operator = true → ∀ items, v.items? = some items → 2 ≤ items.length
  name : bound = false → v.isScalar = true → Quiet v.toText

/-- A row of data. -/
def RowGiven (v : Value) : Prop :=
  ∀ entries, v.toEntries = .ok entries → ∀ e ∈ entries, e.1.Plain ∧ e.2.RawAligned

/-! ## Names -/

theorem LabelGiven.plain {v : Value} (h : LabelGiven v) : v.Plain := by
  cases h with
  | text h => exact ⟨rfl, h⟩

theorem NameGiven.text {s : String} (h : Quiet s) : NameGiven (.text s) := .word ⟨rfl, h⟩ rfl

theorem nameGiven_function (identity : Nat) : NameGiven (.function identity) :=
  .word ⟨rfl, (by decide : Quiet "<function>")⟩ rfl

theorem NameGiven.sound {v : Value} (h : NameGiven v) : NameSound Any v := by
  cases h with
  | word h => exact .name h
  | raw h => exact .raw h

theorem NameGiven.single {v : Value} (h : NameGiven v) : v.isSingle = true := by
  cases h with
  | word h hsingle => exact hsingle
  | raw h => rfl

theorem NameGiven.item {v : Value} (h : NameGiven v) : ItemSound Any v := by
  have hsound := h.sound
  have hsingle := h.single
  cases v <;> first | exact hsound | cases hsingle

theorem NameGiven.not_list {v : Value} (h : NameGiven v) : v.items? = none := by
  have hsingle := h.single
  cases v <;> first | rfl | cases hsingle

theorem NameGiven.not_map {v : Value} (h : NameGiven v) : v.entries? = none := by
  have hsingle := h.single
  cases v <;> first | rfl | cases hsingle

theorem NameGiven.not_group {v : Value} (h : NameGiven v) : ∀ gs, v ≠ .group gs := by
  rintro gs rfl
  cases h.single

/-- A column is written as a text without values. -/
theorem ColumnGiven.wrap {v : Value} (h : ColumnGiven v) (a : Adapter) :
    Quiet (a.wrap v) := by
  obtain ⟨hname, hbare⟩ := h
  cases hname with
  | word h =>
    have hwrap : a.wrap v = a.wrapText v.toText := by
      have := h.not_raw
      cases v <;> first | rfl | cases this
    exact hwrap ▸ a.quiet_wrapText h.quiet
  | @raw sql bindings h =>
    obtain rfl : bindings = [] := List.length_eq_zero_iff.1 hbare
    exact ⟨h.balanced, h.count⟩

/-! ## Operands and rows -/

theorem OperandGiven.sound {bound bindValues : Bool} {key operator v : Value}
    (h : OperandGiven bound operator v) (hbind : bindValues = false → bound = false) :
    OperandSound Any Any bindValues key operator v := by
  cases hraw : v.isRaw with
  | true =>
    obtain ⟨sql, bindings, rfl⟩ := exists_eq_raw hraw
    exact .raw (h.raw sql bindings rfl)
  | false =>
    cases hitems : v.items? with
    | some items =>
      exact .items hitems (fun hbetween => h.between hbetween items hitems) fun _ _ => trivial
    | none =>
      have hscalar : v.isScalar = true := by simp [isScalar, hitems, hraw]
      cases bindValues with
      | true => exact .bound hscalar rfl trivial
      | false => exact .name hscalar rfl (h.name (hbind rfl) hscalar)

theorem RowGiven.dataSound {v : Value} (h : RowGiven v) : v.DataSound Any Any := by
  rintro entries rfl e he
  obtain ⟨hkey, hvalue⟩ := h entries rfl e he
  refine ⟨hkey, ?_⟩
  cases hraw : e.2.isRaw with
  | true =>
    obtain ⟨sql, bindings, heq⟩ := exists_eq_raw hraw
    exact heq ▸ .raw (hvalue sql bindings heq)
  | false => exact .bound hraw trivial

end Value

/-! ## Prefixes -/

section

variable {p v v' : Value} {mixed : Bool}

/-- With a quiet prefix a quiet text stays one; what is no text stays as it is. -/
theorem prefixedName_cases (hp : p.Worded) (h : Builder.prefixedName p mixed v = .ok v') :
    v' = v ∨ ∃ s t, v = .text s ∧ v' = .text t ∧ (Quiet s → Quiet t) := by
  unfold Builder.prefixedName at h
  split at h
  · rename_i s
    split at h
    · cases h
      exact .inl rfl
    · obtain ⟨t, rfl, rfl⟩ := Session.plus_text h
      exact .inr ⟨s, t ++ s, rfl, rfl, fun hs => (hp t rfl).append hs⟩
  · cases h
    exact .inl rfl

theorem named_of_prefixedName (hp : p.Worded) (h : Builder.prefixedName p mixed v = .ok v')
    (hv : NameGiven v) : NameGiven v' := by
  rcases prefixedName_cases hp h with rfl | ⟨s, t, rfl, rfl, hquiet⟩
  · exact hv
  · cases hv with
    | word hs => exact .text (hquiet hs.quiet)

/-- What is no list and no map gets the prefix of a name, or none. -/
theorem prefixed_of_single (hitems : v.items? = none) (hmap : v.entries? = none) :
    Builder.prefixed p mixed v = .ok v ∨
      Builder.prefixed p mixed v = Builder.prefixedName p mixed v := by
  unfold Builder.prefixed
  split
  · exact .inl rfl
  · cases v with
    | list | tuple => cases hitems
    | map => cases hmap
    | _ => exact .inr rfl

theorem named_of_prefixed (hp : p.Worded) (h : Builder.prefixed p mixed v = .ok v')
    (hv : NameGiven v) : NameGiven v' := by
  rcases prefixed_of_single hv.not_list hv.not_map with heq | heq <;> rw [heq] at h
  · cases h
    exact hv
  · exact named_of_prefixedName hp h hv

/-- A column with a prefix is written without values. -/
theorem columnGiven_of_prefixed (hp : p.Worded) (hv : ColumnGiven v)
    (h : Builder.prefixed p mixed v = .ok v') : ColumnGiven v' := by
  refine ⟨named_of_prefixed hp h hv.name, ?_⟩
  have hbare := hv.bare
  rcases prefixed_of_single hv.name.not_list hv.name.not_map with heq | heq <;> rw [heq] at h
  · cases h
    exact hbare
  · rcases prefixedName_cases hp h with rfl | ⟨s, t, rfl, rfl, -⟩
    · exact hbare
    · rfl

/-- A list with a prefix is a list of as many items, each of them with the prefix or none. -/
theorem prefixed_list {items : List Value} (hv : v.items? = some items)
    (h : Builder.prefixed p mixed v = .ok v') :
    ∃ items', v'.items? = some items' ∧ items'.length = items.length ∧
      ∀ w' ∈ items', w' ∈ items ∨ ∃ w ∈ items, Builder.prefixedName p mixed w = .ok w' := by
  unfold Builder.prefixed at h
  split at h
  · cases h
    exact ⟨items, hv, rfl, fun w hw => .inl hw⟩
  · have hlist : items.mapM (Builder.prefixedName p mixed) >>= (fun ws => pure (.list ws)) =
        .ok v' := by
      cases v <;> cases hv <;> exact h
    obtain ⟨items', hitems, h⟩ := bind_ok hlist
    cases h
    obtain ⟨hlength, hmem⟩ := mapM_ok hitems
    exact ⟨items', rfl, hlength, fun w hw => .inr (hmem w hw)⟩

/-- Names with a prefix are names. -/
theorem named_of_prefixed_list (hp : p.Worded) {items items' : List Value}
    (hv : v.items? = some items) (hitems : ∀ w ∈ items, NameGiven w)
    (h : Builder.prefixed p mixed v = .ok v') (hv' : v'.items? = some items') :
    ∀ w ∈ items', NameGiven w := by
  obtain ⟨_, hsome, -, hmem⟩ := prefixed_list hv h
  cases hv'.symm.trans hsome
  intro w hw
  rcases hmem w hw with hw | ⟨u, hu, hprefixed⟩
  · exact hitems w hw
  · exact named_of_prefixedName hp hprefixed (hitems u hu)

/-- What is compared with in a join stays so with a prefix. -/
theorem operandGiven_of_prefixed (hp : p.Worded) {bound : Bool} {operator : Value}
    (hv : OperandGiven bound operator v) (hmap : v.entries? = none)
    (h : Builder.prefixed p mixed v = .ok v') : OperandGiven bound operator v' := by
  cases hitems : v.items? with
  | some items =>
    obtain ⟨items', hsome, hlength, -⟩ := prefixed_list hitems h
    refine ⟨?_, fun hbetween ws hws => ?_, fun _ hscalar => ?_⟩
    · rintro sql bindings rfl
      cases hsome
    · cases hws.symm.trans hsome
      exact hlength ▸ hv.between hbetween items hitems
    · simp [isScalar, hsome] at hscalar
  | none =>
    rcases prefixed_of_single hitems hmap with heq | heq <;> rw [heq] at h
    · cases h
      exact hv
    · rcases prefixedName_cases hp h with rfl | ⟨s, t, rfl, rfl, hquiet⟩
      · exact hv
      · refine ⟨fun sql bindings hraw => ?_, fun _ items hitems => ?_,
          fun hbound _ => hquiet (hv.name hbound rfl)⟩
        · cases hraw
        · cases hitems

end

/-! ## Conditions and joins -/

/-- The builders a program has at hand, by their numbers, and their kinds. -/
abbrev Held := List (Nat × BuilderKind)

/-- The key of a condition: a callback, or a name. -/
def Operand.KeyGiven (op : Operand) : Prop := ∀ v, op = .value v → NameGiven v

/-- What a condition compares with: a builder at hand, which stands for its subquery, or a value. -/
def SubjectGiven (held : Held) (bound : Bool) (operator : Value) : Value → Prop
  | .builder id _ => ∃ kind, (id, kind) ∈ held
  | v => OperandGiven bound operator v

/-- Scalars that a builder of the kind compares with are bound. -/
def BuilderKind.binds (kind : BuilderKind) : Bool := kind != .join

/-- The comparison of a condition. -/
structure ComparisonGiven (held : Held) (bound : Bool) (operator v : Value) : Prop where
  word : operator.OperatorSound
  subject : SubjectGiven held bound operator v

/-- A comparison of columns. -/
def Builder.ColumnRequest.Given : Builder.ColumnRequest → Prop
  | .comparison first operator second =>
    ColumnGiven first ∧ Quiet operator.toText ∧ ColumnGiven second
  | .malformed => True

/-- The comparison of an `on`: scalars are names. -/
structure OnGiven (operator v : Value) : Prop where
  word : operator.OperatorSound
  operand : OperandGiven false operator v
  single : v.entries? = none

/-- Columns that both tables of a join have. -/
def SharedGiven (columns : Value) : Prop :=
  ∀ items, sharedColumns columns = .ok items → ∀ v ∈ items, v.Plain

section

variable {held : Held}

theorem worded_text {s : String} (h : Quiet s) : (Value.text s).Worded := by
  rintro _ ⟨⟩
  exact h

theorem worded_words (j : Joiner) : (Value.text j.words).Worded :=
  worded_text (by cases j <;> decide)

theorem operatorSound_text {s : String} (h : Quiet s) : (Value.text s).OperatorSound :=
  .inr ⟨s, rfl, h⟩

theorem operatorSound_negatable (negated : Bool) {operator : String} (h : Quiet operator) :
    (negatable negated operator).OperatorSound := by
  cases negated with
  | false => exact operatorSound_text h
  | true => exact operatorSound_text (Quiet.append (by decide) h)

/-- Only where two items are asked for does it matter how a value is compared with. -/
theorem SubjectGiven.of_operator {bound : Bool} {operator v : Value}
    (h : SubjectGiven held bound .null v) (hop : isBetween operator = false) :
    SubjectGiven held bound operator v := by
  cases v with
  | builder => exact h
  | _ =>
    have hbetween : isBetween operator ≠ true := by simp [hop]
    exact ⟨OperandGiven.raw h, fun hop => absurd hop hbetween, OperandGiven.name h⟩

/-- A builder at hand may be compared with. -/
theorem subjectGiven_builder {bound : Bool} {operator : Value} {id : Nat} {kind : BuilderKind}
    (h : ∃ kind, (id, kind) ∈ held) : SubjectGiven held bound operator (.builder id kind) := h

/-- A raw fragment with a value for each placeholder may be compared with. -/
theorem subjectGiven_raw {bound : Bool} {operator : Value} {sql : String} {bindings : List Value}
    (h : (⟨sql, bindings⟩ : Fragment).Lacks Any 0) :
    SubjectGiven held bound operator (.raw sql bindings) := by
  refine ⟨?_, fun _ _ hitems => ?_, fun _ hscalar => ?_⟩
  · rintro _ _ ⟨⟩
    exact h
  · cases hitems
  · cases hscalar

/-- A list may be compared with; two items where two are asked for. -/
theorem subjectGiven_list {bound : Bool} {operator : Value} {items : List Value}
    (h : isBetween operator = true → 2 ≤ items.length) :
    SubjectGiven held bound operator (.list items) := by
  refine ⟨nofun, fun hbetween _ hitems => ?_, fun _ hscalar => ?_⟩
  · cases hitems
    exact h hbetween
  · cases hscalar

/-- A text may be compared with, and so it may as a name if it is quiet. -/
theorem subjectGiven_text {bound : Bool} {operator : Value} {s : String}
    (h : bound = false → Quiet s) : SubjectGiven held bound operator (.text s) :=
  ⟨nofun, nofun, fun hbound _ => h hbound⟩

theorem lacks_castDate (d : Dialect) (least most : Value) :
    (⟨d.castDate "?" ++ " AND " ++ d.castDate "?", [least, most]⟩ : Fragment).Lacks Any 0 := by
  have htext : Balanced (d.castDate "?" ++ " AND " ++ d.castDate "?") ∧
      Placeholder.count (d.castDate "?" ++ " AND " ++ d.castDate "?") = 2 := by
    cases d <;> decide
  exact ⟨htext.1, htext.2, fun _ _ => trivial⟩

theorem quiet_datePart (d : Dialect) {part column : String} (hpart : Quiet part)
    (hcolumn : Quiet column) : Quiet (d.datePart part column) := by
  have hcall : Quiet (part ++ "(" ++ column ++ ")") :=
    ((hpart.append (by decide)).append hcolumn).append (by decide)
  cases d with
  | mysql => exact hcall
  | sqlite =>
    unfold Dialect.datePart Dialect.dateFormat?
    dsimp only
    -- the quotes around a format close within what stands before the column
    split
    · rename_i hformat
      split at hformat <;> cases hformat <;>
        exact Quiet.append (Quiet.append (by decide) hcolumn) (by decide)
    · exact hcall
  | postgres =>
    show Quiet (if part = "DATE" || part = "TIME" then "CAST(" ++ column ++ " AS " ++ part ++ ")"
      else "EXTRACT(" ++ part ++ " FROM " ++ column ++ ")")
    split
    · exact Quiet.append (Quiet.append (Quiet.append (Quiet.append (by decide) hcolumn) (by decide))
        hpart) (by decide)
    · exact Quiet.append (Quiet.append (Quiet.append (Quiet.append (by decide) hpart) (by decide))
        hcolumn) (by decide)

/-- A quiet text in front of one more placeholder. -/
theorem lacks_compared {s : String} (h : Quiet s) (v : Value) :
    (⟨s ++ " ?", [v]⟩ : Fragment).Lacks Any 0 := by
  have hmark : (⟨" ?", [v]⟩ : Fragment).Lacks Any 0 :=
    have htext : Balanced " ?" ∧ Placeholder.count " ?" = 1 := by decide
    ⟨htext.1, htext.2, fun _ _ => trivial⟩
  exact (Fragment.lacks_ofText (Q := Any) h).append hmark

end

end SqlBuilder
