import SqlBuilder.Proofs.Aligned.Sound

/-!
# Replacing what is bound

A `Replacement` says what stands in the place of a raw fragment, of the value of a condition and of
the value of a row; everything else of a request stays. `Replacement.respects_agree`: two
replacements of one sound request are written as related fragments, if this is so for each piece
that is replaced (`Replacement.Respects`).

Comparing a request with itself counts its placeholders, comparing it with its replacement by
literals fills them in.
-/

set_option autoImplicit false

namespace SqlBuilder

open Placeholder Adapter Fragment

/-- A fragment as a value. -/
def Fragment.toRaw (f : Fragment) : Value := .raw f.sql f.bindings

/-- What stands in the place of what is bound. -/
structure Replacement where
  raw : Fragment → Fragment
  /-- The value of a condition, by whether scalars are bound, the key and the operator. -/
  operand : Bool → Value → Value → Value → Value
  /-- A value of a row. -/
  datum : Value → Value

namespace Replacement

variable (r : Replacement)

/-! ## Replaced requests -/

/-- Nothing is replaced. -/
def none : Replacement := ⟨fun f => f, fun _ _ _ v => v, fun v => v⟩

/-- A raw fragment in another value's place; anything else that is there. -/
def overlay (other : Value → Value) : Value → Value
  | .raw sql bindings => (r.raw ⟨sql, bindings⟩).toRaw
  | v => other v

/-- A name. -/
def name (v : Value) : Value := r.overlay (fun v => v) v

/-- A selected expression. -/
def item : Value → Value
  | .aliased expression label => .aliased (r.name expression) label
  | v => r.name v

/-- The items of a list. -/
def listed (f : Value → Value) : Value → Value
  | .list items => .list (items.map f)
  | .tuple items => .tuple (items.map f)
  | v => v

mutual

/-- A condition. -/
def condition (bindValues : Bool) : Condition → Condition
  | ⟨key, operator, value, joiner, leading, columns⟩ =>
    ⟨conditionKey key, operator, r.overlay (r.operand bindValues key operator) value,
      joiner, leading, columns⟩

/-- The key of a condition, with the conditions of a group. -/
def conditionKey : Value → Value
  | .group cs => .group (conditions true cs)
  | v => r.name v

/-- A list of conditions. -/
def conditions (bindValues : Bool) : List Condition → List Condition
  | [] => []
  | c :: cs => condition bindValues c :: conditions bindValues cs

end

/-- The table of a join. -/
def joinTable : Value → Value
  | .tuple [main, label] => .tuple [r.name main, label]
  | v => r.name v

/-- A join. -/
def join (j : JoinEntry) : JoinEntry :=
  ⟨j.kind, r.joinTable j.table, r.conditions false j.criteria⟩

/-- A field to order by. -/
def order (entry : OrderEntry) : OrderEntry := ⟨r.name entry.field, entry.direction⟩

/-- The entries of a row. -/
def row (entries : List (Value × Value)) : List (Value × Value) :=
  entries.map fun (column, v) => (column, r.overlay r.datum v)

/-- Data, if they are a row. -/
def data : Value → Value
  | .map entries => .map (r.row entries)
  | v => v

mutual

/-- Statements. `bindCriteria` says whether the bare conditions are bound. -/
def statements (bindCriteria : Bool) : Statements → Statements
  | { selects, distincts, tables, aliases, wheres, havings, criteria, joins, groupBys, orderBys,
      unions, limit, offset, lock, onDuplicate } =>
    { selects := listed r.item selects
      distincts := listed r.item distincts
      tables := listed r.name tables
      aliases
      wheres := wheres.map (r.conditions true)
      havings := havings.map (r.conditions true)
      criteria := criteria.map (r.conditions bindCriteria)
      joins := joins.map (List.map r.join)
      groupBys := listed r.item groupBys
      orderBys := orderBys.map (List.map r.order)
      unions := furtherMembers unions
      limit, offset, lock
      onDuplicate := r.data onDuplicate }

/-- The further members of a union, if there is a list of them. -/
def furtherMembers : Option (List UnionEntry) → Option (List UnionEntry)
  | .none => .none
  | some entries => some (members entries)

/-- Members of unions. -/
def members : List UnionEntry → List UnionEntry
  | [] => []
  | { statements := s, type, identity } :: entries =>
    { statements := statements true s, type, identity } :: members entries

end

/-- What an operation is given besides the statements. -/
def payload (op : Operation) (values : List Value) : List Value :=
  match op with
  | .insert | .insertIgnore | .replace | .update => values.map r.data
  | .delete => values.map (listed r.item)
  | .select | .criteria => values

variable {r}

/-! ## Laws -/

section Parts

variable {P Q : Value → Prop}

theorem overlay_of_not_raw {other : Value → Value} {v : Value} (h : v.isRaw = false) :
    r.overlay other v = other v := by
  cases v <;> first | rfl | simp [Value.isRaw] at h

theorem name_of_not_raw {v : Value} (h : v.isRaw = false) : r.name v = v := overlay_of_not_raw h

theorem isRaw_name (v : Value) : (r.name v).isRaw = v.isRaw := by
  cases v <;> rfl

theorem item_of_not_aliased {v : Value} (h : ∀ expression label, v ≠ .aliased expression label) :
    r.item v = r.name v := by
  cases v <;> first | rfl | exact absurd rfl (h _ _)

theorem items?_listed {f : Value → Value} {v : Value} {items : List Value}
    (h : v.items? = some items) : (listed f v).items? = some (items.map f) := by
  cases v <;> simp_all [listed, Value.items?]

theorem getD_map_map {α β : Type} (f : α → β) (entries : Option (List α)) :
    (entries.map (List.map f)).getD [] = (entries.getD []).map f := by
  cases entries <;> rfl

theorem getD_map_conditions (bindValues : Bool) (entries : Option (List Condition)) :
    (entries.map (r.conditions bindValues)).getD [] =
      r.conditions bindValues (entries.getD []) := by
  cases entries <;> rfl

theorem getD_furtherMembers (entries : Option (List UnionEntry)) :
    (r.furtherMembers entries).getD [] = r.members (entries.getD []) := by
  cases entries with
  | none => rfl
  | some entries => rfl

end Parts

theorem statements_eq (bindCriteria : Bool) (s : Statements) :
    r.statements bindCriteria s =
      { selects := listed r.item s.selects
        distincts := listed r.item s.distincts
        tables := listed r.name s.tables
        aliases := s.aliases
        wheres := s.wheres.map (r.conditions true)
        havings := s.havings.map (r.conditions true)
        criteria := s.criteria.map (r.conditions bindCriteria)
        joins := s.joins.map (List.map r.join)
        groupBys := listed r.item s.groupBys
        orderBys := s.orderBys.map (List.map r.order)
        unions := r.furtherMembers s.unions
        limit := s.limit
        offset := s.offset
        lock := s.lock
        onDuplicate := r.data s.onDuplicate } := by
  cases s
  rw [statements]

/-- Whether an operation binds the bare conditions. -/
def bindsCriteria (values : List Value) : Bool :=
  match values with
  | [v] => v.isTrue
  | _ => true

/-! ## Two replacements of one request -/

/-- Two replacements write related fragments for each piece of a sound request. Raw fragments that
are written as names lose their values; they do so in both runs if `lossy`, and otherwise there are
none to lose. -/
structure Respects (P Q : Value → Prop) (R : Nat → Fragment → Fragment → Prop) (a : Adapter)
    (lossy : Prop) (r r' : Replacement) : Prop where
  quiet {s : String} (h : Quiet s) : Steady R s
  raw {f : Fragment} (h : f.Lacks Q 0) : R 0 (r.raw f) (r'.raw f)
  dropped {f : Fragment} (h : f.Lacks Q 0) (hlost : lossy ∨ f.bindings.length = 0) :
    (r'.raw f).sql = (r.raw f).sql ∧ ∀ s, signs s.toList = signs (r.raw f).sql.toList →
      R f.bindings.length (ofText s) (ofText s)
  operand {bindValues : Bool} {key operator v : Value} (hraw : v.isRaw = false)
    (hop : operator.OperatorSound) (h : Value.OperandSound P Q bindValues key operator v) :
    OperandRel R a bindValues key operator (r.operand bindValues key operator v)
      (r'.operand bindValues key operator v)
  datum {v : Value} (hraw : v.isRaw = false) (h : P v) :
    R 0 (dataValue (r.datum v)) (dataValue (r'.datum v))

namespace Respects

variable {P Q : Value → Prop} {R : Nat → Fragment → Fragment → Prop} {a : Adapter} {lossy : Prop}
  {r r' : Replacement} (h : Respects P Q R a lossy r r')
include h

/-! ### Names -/

theorem steady_wrapText {s : String} (hs : Quiet s) : Steady R (a.wrapText s) :=
  h.quiet (a.quiet_wrapText hs)

theorem steady_plain {v : Value} (hv : v.Plain) : Steady R (a.wrap v) := by
  have hwrap : a.wrap v = a.wrapText v.toText := by
    have hraw := hv.not_raw
    cases v <;> first | rfl | simp [Value.isRaw] at hraw
  rw [hwrap]
  exact h.steady_wrapText hv.quiet

theorem named {v : Value} (hv : v.NameSound Q) : Named R a (r.name v) (r'.name v) := by
  cases hv with
  | raw hf => exact .raw (h.raw hf)
  | name hv =>
    rw [name_of_not_raw hv.not_raw, name_of_not_raw hv.not_raw]
    exact .name hv.not_raw (h.steady_plain hv)

theorem columnItem_agree (hR : Congruence R) {v : Value} (hv : v.ItemSound Q) :
    Agree (R 0) (a.columnItem (r.item v)) (a.columnItem (r'.item v)) := by
  by_cases haliased : ∃ expression label, v = .aliased expression label
  · obtain ⟨expression, label, rfl⟩ := haliased
    obtain ⟨hexpression, hlabel⟩ := hv
    have hhead : Agree (R 0) (a.aliasedHead (r.name expression))
        (a.aliasedHead (r'.name expression)) := by
      cases hexpression with
      | raw hf => exact .ok (h.raw hf)
      | name hplain =>
        have hsteady := h.steady_plain hplain
        have htext : Steady R expression.toText := h.quiet hplain.quiet
        have hraw := hplain.not_raw
        rw [name_of_not_raw hraw, name_of_not_raw hraw]
        have heq : a.aliasedHead expression = (do
            if ← expression.contains ")" then pure (ofText expression.toText)
            else pure (ofText (a.wrap expression))) := by
          cases expression <;> first | rfl | simp [Value.isRaw] at hraw
        rw [heq]
        refine (Agree.self _).bind fun found _ hfound => hfound ▸ ?_
        split
        · exact .ok htext
        · exact .ok hsteady
    exact hhead.bind fun _ _ hf => .ok (hR.append_zero hf
      (hR.steady_append (hR.word (by decide)) (h.steady_plain hlabel)))
  · have hnone : ∀ expression label, v ≠ .aliased expression label :=
      fun expression label hv => haliased ⟨expression, label, hv⟩
    have hname : v.NameSound Q := by
      cases v <;> first | exact hv | exact absurd rfl (hnone _ _)
    rw [item_of_not_aliased hnone, item_of_not_aliased hnone]
    refine columnItem_named (h.named hname) fun expression label heq => ?_
    cases v <;> first
      | exact absurd heq (hnone _ _)
      | cases heq

theorem items_agree (hR : Congruence R) {v : Value} (hv : v.ListSound (Value.ItemSound Q)) :
    Agree (ItemsRel R a) (listed r.item v).toItems (listed r'.item v).toItems := by
  cases hv with
  | null => exact .misuse _
  | list hitems | tuple hitems =>
    refine .ok (List.forall₂_map_left_iff.2 (List.forall₂_map_right_iff.2 ?_))
    exact List.forall₂_same.2 fun v hv => h.columnItem_agree hR (hitems v hv)

omit h in
theorem isTrue_listed {f g : Value → Value} {sound : Value → Prop} {v : Value}
    (hv : v.ListSound sound) : (listed g v).isTrue = (listed f v).isTrue := by
  cases hv with
  | null => rfl
  | list hitems | tuple hitems => simp [listed, Value.isTrue]

theorem listed_agree (hR : Congruence R) {v : Value} (hv : v.ListSound (Value.ItemSound Q)) :
    Agree (ItemsRel R a) (listed r.item v).listed (listed r'.item v).listed := by
  have hitems := h.items_agree hR hv
  unfold Value.listed
  rw [isTrue_listed (f := r.item) (g := r'.item) hv]
  split
  · exact hitems
  · exact .ok .nil

/-! ### Conditions -/

theorem words {joiner leading : Value} (hjoiner : joiner.Worded)
    (hleading : leading.Worded) : Words R joiner leading where
  joiner s hs := ⟨h.quiet (hjoiner s hs), h.quiet (quiet_firstWords (hjoiner s hs))⟩
  leading s hs := h.quiet (hleading s hs)

theorem steady_operator (hR : Congruence R) {operator : Value} (hop : operator.OperatorSound) :
    Steady R operator.toText := by
  rcases hop with rfl | ⟨s, rfl, hs⟩
  · exact hR.word (by decide)
  · exact h.quiet hs

theorem operandRel {bindValues : Bool} {key operator v : Value} (hop : operator.OperatorSound)
    (hv : Value.OperandSound P Q bindValues key operator v) :
    OperandRel R a bindValues (r.name key) operator
      (r.overlay (r.operand bindValues key operator) v)
      (r'.overlay (r'.operand bindValues key operator) v) := by
  refine .of_key (isRaw_name key) ?_
  cases hraw : v.isRaw with
  | false =>
    rw [overlay_of_not_raw hraw, overlay_of_not_raw hraw]
    exact h.operand hraw hop hv
  | true =>
    obtain ⟨sql, bindings, rfl⟩ := Value.exists_eq_raw hraw
    exact ⟨.rfl, .inr rfl, rfl, fun _ => h.raw (lacks_of_operandSound hv)⟩

theorem steady_columns (hR : Congruence R) {columns : List Value}
    (hcolumns : ∀ v ∈ columns, v.Plain) : Steady R (", ".intercalate (columns.map a.wrap)) := by
  have hlist : R 0 (Fragment.intercalate ", " (columns.map fun v => ofText (a.wrap v)))
      (Fragment.intercalate ", " (columns.map fun v => ofText (a.wrap v))) := by
    refine hR.intercalate (hR.word (by decide)) (.of_forall₂ ?_)
    refine List.forall₂_same.2 fun f hf => ?_
    obtain ⟨v, hv, rfl⟩ := List.mem_map.1 hf
    exact h.steady_plain (hcolumns v hv)
  have heq : Fragment.intercalate ", " (columns.map fun v => ofText (a.wrap v)) =
      ofText (", ".intercalate (columns.map a.wrap)) := by
    refine congrArg₂ Fragment.mk ?_ ?_
    · rw [List.map_map]
      rfl
    · simp [ofText]
  rwa [heq] at hlist

theorem conditionsRel (hR : Congruence R) {bindValues : Bool} {cs : List Condition}
    (hcs : ConditionsSound P Q bindValues cs) :
    ConditionsRel R a bindValues (r.conditions bindValues cs) (r'.conditions bindValues cs) := by
  induction hcs with
  | nil => exact .nil
  | columns hjoiner hleading hne hcolumns _ ih =>
    exact .columns (h.words hjoiner hleading) hne rfl (h.steady_columns hR hcolumns) ih
  | group hjoiner hleading _ _ ihInner ih =>
    exact .group (h.words hjoiner hleading) ihInner ih
  | @comparison bindValues key operator value joiner leading cs hjoiner hleading hgroup hkey hop hv
      _ ih =>
    have hname : ∀ r : Replacement, r.condition bindValues
        ⟨key, operator, value, joiner, leading, []⟩ =
        ⟨r.name key, operator, r.overlay (r.operand bindValues key operator) value, joiner, leading,
          []⟩ := by
      intro r
      rw [condition]
      cases key <;> first | rfl | exact absurd rfl (hgroup _)
    rw [conditions, conditions, hname, hname]
    refine .comparison (h.words hjoiner hleading) (fun gs hgs => ?_) (h.named hkey)
      (h.steady_operator hR hop) (h.operandRel hop hv) ih
    cases key <;> first
      | exact absurd rfl (hgroup _)
      | exact nomatch hgs

/-! ### Joins -/

theorem joinPair_agree (hR : Congruence R) {main label : Value} (hmain : main.NameSound Q)
    (hlabel : label.Plain) (hlost : lossy ∨ main.bindingCount = 0) :
    Agree (R main.bindingCount) (a.joinTable (.tuple [r.name main, label]))
      (a.joinTable (.tuple [r'.name main, label])) := by
  have hrest := hR.steady_append (hR.word (s := " AS ") (by decide)) (h.steady_plain hlabel)
  have hpair : ∀ main, a.joinTable (.tuple [main, label]) =
      .ok (ofText (a.wrap main) ++ ofText (" AS " ++ a.wrap label)) := by
    intro main
    rw [Adapter.joinTable, ofText_append, String.append_assoc]
  rw [hpair, hpair]
  refine .ok (hR.append_zero ?_ hrest)
  cases hmain with
  | raw hf =>
    obtain ⟨heq, hsteady⟩ := h.dropped hf hlost
    simp only [name, overlay, toRaw, wrap, heq]
    exact hsteady _ rfl
  | name hv =>
    have hnone : main.bindingCount = 0 := by
      have hraw := hv.not_raw
      cases main <;> first | rfl | simp [Value.isRaw] at hraw
    rw [name_of_not_raw hv.not_raw, name_of_not_raw hv.not_raw, hnone]
    exact h.steady_plain hv

theorem joinTable_agree (hR : Congruence R) {j : JoinEntry} (hj : j.table.JoinTableSound Q)
    (hlost : lossy ∨ j.lost = 0) :
    Agree (R j.lost) (a.joinTable (r.joinTable j.table)) (a.joinTable (r'.joinTable j.table)) := by
  unfold JoinEntry.lost at hlost ⊢
  generalize j.table = table at hj hlost ⊢
  cases table with
  | tuple items =>
    match items, hj, hlost with
    | [main, label], ⟨hmain, hlabel⟩, hlost => exact h.joinPair_agree hR hmain hlabel hlost
    | [], _, _ => exact .misuse _
    | [_], _, _ => exact .misuse _
    | _ :: _ :: _ :: _, _, _ => exact .misuse _
  | _ => exact .ok (h.named hj).nameFragment

theorem joinsRel (hR : Congruence R) {joins : List JoinEntry} (hjoins : ∀ j ∈ joins, j.Sound P Q)
    (hlost : lossy ∨ (joins.map JoinEntry.lost).sum = 0) :
    JoinsRel R a (joins.map JoinEntry.lost).sum (joins.map r.join) (joins.map r'.join) := by
  induction joins with
  | nil => exact .nil
  | cons j joins ih =>
    have hj := hjoins j List.mem_cons_self
    rw [List.map_cons, List.sum_cons] at hlost
    refine .cons ⟨rfl, fun word hword => h.quiet (quiet_joinKind hj.kind hword), ?_,
      h.conditionsRel hR hj.criteria⟩ (ih (fun j hj => hjoins j (List.mem_cons_of_mem _ hj)) ?_)
    · exact h.joinTable_agree hR hj.table (hlost.imp_right fun hsum => by omega)
    · exact hlost.imp_right fun hsum => by omega

/-! ### Tables -/

theorem tableRel {n : Nat} (hR : Congruence R) {s s' : Statements}
    (haliases : s.aliases.AliasesSound) (heq : s'.aliases = s.aliases) {t : Value}
    (ht : R n (ofText (a.wrap t)) (ofText (a.wrap t))) :
    Agree (fun p p' => TableRel R a n (ofText p.1, p.2) (ofText p'.1, p'.2))
      (a.aliasedTable s t) (a.aliasedTable s' t) := by
  rw [aliasedTable_congr heq]
  refine .refl fun p hp => ?_
  rcases aliasedTable_cases haliases hp with rfl | ⟨label, hlabel, rfl⟩
  · exact ⟨ht, rfl, steady_wrap_null hR⟩
  · have hwrap := h.steady_wrapText hlabel
    have hrest := hR.steady_append (hR.word (s := " AS ") (by decide)) hwrap
    refine ⟨?_, rfl, hwrap⟩
    dsimp only
    rw [String.append_assoc]
    exact hR.append_zero ht hrest

theorem tableFragment_agree (hR : Congruence R) {s s' : Statements}
    (haliases : s.aliases.AliasesSound) (heq : s'.aliases = s.aliases) {t : Value}
    (ht : t.NameSound Q) :
    Agree (TableRel R a 0) (a.tableFragment s (r.name t)) (a.tableFragment s' (r'.name t)) := by
  cases ht with
  | raw hf => exact .ok ⟨h.raw hf, rfl, steady_wrap_null hR⟩
  | name ht =>
    have hraw := ht.not_raw
    have hplain : ∀ s, a.tableFragment s t =
        a.aliasedTable s t >>= fun named => pure (ofText named.1, named.2) := by
      intro s
      cases t <;> first | rfl | simp [Value.isRaw] at hraw
    rw [name_of_not_raw hraw, name_of_not_raw hraw, hplain, hplain]
    exact (h.tableRel hR haliases heq (h.steady_plain ht)).bind fun _ _ hp => .ok hp

/-- The table that is written to is the same in both runs. -/
theorem targetName_related {t : Value} (ht : t.NameSound Q) (hlost : lossy ∨ t.bindingCount = 0) :
    targetName (r'.name t) = targetName (r.name t) ∧
      R t.bindingCount (ofText (a.wrap (targetName (r.name t))))
        (ofText (a.wrap (targetName (r.name t)))) := by
  cases ht with
  | raw hf =>
    obtain ⟨heq, hsteady⟩ := h.dropped hf hlost
    refine ⟨congrArg Value.text heq, hsteady _ ?_⟩
    exact a.signs_wrapText _
  | name ht =>
    have hraw := ht.not_raw
    have hname : targetName t = t := by
      cases t <;> first | rfl | simp [Value.isRaw] at hraw
    have hnone : t.bindingCount = 0 := by
      cases t <;> first | rfl | simp [Value.isRaw] at hraw
    rw [name_of_not_raw hraw, name_of_not_raw hraw, hname, hnone]
    exact ⟨rfl, h.steady_plain ht⟩

theorem targetRel (hR : Congruence R) {s s₁ s₂ : Statements} (htables : s.tables.ListSound
    (Value.NameSound Q)) (haliases : s.aliases.AliasesSound)
    (ht₁ : s₁.tables = listed r.name s.tables) (ht₂ : s₂.tables = listed r'.name s.tables)
    (ha₁ : s₁.aliases = s.aliases) (ha₂ : s₂.aliases = s.aliases)
    (hlost : lossy ∨ s.lostInTarget = 0) : TargetRel R a s.lostInTarget s₁ s₂ := by
  intro clause
  unfold Statements.lostInTarget at hlost ⊢
  cases hitems : s.tables.items? with
  | none =>
    have hnull : s.tables = .null := by
      generalize s.tables = tables at htables hitems ⊢
      cases htables with
      | null => rfl
      | list | tuple => cases hitems
    have hnone : ∀ s : Statements, s.tables = .null →
        targetTable s clause = .error (.compilation (.noTarget clause)) := by
      intro s hs
      unfold targetTable Statements.hasTables
      rw [hs]
      rfl
    rw [hnull] at ht₁ ht₂
    rw [hnone s₁ ht₁, hnone s₂ ht₂]
    exact .error _
  | some ts =>
    have hts : ∀ t ∈ ts, t.NameSound Q := by
      generalize s.tables = tables at htables hitems
      cases htables with
      | null => cases hitems
      | list hts | tuple hts =>
        cases hitems
        exact hts
    rw [targetTable_items (ht₁ ▸ items?_listed hitems), targetTable_items
      (ht₂ ▸ items?_listed hitems), List.getLast?_map, List.getLast?_map]
    rw [hitems] at hlost
    dsimp only [Option.getD_some] at hlost ⊢
    cases hlast : ts.getLast? with
    | none => exact .error _
    | some t =>
      rw [hlast] at hlost
      obtain ⟨heq, hrel⟩ := h.targetName_related (hts t (List.mem_of_getLast? hlast)) hlost
      dsimp only [Option.map_some, Option.getD_some]
      rw [heq]
      refine .ok ⟨hrel, h.tableRel hR (ha₁ ▸ haliases) (ha₂.trans ha₁.symm) hrel⟩

/-! ### Data -/

theorem dataRel {v : Value} (hv : v.DataSound P Q) : DataRel R a (r.data v) (r'.data v) := by
  have hrow : ∀ {entries : List (Value × Value)},
      (∀ e ∈ entries, e.1.Plain ∧ e.2.DatumSound P Q) →
        RowRel R a (r.row entries) (r'.row entries) := by
    intro entries hentries
    refine List.forall₂_map_left_iff.2 (List.forall₂_map_right_iff.2 ?_)
    refine List.forall₂_same.2 fun e he => ⟨rfl, h.steady_plain (hentries e he).1, ?_⟩
    obtain ⟨-, hdatum⟩ := hentries e he
    obtain ⟨column, v⟩ := e
    dsimp only at hdatum ⊢
    cases hdatum with
    | raw hf => exact h.raw hf
    | bound hraw hP =>
      rw [overlay_of_not_raw hraw, overlay_of_not_raw hraw]
      exact h.datum hraw hP
  cases v with
  | map entries =>
    refine ⟨rfl, ?_, .ok (hrow (hv entries rfl))⟩
    simp [data, row, Value.isTrue]
  | _ => exact ⟨rfl, rfl, .misuse _⟩

/-! ### Clauses -/

theorem sharedRel (hR : Congruence R) {s : Statements} (hs : ClausesSound P Q s)
    (bindCriteria : Bool) (hlost : lossy ∨ Statements.lostInJoins s.joins = 0) :
    SharedRel R a (Statements.lostInJoins s.joins) (r.statements bindCriteria s)
      (r'.statements bindCriteria s) := by
  rw [statements_eq, statements_eq]
  constructor
  · dsimp only
    rw [getD_map_map, getD_map_map]
    exact h.joinsRel hR hs.joins hlost
  · dsimp only
    rw [getD_map_conditions, getD_map_conditions]
    exact h.conditionsRel hR hs.wheres
  · exact h.listed_agree hR hs.groupBys
  · dsimp only
    rw [getD_map_map, getD_map_map]
    refine List.forall₂_map_left_iff.2 (List.forall₂_map_right_iff.2 ?_)
    refine List.forall₂_same.2 fun entry hentry => ?_
    obtain ⟨hfield, hdirection⟩ := hs.orderBys entry hentry
    exact ⟨h.named hfield, rfl, h.quiet hdirection.quiet⟩
  · rfl
  · exact fun text htext => h.quiet (quiet_written hs.limit htext)
  · rfl
  · exact fun text htext => h.quiet (quiet_written hs.offset htext)

theorem sources_agree (hR : Congruence R) {s s₁ s₂ : Statements}
    (htables : s.tables.ListSound (Value.NameSound Q)) (haliases : s.aliases.AliasesSound)
    (ht₁ : s₁.tables = listed r.name s.tables) (ht₂ : s₂.tables = listed r'.name s.tables)
    (ha₁ : s₁.aliases = s.aliases) (ha₂ : s₂.aliases = s.aliases) :
    Agree (List.Forall₂ fun t t' =>
      Agree (TableRel R a 0) (a.tableFragment s₁ t) (a.tableFragment s₂ t'))
      s₁.sources s₂.sources := by
  unfold Statements.sources Value.listed
  rw [ht₁, ht₂, isTrue_listed (f := r.name) (g := r'.name) htables]
  generalize s.tables = tables at htables
  cases htables with
  | null => exact .ok .nil
  | list hts | tuple hts =>
    split
    · refine .ok (List.forall₂_map_left_iff.2 (List.forall₂_map_right_iff.2 ?_))
      exact List.forall₂_same.2 fun t ht =>
        h.tableFragment_agree hR (ha₁ ▸ haliases) (ha₂.trans ha₁.symm) (hts t ht)
    · exact .ok .nil

theorem selectingRel (hR : Congruence R) {s : Statements} (hs : ClausesSound P Q s)
    (bindCriteria : Bool) (hlost : lossy ∨ Statements.lostInJoins s.joins = 0) :
    SelectingRel R a (Statements.lostInJoins s.joins) (r.statements bindCriteria s)
      (r'.statements bindCriteria s) where
  toSharedRel := h.sharedRel hR hs bindCriteria hlost
  distinct := by
    rw [statements_eq, statements_eq]
    exact isTrue_listed hs.distincts
  columns := by
    rw [statements_eq, statements_eq]
    exact (h.listed_agree hR hs.selects).bind fun _ _ hselects =>
      (h.listed_agree hR hs.distincts).bind fun _ _ hdistincts =>
        .ok (List.rel_append hdistincts hselects)
  sources := by
    rw [statements_eq, statements_eq]
    exact h.sources_agree hR hs.tables hs.aliases rfl rfl rfl rfl
  havings := by
    rw [statements_eq, statements_eq]
    dsimp only
    rw [getD_map_conditions, getD_map_conditions]
    exact h.conditionsRel hR hs.havings
  lock_eq := by rw [statements_eq, statements_eq]
  lock := by
    rw [statements_eq]
    exact h.quiet hs.lock.quiet

theorem steady_unionOperator (hR : Congruence R) {type : Value} (htype : type.Plain) :
    Steady R (a.dialect.unionOperator type) := by
  have hunion : Steady R "UNION" := hR.word (by decide)
  have hwords : Steady R (if type.isTrue then "UNION " ++ type.toText else "UNION") := by
    split
    · exact hR.steady_append (hR.word (by decide)) (h.quiet htype.quiet)
    · exact hunion
  unfold Dialect.unionOperator
  split
  · exact hR.word (by decide)
  · exact hunion
  · exact hwords

theorem membersRel (hR : Congruence R) {entries : List UnionEntry}
    (hentries : MembersSound P Q entries)
    (hlost : lossy ∨ Statements.lostInMembers entries = 0) :
    MembersRel R a (Statements.lostInMembers entries) (r.members entries)
      (r'.members entries) := by
  induction hentries with
  | nil => exact .nil
  | @cons s type identity entries clauses _ htype _ ihInner ihRest =>
    have hsum : Statements.lostInMembers (⟨s, type, identity⟩ :: entries) =
        Statements.lostInJoins s.joins + Statements.lostInMembers (s.unions.getD []) +
          Statements.lostInMembers entries := by
      rw [Statements.lostInMembers, Statements.lostInSelect_eq]
    rw [hsum] at hlost ⊢
    rw [members, members]
    refine .cons (h.selectingRel hR clauses true (hlost.imp_right fun hsum => by omega)) ?_
      (h.steady_unionOperator hR htype) (ihRest (hlost.imp_right fun hsum => by omega))
    have hinner := ihInner (hlost.imp_right fun hsum => by omega)
    rw [statements_eq, statements_eq]
    dsimp only
    rwa [getD_furtherMembers, getD_furtherMembers]

/-! ### Requests -/

theorem columnsRel (hR : Congruence R) {v : Value} (hv : v.ListSound (Value.ItemSound Q)) :
    ColumnsRel R a (listed r.item v) (listed r'.item v) :=
  ⟨isTrue_listed hv, h.items_agree hR hv⟩

theorem requestRel (hR : Congruence R) (op : Operation) {s : Statements} {values : List Value}
    (hs : s.Sound P Q (bindsCriteria values)) (hvalues : PayloadSound P Q op values)
    (hlost : lossy ∨ s.lost op = 0) :
    RequestRel R a (s.lost op) op (r.statements (bindsCriteria values) s)
      (r'.statements (bindsCriteria values) s) (r.payload op values) (r'.payload op values) := by
  have htarget : lossy ∨ s.lostInTarget = 0 → TargetRel R a s.lostInTarget
      (r.statements (bindsCriteria values) s) (r'.statements (bindsCriteria values) s) := by
    intro hlost
    rw [statements_eq, statements_eq]
    exact h.targetRel hR hs.clauses.tables hs.clauses.aliases rfl rfl rfl rfl hlost
  have hupdate : DataRel R a (r.statements (bindsCriteria values) s).onDuplicate
      (r'.statements (bindsCriteria values) s).onDuplicate := by
    rw [statements_eq, statements_eq]
    exact h.dataRel hs.clauses.onDuplicate
  have hcriteria : ConditionsRel R a (bindsCriteria values)
      ((r.statements (bindsCriteria values) s).criteria.getD [])
      ((r'.statements (bindsCriteria values) s).criteria.getD []) := by
    rw [statements_eq, statements_eq]
    dsimp only
    rw [getD_map_conditions, getD_map_conditions]
    exact h.conditionsRel hR hs.criteria
  have hshared := h.sharedRel hR hs.clauses (bindsCriteria values)
  match values, hvalues with
  | [], hvalues =>
    cases op with
    | select =>
      change lossy ∨ s.lostInSelect = 0 at hlost
      change RequestRel R a s.lostInSelect _ _ _ _ _
      rw [Statements.lostInSelect_eq] at hlost ⊢
      refine .select (h.selectingRel hR hs.clauses _ (hlost.imp_right fun hsum => by omega)) ?_
      have hmembers := h.membersRel hR hs.members (hlost.imp_right fun hsum => by omega)
      rw [statements_eq, statements_eq]
      dsimp only
      rwa [getD_furtherMembers, getD_furtherMembers]
    | delete =>
      change lossy ∨ s.lostInTarget + Statements.lostInJoins s.joins = 0 at hlost
      exact .deleteAll (htarget (hlost.imp_right fun hsum => by omega))
        (hshared (hlost.imp_right fun hsum => by omega))
    | criteria => exact .criteria hcriteria
    | _ => exact .refused rfl rfl
  | [v], hvalues =>
    cases op with
    | select => exact .refused rfl rfl
    | insert =>
      exact .insert (.inl rfl) (htarget hlost) (h.dataRel (hvalues v List.mem_cons_self)) hupdate
    | insertIgnore =>
      exact .insert (.inr (.inl rfl)) (htarget hlost) (h.dataRel (hvalues v List.mem_cons_self))
        hupdate
    | replace =>
      exact .insert (.inr (.inr rfl)) (htarget hlost) (h.dataRel (hvalues v List.mem_cons_self))
        hupdate
    | update =>
      change lossy ∨ s.lostInTarget + Statements.lostInJoins s.joins = 0 at hlost
      exact .update (htarget (hlost.imp_right fun hsum => by omega))
        (hshared (hlost.imp_right fun hsum => by omega))
        (h.dataRel (hvalues v List.mem_cons_self))
    | delete =>
      change lossy ∨ s.lostInTarget + Statements.lostInJoins s.joins = 0 at hlost
      exact .delete (htarget (hlost.imp_right fun hsum => by omega))
        (hshared (hlost.imp_right fun hsum => by omega))
        (h.columnsRel hR (hvalues v List.mem_cons_self))
    | criteria => exact .criteriaWith rfl hcriteria
  | _ :: _ :: _, _ => cases op <;> exact .refused rfl rfl

end Respects

end Replacement

end SqlBuilder
