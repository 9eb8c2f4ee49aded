import Mathlib.Data.List.Forall2
import SqlBuilder.Proofs.Fetching.Answers
import SqlBuilder.Proofs.Grammar.Building
import SqlBuilder.Proofs.Transaction.Orderly
import SqlBuilder.Proofs.Twins.Building

/-!
# Which column comes back

An operation that asks for a column selects it and returns the first value of the rows. What is
selected next stands behind what a builder has selected already, and behind its distinct expressions
(`Statements.ahead`), so the values that come back are those of the expression in front of all
others.

* `selected_addSelects`: the select list is what was ahead, then the new expressions.
* `Tabulates`: a row has a value for each expression of a list, in the order of the list.
* `Terminal.Asks.returns`: whatever listeners do that are polite, the operation returns what it
  makes of the rows the driver answers with.
* `fetched_column`: the values are those of the column that was asked for, in every row, exactly if
  nothing else is ahead of it.
-/

set_option autoImplicit false

namespace SqlBuilder

open Session Builder Grammar

/-! ## The select list -/

namespace Statements

/-- The selected expressions that stay when more are selected: none if they are replaced. -/
def kept (st : Statements) (overwrite : Bool) : Result (List Value) :=
  if overwrite then .ok [] else st.selects.listed

/-- The expressions in front of what is selected next, the distinct ones first. -/
def ahead (st : Statements) (overwrite : Bool) : Result (List Value) := do
  let selects ← st.kept overwrite
  pure ((← st.distincts.listed) ++ selects)

theorem listed_list (items : List Value) : (Value.list items).listed = .ok items := by
  cases items <;> rfl

theorem selected_addSelects {st st' : Statements} {overwrite : Bool} {items : List Value}
    (h : st.addSelects overwrite items = .ok st') :
    st'.selected = (st.ahead overwrite).map (· ++ items) := by
  obtain ⟨new, hnew, hst⟩ := bind_ok h
  cases hst
  have hlisted : new.listed = (st.kept overwrite).map (· ++ items) := by
    unfold selection at hnew
    cases overwrite with
    | true =>
      cases hnew
      exact listed_list items
    | false =>
      show _ = st.selects.listed.map (· ++ items)
      generalize st.selects = old at hnew ⊢
      cases old with
      | null =>
        cases hnew
        exact listed_list items
      | list earlier =>
        cases hnew
        rw [listed_list, listed_list]
        rfl
      | _ => cases hnew
  show (new.listed >>= fun selects => st.distincts.listed >>= fun distincts =>
    pure (distincts ++ selects)) = _
  rw [hlisted, ahead]
  cases st.kept overwrite with
  | error f => rfl
  | ok kept =>
    cases st.distincts.listed with
    | error f => rfl
    | ok distincts =>
      show Except.ok (distincts ++ (kept ++ items)) = Except.ok (distincts ++ kept ++ items)
      rw [List.append_assoc]

end Statements

/-! ## Rows -/

/-- The row has a value for each expression, in their order and under names that differ. -/
structure Tabulates (items : List Value) (valueOf : Value → Value) (row : Row) : Prop where
  names : (row.map Prod.fst).Nodup
  values : row.map Prod.snd = items.map valueOf

/-- The first value of a row is that of the first expression. -/
theorem Tabulates.firstValue {item : Value} {items : List Value} {valueOf : Value → Value}
    {row : Row} (h : Tabulates (item :: items) valueOf row) :
    Driver.firstValue row = valueOf item := by
  obtain ⟨-, hvalues⟩ := h
  cases row with
  | nil => cases hvalues
  | cons entry row => exact (List.cons.inj hvalues).1

/-- So the first values of all rows are those of the first expression. -/
theorem firstValues_of_tabulates {item : Value} {items : List Value}
    {valuations : List (Value → Value)} {rows : List Row}
    (h : List.Forall₂ (Tabulates (item :: items)) valuations rows) :
    rows.map Driver.firstValue = valuations.map fun valueOf => valueOf item := by
  induction h with
  | nil => rfl
  | cons hrow _ ih => rw [List.map_cons, List.map_cons, hrow.firstValue, ih]

/-! ## Asking for a column -/

namespace Builder

variable {r : Reaction} {s : Session} {b c : Nat} {x : Builder} {conn : Connection}
  {st st' : Statements}

/-- A single column is selected with its prefix. -/
theorem runIn_select_single (h : Standing b x c conn st s) {column k : Value}
    (hcolumn : column.isMany = false)
    (hk : (s.prefixOf conn >>= fun p => prefixed p true column) = .ok k)
    (hst' : st.addSelects x.overwrite.isTrue [k] = .ok st') :
    runIn r (select b [column]) s =
      (.ok (), { s with records := s.records.modify x.record fun _ => st' }) := by
  have hprefix : runIn r (addPrefix b column true) s = (.ok k, s) := by
    rw [runIn_addPrefix h.opened, hk]
  have hfields : collectFields b [column] = (do pure [← addPrefix b column true]) := by
    simp only [collectFields, collectField_name hcolumn, bind_assoc, pure_bind, List.append_nil]
  rw [select, hfields, bind_assoc, runIn_bind_ok hprefix, pure_bind,
    runIn_bind_ok (runIn_overwrites h.builder)]
  exact runIn_change h.builder h.statements hst'

end Builder

namespace Terminal

/-- The operation selects a column first. It makes `answer` of the rows and `finish` of that. -/
structure Asks (t : Terminal) (column : Value) (answer : List Row → t.Answer)
    (finish : t.Answer → Result Value) : Prop where
  issue : ∀ b, t.issue b = (do
    select b [column]
    issued b .select [] finish)
  ask : ∀ q, t.ask q = (do pure (answer (← Driver.fetchAll q.sql q.bindings)))

theorem asks_value (column : Value) :
    (Terminal.value column).Asks column (fun rows => (rows.map Driver.firstValue).headD .null)
      .ok where
  issue _ := rfl
  ask q := by
    simp only [ask, Driver.fetchScalar, Driver.fetchRow, bind_assoc, pure_bind]
    refine bind_congr fun rows => ?_
    cases rows <;> rfl

theorem asks_pluck (column : Value) :
    (Terminal.pluck column).Asks column (fun rows => rows.map Driver.firstValue)
      (fun values => .ok (.list values)) where
  issue _ := rfl
  ask _ := rfl

variable {r : Reaction} {t : Terminal} {s : Session} {b c : Nat} {x : Builder} {conn : Connection}
  {st st' : Statements} {column k : Value} {answer : List Row → t.Answer}
  {finish : t.Answer → Result Value} {rows : List Row}

/-- The query of the operation is issued. -/
theorem Asks.runIn_issue (ht : t.Asks column answer finish) (h : Standing b x c conn st s)
    (hcolumn : column.isMany = false)
    (hk : (s.prefixOf conn >>= fun p => prefixed p true column) = .ok k)
    (hst' : st.addSelects x.overwrite.isTrue [k] = .ok st') {q : CompiledQuery}
    (hq : conn.adapter.compile .select st' [] = .ok q) :
    ∃ u, runIn r (t.issue b) s = (.ok ⟨b, q, finish⟩, u) := by
  have hstanding := h.edited fun _ => st'
  obtain ⟨journal, hcompiled⟩ :=
    runIn_compileAs (r := r) hstanding.opened hstanding.builder hstanding.statements .select []
  rw [ht.issue, runIn_bind_ok (runIn_select_single h hcolumn hk hst'), issued, runIn_bind,
    hcompiled, hq]
  exact ⟨_, rfl⟩

/-- The operation returns what it makes of the rows the driver answers with. -/
theorem Asks.returns (ht : t.Asks column answer finish) (h : Standing b x c conn st s)
    (hcolumn : column.isMany = false)
    (hk : (s.prefixOf conn >>= fun p => prefixed p true column) = .ok k)
    (hst' : st.addSelects x.overwrite.isTrue [k] = .ok st') {q : CompiledQuery}
    (hq : conn.adapter.compile .select st' [] = .ok q)
    (hcourteous : ∀ i c u, t.Begins r b s i c u → t.Courteous r i c u)
    (hrows : t.Answered r b s rows) :
    (runIn r (t.perform b) s).1 = finish (answer rows) := by
  obtain ⟨u, hissue⟩ := ht.runIn_issue (r := r) h hcolumn hk hst' hq
  exact t.returns answer ht.ask hissue hcourteous hrows

end Terminal

/-- An operation that asks for a column returns the values of the expression in front of all others.
They are those of the column, whatever the rows hold, exactly if nothing else is ahead of it. -/
theorem fetched_values {r : Reaction} {s : Session} {b c : Nat} {x : Builder} {conn : Connection}
    {st st' : Statements} {column k : Value} {front items : List Value} {q : CompiledQuery}
    {valuations : List (Value → Value)} {rows : List Row} (h : Standing b x c conn st s)
    (hcolumn : column.isMany = false)
    (hk : (s.prefixOf conn >>= fun p => prefixed p true column) = .ok k)
    (hfront : st.ahead x.overwrite.isTrue = .ok front)
    (hst' : st.addSelects x.overwrite.isTrue [k] = .ok st')
    (hitems : st'.selected = .ok items)
    (hq : conn.adapter.compile .select st' [] = .ok q)
    (hrows : List.Forall₂ (Tabulates items) valuations rows)
    (hvalue : ∀ i c u, (Terminal.value column).Begins r b s i c u →
      (Terminal.value column).Courteous r i c u)
    (hvalues : (Terminal.value column).Answered r b s rows)
    (hpluck : ∀ i c u, (Terminal.pluck column).Begins r b s i c u →
      (Terminal.pluck column).Courteous r i c u)
    (hplucked : (Terminal.pluck column).Answered r b s rows) :
    let first := front.headD k
    let values := valuations.map fun valueOf => valueOf first
    (runIn r (value b column) s).1 = .ok (values.headD .null) ∧
      (runIn r (pluck b column) s).1 = .ok values ∧
      ((∀ valueOf : Value → Value, valueOf first = valueOf k) ↔ ∀ e ∈ front.head?, e = k) := by
  intro first values
  have hselected : items = front ++ [k] := by
    have hlist := Statements.selected_addSelects hst'
    rw [hitems, hfront] at hlist
    exact Except.ok.inj hlist
  have hfirst : ∃ rest, items = first :: rest := by
    cases front with
    | nil => exact ⟨[], hselected⟩
    | cons e front => exact ⟨front ++ [k], hselected⟩
  obtain ⟨rest, hitems'⟩ := hfirst
  have hvaluesOf : rows.map Driver.firstValue = values :=
    firstValues_of_tabulates (hitems' ▸ hrows)
  refine ⟨?_, ?_, ?_⟩
  · rw [← hvaluesOf]
    exact (Terminal.asks_value column).returns h hcolumn hk hst' hq hvalue hvalues
  · have hlist := (Terminal.asks_pluck column).returns h hcolumn hk hst' hq hpluck hplucked
    rw [Terminal.perform, runIn_bind] at hlist
    rw [← hvaluesOf]
    generalize runIn r (pluck b column) s = p at hlist ⊢
    obtain ⟨_ | values, z⟩ := p
    · cases hlist
    · cases hlist
      rfl
  · cases front with
    | nil => exact ⟨fun _ e he => absurd he (by simp), fun _ _ => rfl⟩
    | cons e front =>
      refine ⟨fun hall e' he' => ?_, fun hall valueOf => ?_⟩
      · cases he'
        exact hall id
      · exact congrArg valueOf (hall e rfl)

/-! ## A column that stands behind another -/

/-- A session with one builder, which selects a column already. -/
def selecting : Session where
  connections := #[{
    driver := .ofScenario { rows := [
      [(.text "a", .int 1), (.text "b", .int 2)], [(.text "a", .int 3), (.text "b", .int 4)]] }
    scenario := {}
    settings := {}
    adapter := { dialect := .sqlite } }]
  builders := #[{ connection := some 0, record := 0 }]
  records := #[{ tables := .list [.text "t"], selects := .list [.text "a"] }]
  first := some 0

/-- What the columns are in each of its rows. -/
def cells (a b : Int) : Value → Value
  | .text "a" => .int a
  | .text "b" => .int b
  | _ => .null

/-- The query by which another column is asked for. -/
def selectBoth : CompiledQuery where
  sql := .text "SELECT a, b FROM t"
  bindings := .positional []
  adapter := some { dialect := .sqlite }

/-- The session in which it is issued. -/
def selectingBoth : Session :=
  { selecting with
    records := #[{ tables := .list [.text "t"], selects := .list [.text "a", .text "b"] }]
    journal := [.logged .debug "fluentql.compile.base"
      "Compiled select for sqlite: SELECT a, b FROM t"] }

theorem selecting_unheard : selecting.Unheard := .of_single rfl rfl

theorem answered_selecting {t : Terminal} {answer : List Row → t.Answer}
    {finish : t.Answer → Result Value} (ht : t.Asks (.text "b") answer finish) :
    t.Answered idle 0 selecting [
      [(.text "a", .int 1), (.text "b", .int 2)], [(.text "a", .int 3), (.text "b", .int 4)]] := by
  intro i c u v hbegins hheard
  have hissue : runIn idle (t.issue 0) selecting =
      (.ok ⟨0, selectBoth, finish⟩, selectingBoth) := by
    rw [ht.issue]
    cbv
  obtain ⟨w, hrun, -, hon, rfl⟩ := hbegins
  cases hissue.symm.trans hrun
  obtain ⟨_, _, hx, hc, -⟩ := hon
  cases hx
  cases hc
  cases hheard
  rw [runIn_onDriver rfl]
  rfl

theorem fetched_values_of_behind :
    (runIn idle (value 0 (.text "b")) selecting).1 = .ok (.int 1) ∧
      (runIn idle (pluck 0 (.text "b")) selecting).1 = .ok [.int 1, .int 3] ∧
      ¬ ∀ valueOf : Value → Value, valueOf (.text "a") = valueOf (.text "b") := by
  have h := @fetched_values idle selecting 0 0 _ _ _ _ (.text "b") (.text "b") [.text "a"]
    [.text "a", .text "b"] selectBoth [cells 1 2, cells 3 4] _
    ⟨rfl, rfl, rfl, rfl⟩ rfl rfl rfl rfl rfl (by cbv)
    (.cons ⟨by simp, rfl⟩ (.cons ⟨by simp, rfl⟩ .nil))
    (Terminal.courteous_of_unheard selecting_unheard)
    (answered_selecting (Terminal.asks_value _))
    (Terminal.courteous_of_unheard selecting_unheard)
    (answered_selecting (Terminal.asks_pluck _))
  refine ⟨h.1, h.2.1, fun hall => ?_⟩
  exact absurd (h.2.2.1 hall (.text "a") rfl) (by simp)

end SqlBuilder
