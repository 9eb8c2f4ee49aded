import SqlBuilder.Proofs.Fluent.Programs

/-!
# Queries of fluent programs

`fluent_queries_match`: whatever a fluent program has built, the queries that come of it have as
many values as placeholders, so that changing their placeholder style never fails for that
(`CompiledQuery.Matches`).
-/

set_option autoImplicit false

namespace SqlBuilder

open Value Placeholder Builder Session

/-- The query is never rejected for having more values than placeholders, or fewer, in whatever
style it is asked for and with whatever escapes. -/
def CompiledQuery.Matches (q : CompiledQuery) : Prop :=
  ∀ (style : Value) (escape : String → String) (marks values : Nat) (sql : Value),
    restyle style escape q.sql q.bindings ≠
      .error (.validation (.bindingMismatch marks values sql))

/-- The name of the table a builder writes to, if the table is given by its name. -/
def Session.targetName? (s : Session) (b : Nat) : Option String := do
  let x ← s.builders[b]?
  let st ← s.records[x.record]?
  let table ← st.tables.back.toOption
  table.text?

/-- What a query may be asked for with. -/
inductive RequestGiven : Operation → List Value → Prop where
  | select : RequestGiven .select []
  | row {op : Operation} {row : Value}
      (hop : op ∈ [.insert, .insertIgnore, .replace, .update]) (h : RowGiven row) :
      RequestGiven op [row]
  | delete : RequestGiven .delete []
  | columns {columns : Value} (h : columns.ListSound NameGiven) : RequestGiven .delete [columns]

/-! ## Changing the style -/

/-- Values are only rejected for their type. -/
theorem mapM_check_error {values : List Value} {f : Fault} (h : values.mapM check = .error f) :
    ∃ name, f = .validation (.invalidBinding name) := by
  induction values with
  | nil => cases h
  | cons v vs ih =>
    rw [List.mapM_cons, check] at h
    split at h
    · cases hrest : vs.mapM check with
      | error g =>
        rw [hrest] at h
        cases h
        exact ih hrest
      | ok ws =>
        rw [hrest] at h
        cases h
    · cases h
      exact ⟨_, rfl⟩

theorem CompiledQuery.Aligned.matches {q : CompiledQuery} (h : q.Aligned) : q.Matches := by
  obtain ⟨f, hf, hsql, hbindings⟩ := h
  intro style escape marks values sql hrestyle
  rw [hsql, hbindings, restyle] at hrestyle
  cases hstyle : styleNamed style with
  | error g =>
    rw [hstyle] at hrestyle
    cases hrestyle
    unfold styleNamed at hstyle
    split at hstyle
    · cases hstyle
    · split at hstyle <;> cases hstyle
  | ok style =>
    rw [hstyle] at hrestyle
    cases hcheck : f.bindings.mapM check with
    | error g =>
      obtain ⟨name, rfl⟩ := mapM_check_error hcheck
      simp only [bind, Except.bind, restyleValues, hcheck] at hrestyle
      cases hrestyle
    | ok vs =>
      have hcount : (split f.sql).length - 1 = vs.length := by
        rw [(mapM_ok hcheck).1]
        exact hf.count
      simp only [bind, Except.bind, restyleValues, hcheck, segments_text, hcount, bne_self_eq_false,
        Bool.false_eq_true, if_false] at hrestyle
      cases hrestyle

/-! ## Requests -/

theorem RequestGiven.payloadSound {op : Operation} {payload : List Value}
    (h : RequestGiven op payload) : PayloadSound Any Any op payload := by
  cases h with
  | select => exact trivial
  | delete => exact nofun
  | row hop h =>
    have hdata := List.forall_mem_singleton.2 h.dataSound
    simp only [List.mem_cons, List.not_mem_nil, or_false] at hop
    rcases hop with rfl | rfl | rfl | rfl <;> exact hdata
  | @columns columns h =>
    refine List.forall_mem_singleton.2 ?_
    cases h with
    | null => exact .null
    | list h => exact .list fun v hv => (h v hv).item
    | tuple h => exact .tuple fun v hv => (h v hv).item

theorem RequestGiven.ne_criteria {op : Operation} {payload : List Value}
    (h : RequestGiven op payload) : op ≠ .criteria := by
  rintro rfl
  cases h with
  | row hop => simp at hop

/-- A table that is given by its name leaves no values behind. -/
theorem lostInTarget_of_name {st : Statements} {table : Value} {name : String}
    (h : st.tables.back = .ok table) (hname : table.text? = some name) : st.lostInTarget = 0 := by
  unfold Statements.lostInTarget
  cases hitems : st.tables.items? with
  | none => rfl
  | some items =>
    have hlast : items.getLast? = some table := by
      cases htables : st.tables with
      | list xs | tuple xs =>
        rw [htables] at h hitems
        cases hitems
        simp only [Value.back, Value.chosen] at h
        cases hback : items.getLast? with
        | some item =>
          rw [hback] at h
          cases h
          rfl
        | none =>
          rw [hback] at h
          cases h
      | _ => rw [htables] at hitems; cases hitems
    have hbare : table.bindingCount = 0 := by
      cases table <;> first | rfl | cases hname
    simp [hlast, hbare]

theorem lostInTarget_of_targetName {s : Session} {b : Nat} {x : Builder} {st : Statements}
    (hx : s.builders[b]? = some x) (hst : s.records[x.record]? = some st)
    (h : (s.targetName? b).isSome = true) : st.lostInTarget = 0 := by
  obtain ⟨name, h⟩ := Option.isSome_iff_exists.1 h
  rw [Session.targetName?, hx] at h
  change s.records[x.record]?.bind _ = _ at h
  rw [hst] at h
  change st.tables.back.toOption.bind _ = _ at h
  cases hback : st.tables.back with
  | error f =>
    rw [hback] at h
    cases h
  | ok table =>
    rw [hback] at h
    exact lostInTarget_of_name hback h

/-- **Queries of fluent programs match.** After a fluent program on a connection that had no
builders, in whatever dialect and with or without a prefix, the select of each builder is written
with as many placeholders as values, and so are its inserts, updates and deletes if the table to
write to is given by its name. -/
theorem fluent_queries_match {c : Nat} {conn : Connection} {s : Session} {act : Action Unit}
    (r : Reaction) (hconn : s.connections[c]? = some conn) (hnone : s.builders = #[])
    (hworded : ∀ p, s.prefixOf conn = .ok p → p.Worded) (hact : Fluent c [] act)
    {b : Nat} {op : Operation} {payload : List Value} (hrequest : RequestGiven op payload)
    (htarget : op ≠ .select → ((runIn r act s).2.targetName? b).isSome = true) {q : CompiledQuery}
    (hq : (runIn r (compileAs b (.ok op) payload) (runIn r act s).2).1 = .ok q) : q.Matches := by
  have hstart : Session.Aligned c conn [] s := by
    refine ⟨hconn, hworded, nofun, ?_, ?_⟩ <;> rw [hnone] <;> nofun
  have hsafe : Safe c conn [] act := hact.safe
  have haligned := (hsafe r s hstart).1
  generalize (runIn r act s).2 = s' at *
  cases hx : s'.builders[b]? with
  | none =>
    have hmissing : runIn r (connectionOf b) s' = (.error (.misuse .missingAttribute), s') := by
      rw [connectionOf, Session.builder, runIn_bind, runIn_bind_ok (runIn_get s'), hx]
      rfl
    rw [compileAs, runIn_bind, adapterOf, runIn_bind, hmissing] at hq
    cases hq
  | some x =>
    obtain ⟨-, st, hst, hstatements⟩ := haligned.builders b x hx
    obtain ⟨journal, hrun⟩ := runIn_compileAs (r := r) (haligned.opened hx) hx hst op payload
    rw [hrun] at hq
    have hlost : op = .select ∨ st.lostInTarget = 0 := by
      rcases eq_or_ne op .select with hop | hop
      · exact .inl hop
      · exact .inr (lostInTarget_of_targetName hx hst (htarget hop))
    exact (hstatements.compiled hrequest.ne_criteria hrequest.payloadSound hlost hq).matches

/-- A connection with a prefix. -/
def Connection.prefixing (tablePrefix : Value) : Connection where
  driver := .ofScenario {}
  scenario := {}
  settings := {}
  adapter := ⟨.mysql, true⟩
  tablePrefix := tablePrefix

/-- A table with conditions of a callback, a join made on by a callback, and another builder's
subquery, as a value and as a field. -/
def nestedProgram : Action Unit := do
  let b ← newBuilder 0 .query .empty
  let _ ← outcomeOf (called (.change .fromTables) b [.value (.text "t")])
  let _ ← outcomeOf (called (.condition (.compare .and)) b [.callback 0 fun g => do
    let _ ← outcomeOf (called (.condition (.compare .or)) g
      [.value (.text "a"), .value (.text "it's ?")])])
  let _ ← outcomeOf (called (.change .join) b [.value (.text "u"), .callback 1 fun g => do
    let _ ← outcomeOf (called (.change .on) g
      [.value (.text "u.id"), .value (.text "="), .value (.text "t.id")])])
  let other ← newBuilder 0 .query .empty
  let _ ← outcomeOf (called (.change .fromTables) other [.value (.text "v")])
  let _ ← outcomeOf (called (.condition (.among false .and)) b
    [.value (.text "b"), .value (.builder other .query)])
  let made ← outcomeOf (called (.result .subQuery) b [.value (.builder other .query)])
  match made with
  | .ok (.value (.raw sql bindings)) => do
    let _ ← outcomeOf (called (.change .select) b [.value (.raw sql bindings)])
  | _ => pure ()

theorem fluent_nestedProgram : Fluent 0 [] nestedProgram := by
  have name {s : String} (h : Quiet s) : NameGiven (.text s) := .text h
  refine .opens fun b => ?_
  refine .calls (List.mem_cons_self ..) ?table (by simp) fun _ _ => ?_
  case table => exact List.forall_mem_singleton.2 (.name (name (by decide)))
  refine .calls (List.mem_cons_self ..) ?conditions ?conditionsCallback fun _ _ => ?_
  case conditions => exact ⟨by rintro _ ⟨⟩ _ ⟨⟩, comparisonGiven_null _⟩
  case conditionsCallback =>
    rintro _ _ hf g
    cases List.mem_singleton.1 hf
    refine .calls (List.mem_cons_self ..) ⟨?key, operatorSound_text (by decide), ?bound⟩ (by simp)
      fun _ _ => .done
    case key =>
      rintro _ ⟨⟩ _ ⟨⟩
      exact name (by decide)
    case bound => exact subjectGiven_text nofun
  refine .calls (List.mem_cons_self ..) ⟨?joined, nofun, ?kind⟩ ?joinCallback fun _ _ => ?_
  case joined =>
    rintro _ ⟨⟩
    exact .name (name (by decide))
  case kind => exact worded_text (by decide)
  case joinCallback =>
    rintro _ _ hf g
    obtain hf | hf := List.mem_pair.1 hf <;> cases hf
    refine .calls (List.mem_cons_self ..) ⟨?first, ⟨operatorSound_text (by decide), ?second, rfl⟩,
      worded_text (by decide)⟩ (by simp) fun _ _ => .done
    case first =>
      rintro _ ⟨⟩
      exact name (by decide)
    case second => exact ⟨nofun, nofun, fun _ _ => by decide⟩
  refine .opens fun other => ?_
  refine .calls (List.mem_cons_self ..) ?otherTable (by simp) fun _ _ => ?_
  case otherTable => exact List.forall_mem_singleton.2 (.name (name (by decide)))
  refine .calls (List.mem_cons_of_mem _ (List.mem_cons_self ..)) ⟨?column, ?rows⟩ (by simp)
    fun _ _ => ?_
  case column =>
    rintro _ ⟨⟩ _ ⟨⟩
    exact name (by decide)
  case rows =>
    rintro _ ⟨⟩
    exact ⟨.query, List.mem_cons_self ..⟩
  refine .calls (List.mem_cons_of_mem _ (List.mem_cons_self ..)) ⟨?source, nofun⟩ (by simp)
    fun made hmade => ?_
  case source =>
    rintro _ ⟨⟩
    exact ⟨other, .query, .query, rfl, List.mem_cons_self ..⟩
  split
  · rename_i sql bindings
    have hraw := hmade _ rfl _ rfl sql bindings rfl
    refine .calls (List.mem_cons_of_mem _ (List.mem_cons_self ..)) ?field (by simp) fun _ _ => .done
    case field => exact List.forall_mem_singleton.2 (.name (.raw hraw))
  · exact .done

theorem fluent_queries_match_of_nested :
    let conn : Connection := .prefixing (.text "p_")
    let start : Session := { connections := #[conn] }
    let r : Reaction := fun _ _ => pure ()
    let s := (runIn r nestedProgram start).2
    let asked (op : Operation) (payload : List Value) :=
      (runIn r (compileAs 0 (.ok op) payload) s).1
    let row : Value := .map [(.text "a", .text "?")]
    start.connections[0]? = some conn ∧ start.builders = #[] ∧
      (∀ p, start.prefixOf conn = .ok p → p.Worded) ∧ Fluent 0 [] nestedProgram ∧
      RequestGiven .update [row] ∧ (s.targetName? 0).isSome = true ∧
      (∃ q, asked .select [] = .ok q ∧ q.Matches) ∧
      ∃ q, asked .update [row] = .ok q ∧ q.Matches := by
  intro conn start r s asked row
  have hconn : start.connections[0]? = some conn := rfl
  have hworded (p : Value) (h : start.prefixOf conn = .ok p) : p.Worded := by
    cases h
    exact worded_text (by decide)
  have hrow : RequestGiven .update [row] := by
    refine .row (by decide) fun entries hentries e he => ?_
    cases hentries
    cases List.mem_singleton.1 he
    exact ⟨⟨rfl, by decide⟩, nofun⟩
  have htarget : (s.targetName? 0).isSome = true := by decide +kernel
  have written (y : Result CompiledQuery) (hok : y.isOk = true) : ∃ q, y = .ok q := by
    cases y with
    | ok q => exact ⟨q, rfl⟩
    | error f => cases hok
  obtain ⟨select, hselect⟩ := written (asked .select []) (by decide +kernel)
  obtain ⟨update, hupdate⟩ := written (asked .update [row]) (by decide +kernel)
  exact ⟨hconn, rfl, hworded, fluent_nestedProgram, hrow, htarget,
    ⟨select, hselect, fluent_queries_match r hconn rfl hworded fluent_nestedProgram .select
      (fun hop => absurd rfl hop) hselect⟩,
    ⟨update, hupdate, fluent_queries_match r hconn rfl hworded fluent_nestedProgram hrow
      (fun _ => htarget) hupdate⟩⟩

end SqlBuilder
