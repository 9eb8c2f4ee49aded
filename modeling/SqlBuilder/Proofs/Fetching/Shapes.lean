import SqlBuilder.Program.Call
import SqlBuilder.Proofs.Fetching.Answers
import SqlBuilder.Proofs.Fetching.Keys
import SqlBuilder.Proofs.Grammar.Building

/-!
# Fetches agree

All rows, the first row and whether there is one are asked for in different ways: each resolves its
own shape and calls its own method of the driver. `fetches_agree`: of the same rows they tell the
same. The exception is a connection whose default shape is that of objects by their first value,
which settings may choose: there a single row cannot be asked for without naming its shape.
-/

set_option autoImplicit false

namespace SqlBuilder

open Session Builder Grammar

/-! ## Shapes -/

/-- The shape that is asked for, or the default one. -/
def Settings.shape (settings : Settings) (output : Value) (allowed : List OutputShape) :
    Result OutputShape :=
  match output with
  | .null => defaultShape settings allowed
  | output => checkShape (OutputShape.ofValue? output) output.toText allowed

/-- A row with names in a shape. -/
def Builder.rowAs (shape : OutputShape) (row : Row) : Value :=
  match shape with
  | .namedArray => .map row
  | .plainArray => .tuple (row.map Prod.snd)
  | .object | .keyedObject => .record .row row

theorem shapedRow_eq {row : Row} (h : IsNamed row) (shape : OutputShape) :
    shapedRow shape row = .ok (rowAs shape row) := by
  cases shape <;> first | rfl | exact asRecord_of_isNamed h

theorem mapM_shapedRow {rows : List Row} (h : ∀ row ∈ rows, IsNamed row) (shape : OutputShape) :
    rows.mapM (shapedRow shape) = .ok (rows.map (rowAs shape)) := by
  induction rows with
  | nil => rfl
  | cons row rows ih =>
    obtain ⟨hrow, hrows⟩ := List.forall_mem_cons.1 h
    rw [List.mapM_cons, shapedRow_eq hrow, ih hrows]
    rfl

theorem isNull_rowAs (shape : OutputShape) (row : Row) : (rowAs shape row).isNull = false := by
  cases shape <;> rfl

theorem isNull_iff (v : Value) : v = .null ↔ v.isNull = true := by
  cases v <;> simp [Value.isNull]

/-- The first of the rows in a shape is null if there is none. -/
theorem isNull_headD_rowAs (shape : OutputShape) (rows : List Row) :
    ((rows.map (rowAs shape)).headD .null).isNull = rows.isEmpty := by
  cases rows with
  | nil => rfl
  | cons row rows => exact isNull_rowAs shape row

/-- Rows in a shape of single rows. -/
theorem shapedRows_eq {rows : List Row} (h : ∀ row ∈ rows, IsNamed row) {shape : OutputShape}
    (hshape : shape ∈ rowShapes) :
    shapedRows shape rows = .ok (.list (rows.map (rowAs shape))) := by
  cases shape with
  | keyedObject => simp [rowShapes] at hshape
  | _ =>
    rw [shapedRows, mapM_shapedRow h]
    · rfl
    · intro hkeyed
      cases hkeyed

/-- Rows by their first value, if each can be a key. -/
theorem shapedRows_keyed {rows : List Row} (h : ∀ row ∈ rows, IsNamed row) :
    shapedRows .keyedObject rows =
      if rows.all fun row => (Driver.firstValue row).isKey then
        .ok (.map ((firstRows [] rows).map keyedRow))
      else misuse .wrongType := by
  rw [shapedRows]
  split
  · rename_i hkeys
    rw [keyedRows_eq h (List.all_eq_true.1 hkeys)]
    rfl
  · rename_i hkeys
    rw [keyedRows_of_not_isKey h fun hall => hkeys (List.all_eq_true.2 hall)]
    rfl

section Fetches

variable {r : Reaction} {s : Session} {b c : Nat} {x : Builder} {conn : Connection}
  {st : Statements} {q : CompiledQuery} {rows : List Row} {output : Value} {shape : OutputShape}

theorem runIn_shapeOf (h : s.Open b c conn) (output : Value) (allowed : List OutputShape) :
    runIn r (shapeOf b output allowed) s = (conn.settings.shape output allowed, s) := by
  have hconn : s.connections[c]? = some conn := h.choose_spec.2.2
  by_cases hnull : output = .null
  · subst hnull
    rw [shapeOf, runIn_bind_ok (runIn_connectionOf h), runIn_bind_ok (runIn_connection hconn)]
    exact runIn_ofResult _ s
  · rw [shapeOf.eq_2 _ _ _ hnull, Settings.shape.eq_2 _ _ _ hnull]
    exact runIn_ofResult _ s

theorem shape_name (settings : Settings) (shape : OutputShape) {allowed : List OutputShape}
    (h : allowed.contains shape = true) :
    settings.shape (.text shape.name) allowed = .ok shape := by
  have hshape : OutputShape.ofValue? (.text shape.name) = some shape := by cases shape <;> rfl
  show checkShape (OutputShape.ofValue? (.text shape.name)) _ allowed = _
  rw [hshape, checkShape, Option.filter_some, if_pos h]

/-! ## Rows -/

namespace Terminal

/-- All rows or the first one, in some shape. -/
def Fetches (t : Terminal) : Prop := ∃ output, t = .get output ∨ t = .row output

theorem runIn_issued {α : Type} (h : Standing b x c conn st s)
    (hq : conn.adapter.compile .select st [] = .ok q) (finish : α → Result Value) :
    ∃ u, runIn r (issued b .select [] finish) s = (.ok ⟨b, q, finish⟩, u) := by
  obtain ⟨journal, hcompiled⟩ :=
    runIn_compileAs (r := r) h.opened h.builder h.statements .select []
  rw [issued, runIn_bind, hcompiled, hq]
  exact ⟨_, rfl⟩

/-- All rows come in the shape that is asked for. -/
theorem get_returns (h : Standing b x c conn st s)
    (hq : conn.adapter.compile .select st [] = .ok q)
    (hshape : conn.settings.shape output OutputShape.all = .ok shape)
    (hcourteous : ∀ i c u, (get output).Begins r b s i c u → (get output).Courteous r i c u)
    (hrows : (get output).Answered r b s rows) :
    (runIn r (Builder.get b output) s).1 = shapedRows shape rows := by
  obtain ⟨u, hissued⟩ := runIn_issued (r := r) h hq (shapedRows shape)
  have hissue : runIn r ((get output).issue b) s = (.ok ⟨b, q, shapedRows shape⟩, u) := by
    have hfound := runIn_shapeOf (r := r) h.opened output OutputShape.all
    rw [hshape] at hfound
    rw [issue, runIn_bind_ok hfound, hissued]
  exact (get output).returns id (fun q => (bind_pure _).symm) hissue hcourteous hrows

/-- The first row comes in the shape that is asked for. -/
theorem row_returns (h : Standing b x c conn st s)
    (hq : conn.adapter.compile .select st [] = .ok q)
    (hshape : conn.settings.shape output rowShapes = .ok shape)
    (hcourteous : ∀ i c u, (row output).Begins r b s i c u → (row output).Courteous r i c u)
    (hrows : (row output).Answered r b s rows) (hnamed : ∀ row ∈ rows, IsNamed row) :
    (runIn r (Builder.row b output) s).1 = .ok ((rows.map (rowAs shape)).headD .null) := by
  let finish (row? : Option Row) : Result Value := do
    pure ((← row?.mapM (shapedRow shape)).getD .null)
  obtain ⟨u, hissued⟩ := runIn_issued (r := r) h hq finish
  have hissue : runIn r ((row output).issue b) s = (.ok ⟨b, q, finish⟩, u) := by
    have hfound := runIn_shapeOf (r := r) h.opened output rowShapes
    rw [hshape] at hfound
    rw [issue, runIn_bind_ok hfound, hissued]
  refine ((row output).returns List.head? (fun q => rfl) hissue hcourteous
    hrows).trans ?_
  cases rows with
  | nil => rfl
  | cons row rows =>
    have hrow := shapedRow_eq (hnamed row List.mem_cons_self) shape
    simp only [finish, List.head?_cons, Option.mapM_some, hrow]
    rfl

end Terminal

/-! ## Whether there is one -/

theorem outcome_map {α β : Type} (act : Action α) (f : α → β) :
    (runIn r (do pure (f (← act))) s).1 = (runIn r act s).1.map f := by
  rw [runIn_bind]
  generalize runIn r act s = p
  obtain ⟨_ | _, _⟩ := p <;> rfl

/-- A row is never null. -/
theorem isNull_of_row? {v : Value} (h : (runIn r (row? b output) s).1 = .ok (some v)) :
    v.isNull = false := by
  have hrun : runIn r (row? b output) s = (.ok (some v), (runIn r (row? b output) s).2) :=
    Prod.ext h rfl
  obtain ⟨shape, _, -, hrun⟩ := runIn_bind_inv hrun
  obtain ⟨found, _, -, hrun⟩ := runIn_bind_inv hrun
  rw [runIn_ofResult] at hrun
  cases found with
  | none => cases hrun
  | some row =>
    have hshaped : (some row).mapM (shapedRow shape) = .ok (some v) := (Prod.mk.inj hrun).1
    rw [Option.mapM_some] at hshaped
    obtain ⟨w, hw, hshaped⟩ := bind_ok hshaped
    cases hshaped
    cases shape with
    | namedArray | plainArray =>
      cases hw
      rfl
    | object | keyedObject =>
      replace hw : asRecord row = .ok v := hw
      unfold asRecord at hw
      split at hw <;> cases hw
      rfl

/-- Whether there is a row is told by the first row. -/
theorem exists_eq_of_row {y : Result Value} (h : (runIn r (Builder.row b .null) s).1 = y)
    (negated : Bool) :
    (runIn r (Call.result b [] (.rowExists negated)) s).1 =
      y.map fun v => .bool ((!v.isNull) != negated) := by
  have hrow : (runIn r (Builder.row b .null) s).1 =
      (runIn r (row? b .null) s).1.map (·.getD .null) := outcome_map _ _
  have hexists : (runIn r (Call.result b [] (.rowExists negated)) s).1 =
      (runIn r (exists? b) s).1.map fun found => .bool (found != negated) := outcome_map _ _
  have hfound : (runIn r (exists? b) s).1 = (runIn r (row? b .null) s).1.map Option.isSome :=
    outcome_map _ _
  rw [hexists, hfound, ← h, hrow]
  cases hoption : (runIn r (row? b .null) s).1 with
  | error f => rfl
  | ok o =>
    cases o with
    | none => rfl
    | some v =>
      have hnull := isNull_of_row? hoption
      simp [Except.map, hnull]

/-- A shape that a single row cannot have is refused. -/
theorem row_refused (h : Standing b x c conn st s) {f : Fault}
    (hshape : conn.settings.shape output rowShapes = .error f) :
    (runIn r (Builder.row b output) s).1 = .error f := by
  have hfound := runIn_shapeOf (r := r) h.opened output rowShapes
  rw [hshape] at hfound
  rw [Builder.row, outcome_map, row?, runIn_bind, hfound]
  rfl

/-! ## All of them -/

/-- Fetches of the same rows agree: the first row is the first of all rows in each shape of a single
row, null if there is none, and whether there is one is told alike. Rows by their first value are
those that no row with that value comes before. Without a shape given, a single row is refused
exactly if the settings choose that shape. -/
theorem fetches_agree (h : Standing b x c conn st s)
    (hq : conn.adapter.compile .select st [] = .ok q) (hnamed : ∀ row ∈ rows, IsNamed row)
    (hcourteous : ∀ t : Terminal, t.Fetches → ∀ i c u, t.Begins r b s i c u → t.Courteous r i c u)
    (hrows : ∀ t : Terminal, t.Fetches → t.Answered r b s rows) :
    (conn.settings.defaultOutput ≠ .keyedObject → ∃ v,
      (runIn r (Builder.row b .null) s).1 = .ok v ∧ (v = .null ↔ rows = []) ∧
      ∀ negated, (runIn r (Call.result b [] (.rowExists negated)) s).1 =
        .ok (.bool ((!rows.isEmpty) != negated))) ∧
    (conn.settings.defaultOutput = .keyedObject →
      let refused := Fault.validation
        (.invalidOutput "OutputType.OBJECT_K" ["OBJECT", "ARRAY_A", "ARRAY_N"])
      (runIn r (Builder.row b .null) s).1 = .error refused ∧
      ∀ negated, (runIn r (Call.result b [] (.rowExists negated)) s).1 = .error refused) ∧
    (∀ shape ∈ rowShapes,
      (runIn r (get b (.text shape.name)) s).1 = .ok (.list (rows.map (rowAs shape))) ∧
      (runIn r (Builder.row b (.text shape.name)) s).1 =
        .ok ((rows.map (rowAs shape)).headD .null)) ∧
    (runIn r (get b (.text "OBJECT_K")) s).1 =
      if rows.all fun row => (Driver.firstValue row).isKey then
        .ok (.map ((firstRows [] rows).map keyedRow))
      else misuse .wrongType := by
  have hget {output : Value} {shape : OutputShape}
      (hshape : conn.settings.shape output OutputShape.all = .ok shape) :
      (runIn r (get b output) s).1 = shapedRows shape rows :=
    Terminal.get_returns h hq hshape (hcourteous _ ⟨_, .inl rfl⟩) (hrows _ ⟨_, .inl rfl⟩)
  have hrow {output : Value} {shape : OutputShape}
      (hshape : conn.settings.shape output rowShapes = .ok shape) :
      (runIn r (Builder.row b output) s).1 = .ok ((rows.map (rowAs shape)).headD .null) :=
    Terminal.row_returns h hq hshape (hcourteous _ ⟨_, .inr rfl⟩) (hrows _ ⟨_, .inr rfl⟩) hnamed
  refine ⟨fun hdefault => ?_, fun hdefault => ?_, fun shape hshape => ⟨?_, ?_⟩, ?_⟩
  · have hshape : conn.settings.shape .null rowShapes = .ok conn.settings.defaultOutput := by
      show checkShape _ _ _ = _
      revert hdefault
      generalize conn.settings.defaultOutput = shape
      cases shape <;> first | exact fun _ => rfl | exact fun hne => absurd rfl hne
    refine ⟨_, hrow hshape, ?_, fun negated => ?_⟩
    · have hnull := isNull_headD_rowAs conn.settings.defaultOutput rows
      rw [isNull_iff, hnull, List.isEmpty_iff]
    · rw [exists_eq_of_row (hrow hshape), Except.map, isNull_headD_rowAs]
  · have hshape : conn.settings.shape .null rowShapes = .error (.validation
        (.invalidOutput "OutputType.OBJECT_K" ["OBJECT", "ARRAY_A", "ARRAY_N"])) := by
      show checkShape (some conn.settings.defaultOutput) _ _ = _
      rw [hdefault]
      rfl
    have hrefused := row_refused (r := r) h hshape
    refine ⟨hrefused, fun negated => ?_⟩
    rw [exists_eq_of_row hrefused]
    rfl
  · have hall : OutputShape.all.contains shape = true := by cases shape <;> rfl
    rw [hget (shape_name _ _ hall), shapedRows_eq hnamed hshape]
  · exact hrow (shape_name _ _ (List.contains_iff_mem.2 hshape))
  · exact (hget (shape_name _ .keyedObject rfl)).trans (shapedRows_keyed hnamed)

end Fetches

/-! ## Settings that choose rows by their first value -/

/-- The settings in which only the default shape is chosen. -/
def keyedSettings : Settings := { defaultOutput := .keyedObject }

/-- Three rows, two of which have the same first value. -/
def countedRows : List Row := [
  [(.text "id", .int 1), (.text "n", .text "a")],
  [(.text "id", .bool true), (.text "n", .text "b")],
  [(.text "id", .int 2), (.text "n", .text "c")]]

/-- A session with a builder on a connection of these settings. -/
def counting : Session where
  connections := #[{
    driver := .ofScenario { rows := countedRows }
    scenario := {}
    settings := keyedSettings
    adapter := { dialect := .mysql } }]
  builders := #[{ connection := some 0, record := 0 }]
  records := #[{ tables := .list [.text "t"] }]
  first := some 0

/-- The query of its builder. -/
def selectCounted : CompiledQuery where
  sql := .text "SELECT * FROM t"
  bindings := .positional []
  adapter := some { dialect := .mysql }

theorem counting_unheard : counting.Unheard := .of_single rfl rfl

theorem answered_counting {t : Terminal} (ht : t.Fetches) :
    t.Answered idle 0 counting countedRows := by
  intro i c u v hbegins hheard
  obtain ⟨w, hrun, -, hon, rfl⟩ := hbegins
  have hopen : counting.Open 0 0 counting.connections[0] := ⟨_, rfl, rfl, rfl⟩
  have hissued {α : Type} (finish : α → Result Value) :
      runIn idle (issued 0 .select [] finish) counting = (.ok ⟨0, selectCounted, finish⟩,
        { counting with journal := [.logged .debug "fluentql.compile.base"
          "Compiled select for mysql: SELECT * FROM t"] }) := by
    cbv
  obtain ⟨output, rfl | rfl⟩ := ht
  all_goals
    obtain ⟨shape, s, hshape, hrun⟩ := runIn_bind_inv hrun
    rw [runIn_shapeOf hopen] at hshape
    cases (Prod.mk.inj hshape).2
    cases (hissued _).symm.trans hrun
    obtain ⟨_, _, hx, hc, -⟩ := hon
    cases hx
    cases hc
    cases hheard
    rw [runIn_onDriver rfl]
    rfl

theorem fetches_agree_of_counting :
    Settings.read [("default_output", .text "OBJECT_K")] = .ok keyedSettings ∧
      (runIn idle (Call.result 0 [] (.rowExists false)) counting).1 = .error (.validation
        (.invalidOutput "OutputType.OBJECT_K" ["OBJECT", "ARRAY_A", "ARRAY_N"])) ∧
      (runIn idle (get 0 (.text "OBJECT_K")) counting).1 = .ok (.map [
        (.int 1, .record .row [(.text "id", .int 1), (.text "n", .text "a")]),
        (.int 2, .record .row [(.text "id", .int 2), (.text "n", .text "c")])]) := by
  have hnamed : ∀ row ∈ countedRows, IsNamed row := by
    have hall : countedRows.all (·.all (·.1.isText)) = true := rfl
    exact fun row hrow => List.all_eq_true.1 (List.all_eq_true.1 hall row hrow)
  obtain ⟨-, hrefused, -, hkeyed⟩ := @fetches_agree idle counting 0 0 _ _ _ selectCounted
    countedRows ⟨rfl, rfl, rfl, rfl⟩ (by cbv) hnamed
    (fun t _ => Terminal.courteous_of_unheard counting_unheard) (fun t => answered_counting)
  refine ⟨rfl, (hrefused rfl).2 false, hkeyed.trans ?_⟩
  cbv

end SqlBuilder
