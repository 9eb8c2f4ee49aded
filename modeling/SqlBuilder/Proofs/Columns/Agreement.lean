import SqlBuilder.Proofs.Columns.Notions
import SqlBuilder.Proofs.Fetching.Shapes

/-!
# Selecting columns and aggregates over them

Calls of `select` leave the columns that were selected, all of them unless the builder overwrites
(`runIn_selects`). An aggregate over a field is refused, or it comes to issue its query (`Accepts`).

`columns_agree_iff`: after any such calls, the names in the text of the select, the keys of the
output columns and the fields that aggregates accept are the same exactly if every reference is
nothing but the name of a column and no alias of a raw fragment stands alone.
-/

set_option autoImplicit false

namespace SqlBuilder

open Session Builder Grammar

/-! ## Calls -/

/-- An argument of a call that selects columns. -/
inductive ColumnArgument where
  | named (ref : Reference)
  | aliased (entries : List (Expression × SimpleName))

namespace ColumnArgument

/-- The argument itself. -/
def value : ColumnArgument → Value
  | named ref => .text ref.text
  | aliased entries => .map (entries.map fun e => (e.1.value, .text e.2.text))

/-- What the argument selects. -/
def columns : ColumnArgument → List OutputColumn
  | named ref => [.named ref]
  | aliased entries => entries.map fun e => .aliased e.1 e.2

end ColumnArgument

namespace OutputColumn

/-- What is selected after one more call. -/
def next (overwrite : Bool) (now : List OutputColumn) (args : List ColumnArgument) :
    List OutputColumn :=
  if overwrite then args.flatMap ColumnArgument.columns
  else now ++ args.flatMap ColumnArgument.columns

/-- What is selected after calls. -/
def after (overwrite : Bool) (calls : List (List ColumnArgument)) : List OutputColumn :=
  calls.foldl (next overwrite) []

end OutputColumn

section Calls

variable {r : Reaction} {s : Session} {b c : Nat} {x : Builder} {conn : Connection}
  {st : Statements} {t : String} {now : List OutputColumn}

theorem runIn_addPrefix_text (h : s.Open b c conn) (hprefixes : s.Prefixes conn t) (n : String) :
    runIn r (addPrefix b (.text n) true) s = (.ok (.text (fieldUnder t n)), s) := by
  obtain ⟨p, hp, hputs⟩ := hprefixes
  rw [runIn_addPrefix h, hp]
  exact congrArg (·, s) (Value.Puts.nameWith_fieldName hputs n)

theorem runIn_addPrefix_raw (h : s.Open b c conn) (hprefixes : s.Prefixes conn t) (sql : String)
    (bindings : List Value) (mixed : Bool) :
    runIn r (addPrefix b (.raw sql bindings) mixed) s = (.ok (.raw sql bindings), s) := by
  obtain ⟨p, hp, -⟩ := hprefixes
  rw [runIn_addPrefix h, hp]
  refine congrArg (·, s) ?_
  show prefixed p mixed (.raw sql bindings) = _
  unfold prefixed
  split <;> rfl

theorem runIn_collectField (h : s.Open b c conn) (hprefixes : s.Prefixes conn t)
    (arg : ColumnArgument) :
    runIn r (collectField b arg.value) s =
      (.ok (arg.columns.map (OutputColumn.value t)), s) := by
  cases arg with
  | named ref =>
    rw [ColumnArgument.value, collectField, runIn_bind_ok (runIn_addPrefix_text h hprefixes _)]
    · rfl
    all_goals nofun
  | aliased entries =>
    have hexpression (e : Expression) :
        runIn r (addPrefix b e.value true) s = (.ok (e.under t), s) := by
      cases e with
      | text n => exact runIn_addPrefix_text h hprefixes n
      | raw sql bindings => exact runIn_addPrefix_raw h hprefixes sql bindings true
    rw [ColumnArgument.value, collectField, ColumnArgument.columns]
    induction entries with
    | nil => rfl
    | cons e entries ih =>
      rw [List.map_cons, List.mapM_cons, bind_assoc, runIn_bind_ok (hexpression e.1), pure_bind,
        runIn_bind_ok ih]
      rfl

theorem runIn_collectFields (h : s.Open b c conn) (hprefixes : s.Prefixes conn t)
    (args : List ColumnArgument) :
    runIn r (collectFields b (args.map ColumnArgument.value)) s =
      (.ok ((args.flatMap ColumnArgument.columns).map (OutputColumn.value t)), s) := by
  induction args with
  | nil => rfl
  | cons arg args ih =>
    rw [List.map_cons, collectFields, runIn_bind_ok (runIn_collectField h hprefixes arg),
      runIn_bind_ok ih, List.flatMap_cons, List.map_append]
    rfl

/-- One call selects its columns behind those that are selected, or in their place. -/
theorem runIn_select_columns (h : Standing b x c conn st s) (hprefixes : s.Prefixes conn t)
    (hnow : st.selects = .null ∧ now = [] ∨ st.selects = .list (now.map (OutputColumn.value t)))
    (args : List ColumnArgument) :
    ∃ s', runIn r (select b (args.map ColumnArgument.value)) s = (.ok (), s') ∧
      s'.Prefixes conn t ∧
      Standing b x c conn { st with
        selects := .list ((OutputColumn.next x.overwrite.isTrue now args).map
          (OutputColumn.value t)) } s' := by
  have hselects : st.addSelects x.overwrite.isTrue
      ((args.flatMap ColumnArgument.columns).map (OutputColumn.value t)) = .ok { st with
        selects := .list ((OutputColumn.next x.overwrite.isTrue now args).map
          (OutputColumn.value t)) } := by
    rw [Statements.addSelects, Statements.selection, OutputColumn.next]
    cases x.overwrite.isTrue with
    | true => rfl
    | false =>
      obtain ⟨hnull, rfl⟩ | hlist := hnow
      · rw [hnull]
        rfl
      · rw [hlist]
        simp only [if_neg Bool.false_ne_true, List.map_append]
        rfl
  rw [select, runIn_bind_ok (runIn_collectFields h.opened hprefixes args),
    runIn_bind_ok (runIn_overwrites h.builder)]
  exact ⟨_, runIn_change h.builder h.statements hselects, hprefixes, h.edited fun _ => _⟩

/-- Calls select their columns, all of them unless the builder overwrites. -/
theorem runIn_selects (h : Standing b x c conn st s) (hprefixes : s.Prefixes conn t)
    (hnow : st.selects = .null ∧ now = [] ∨ st.selects = .list (now.map (OutputColumn.value t)))
    (call : List ColumnArgument) (calls : List (List ColumnArgument)) :
    ∃ s', runIn r (forM (call :: calls) fun args => select b (args.map ColumnArgument.value)) s =
        (.ok (), s') ∧
      s'.Prefixes conn t ∧
      Standing b x c conn { st with
        selects := .list (((call :: calls).foldl (OutputColumn.next x.overwrite.isTrue) now).map
          (OutputColumn.value t)) } s' := by
  induction calls generalizing s st now call with
  | nil =>
    obtain ⟨s', hrun, hprefixes', hstanding⟩ := runIn_select_columns (r := r) h hprefixes hnow call
    refine ⟨s', ?_, hprefixes', hstanding⟩
    rw [List.forM_cons, runIn_bind_ok hrun, List.forM_nil]
    rfl
  | cons next calls ih =>
    obtain ⟨s₁, hrun₁, hprefixes₁, h₁⟩ := runIn_select_columns (r := r) h hprefixes hnow call
    obtain ⟨s₂, hrun₂, hprefixes₂, h₂⟩ := ih h₁ hprefixes₁ (.inr rfl) next
    refine ⟨s₂, ?_, hprefixes₂, h₂⟩
    rw [List.forM_cons, runIn_bind_ok hrun₁, hrun₂]

end Calls

/-! ## Aggregates -/

/-- An aggregate over the field. -/
def Terminal.Aggregates (n : String) (t : Terminal) : Prop :=
  (∃ function, t = .aggregate function (.text n)) ∨ t = .count (.text n)

/-- Every aggregate over the field comes to issue its query. -/
def Accepts (r : Reaction) (b : Nat) (s : Session) (n : String) : Prop :=
  ∀ t : Terminal, t.Aggregates n → ∃ i u, runIn r (t.issue b) s = (.ok i, u)

section Aggregates

variable {r : Reaction} {s : Session} {b c : Nat} {x : Builder} {conn : Connection}
  {st : Statements} {t function n : String} {field : Value} {q : CompiledQuery} {f : Fault}
  {cols : List OutputColumn}

/-- A field that is not found is refused before anything else happens. -/
theorem runIn_aggregated_refused (h : Standing b x c conn st s)
    (hcheck : checkDeclared st field = .error f) :
    runIn r (aggregated b function field) s = (.error f, s) := by
  rw [aggregated, runIn_bind_ok (runIn_statementsOf h.builder h.statements), hcheck]
  rfl

/-- A field that is found is selected from the select of the builder. -/
theorem runIn_aggregated (function : String) (h : Standing b x c conn st s)
    (hprefixes : s.Prefixes conn t)
    (hq : conn.adapter.compile .select st [] = .ok q) (htables : st.hasTables = true)
    (hcheck : checkDeclared st field = .ok ()) :
    ∃ y st' u, runIn r (aggregated b function field) s = (.ok s.builders.size, u) ∧
      Standing s.builders.size y c conn st' u ∧
      ∃ q, conn.adapter.compile .select st' [] = .ok q := by
  let table := Value.raw ("(" ++ q.sql.toText ++ ")" ++ " AS " ++ "count") q.rawBindings
  let column := Value.raw (function ++ "(" ++ field.toText ++ ") AS field") []
  let tabled : Statements := { Statements.empty with tables := .list [table] }
  let outer : Statements := { tabled with selects := .list [column] }
  have hchecked : checkTables st = .ok () := if_pos htables
  have hfresh := h.fresh .query
  have hinner := h.grow (grown_withBuilder s c .query .empty)
  obtain ⟨journal, hcompiled⟩ :=
    runIn_compileAs (r := r) hinner.opened hinner.builder hinner.statements .select []
  rw [hq] at hcompiled
  let s₁ : Session := { s.withBuilder c .query .empty with journal }
  have houter : Standing s.builders.size { connection := some c, record := s.records.size } c conn
      .empty s₁ := ⟨hfresh.builder, hfresh.connected, hfresh.connection, hfresh.statements⟩
  have hsub : runIn r (subQuery b (.text "count")) (s.withBuilder c .query .empty) =
      (.ok table, s₁) := by
    rw [subQuery, compileSelect, runIn_bind_ok hcompiled]
    rfl
  have hcollect : runIn r ([table].mapM (collectTables s.builders.size)) s₁ =
      (.ok [[table]], s₁) := by
    rw [List.mapM_cons, collectTables, bind_assoc,
      runIn_bind_ok (runIn_addPrefix_raw houter.opened hprefixes _ _ _)]
    · rfl
    all_goals
      intro _ hmany
      exact Value.noConfusion hmany
  have hgiven : ¬ isNothing [table] = true := Bool.false_ne_true
  have hadded : Statements.empty.addTables [[table]].flatten = .ok tabled := rfl
  have hfrom := runIn_change (r := r) (f := (·.addTables [[table]].flatten)) houter.builder
    houter.statements hadded
  have htabled := houter.edited fun _ => tabled
  obtain ⟨p, hp, -⟩ := hprefixes
  have hk : (s.prefixOf conn >>= fun p => prefixed p true column) = .ok column := by
    rw [hp]
    show prefixed p true column = _
    unfold prefixed
    split <;> rfl
  have hselected : tabled.addSelects false [column] = .ok outer := rfl
  have hcolumn : column.isMany = false := rfl
  have hselect := runIn_select_single (r := r) htabled hcolumn hk hselected
  refine ⟨_, outer, _, ?_, htabled.edited fun _ => outer, ⟨_, rfl⟩⟩
  · rw [aggregated, runIn_bind_ok (runIn_statementsOf h.builder h.statements), hcheck,
      runIn_bind_ok (runIn_ofResult _ s), hchecked, runIn_bind_ok (runIn_ofResult _ s), newQuery,
      bind_assoc, runIn_bind_ok (runIn_connectionOf h.opened), runIn_bind_ok runIn_newBuilder,
      runIn_bind_ok hsub, fromTables, if_neg hgiven, bind_assoc, runIn_bind_ok hcollect,
      runIn_bind_ok hfrom, runIn_bind_ok hselect]
    rfl

theorem Terminal.Aggregates.issue_eq {op : Terminal} (h : op.Aggregates n) (b : Nat) :
    ∃ function, ∃ finish : op.Answer → Result Value, op.issue b =
      aggregated b function (.text n) >>= fun outer => issued outer .select [] finish := by
  obtain ⟨function, rfl⟩ | rfl := h
  · exact ⟨function, _, rfl⟩
  · exact ⟨"COUNT", _, rfl⟩

/-- Aggregates over what is declared come to issue their query. -/
theorem accepts_of_declared (h : Standing b x c conn st s) (hprefixes : s.Prefixes conn t)
    (hq : conn.adapter.compile .select st [] = .ok q) (htables : st.hasTables = true)
    (hcheck : checkDeclared st (.text n) = .ok ()) : Accepts r b s n := by
  intro op hop
  obtain ⟨function, finish, hissue⟩ := hop.issue_eq b
  obtain ⟨y, st', u, haggregated, hstanding, q', hq'⟩ :=
    runIn_aggregated (r := r) function h hprefixes hq htables hcheck
  obtain ⟨v, hissued⟩ := Terminal.runIn_issued (r := r) hstanding hq' finish
  exact ⟨_, v, by rw [hissue, runIn_bind_ok haggregated, hissued]⟩

/-- Aggregates over anything else are refused. -/
theorem refused_of_undeclared (h : Standing b x c conn st s)
    (hcheck : checkDeclared st (.text n) = .error f) {op : Terminal} (hop : op.Aggregates n) :
    runIn r (op.issue b) s = (.error f, s) ∧ runIn r (op.perform b) s = (.error f, s) := by
  obtain ⟨function, finish, hissue⟩ := hop.issue_eq b
  have hrefused : runIn r (op.issue b) s = (.error f, s) := by
    rw [hissue, runIn_bind, runIn_aggregated_refused h hcheck]
  refine ⟨hrefused, ?_⟩
  rw [op.perform_eq, runIn_bind, hrefused]

/-- The fields that aggregates accept are those that are declared. -/
theorem accepts_iff (h : Standing b x c conn st s) (hprefixes : s.Prefixes conn t)
    (hlists : st.Lists t cols) (hq : conn.adapter.compile .select st [] = .ok q)
    (htables : st.hasTables = true) (hn : n ≠ "*") :
    Accepts r b s n ↔ n ∈ declaredNames t cols := by
  have hcheck := checkDeclared_eq hlists hn
  constructor
  · intro haccepts
    by_contra hundeclared
    rw [if_neg hundeclared] at hcheck
    obtain ⟨i, u, hissue⟩ := haccepts (.count (.text n)) (.inr rfl)
    rw [(refused_of_undeclared h hcheck (.inr rfl)).1] at hissue
    cases hissue
  · intro hdeclared
    rw [if_pos hdeclared] at hcheck
    exact accepts_of_declared h hprefixes hq htables hcheck

/-- After calls that select columns, the texts of the columns stand in the text of the select, and
aggregates refuse a field they do not accept as one that is not found. The texts of the columns have
their names, unless the prefix has a dot. The names in the text, the keys of the output columns and
the fields that aggregates accept are the same exactly if every reference is nothing but the name of
a column and every alias of a raw fragment is also the name of another column. -/
theorem columns_agree_iff (h : Standing b x c conn st s) (hprefixes : s.Prefixes conn t)
    (hselects : st.selects = .null) (hdistincts : st.distincts = .null)
    (htables : st.hasTables = true) (call : List ColumnArgument)
    (calls : List (List ColumnArgument))
    (hcols : OutputColumn.after x.overwrite.isTrue (call :: calls) = cols)
    (hq : conn.adapter.compile .select
      { st with selects := .list (cols.map (OutputColumn.value t)) } [] = .ok q) :
    let selecting := { st with selects := .list (cols.map (OutputColumn.value t)) }
    ∃ s', runIn r (forM (call :: calls) fun args => select b (args.map ColumnArgument.value)) s =
        (.ok (), s') ∧
      Standing b x c conn selecting s' ∧
      (∃ items fs sql, Adapter.selectItems selecting = .ok items ∧
        items.mapM conn.adapter.columnItem = .ok fs ∧ q.sql = .text sql ∧
        (Text.strip (", ".intercalate (fs.map Fragment.sql))).toList <:+: sql.toList) ∧
      (∀ n ≠ "*", ¬ Accepts r b s' n → ∀ op : Terminal, op.Aggregates n →
        (runIn r (op.perform b) s').1 = .error (.validation
          (.columnNotFound (.text n) (.list ((declaredNames t cols).map .text))))) ∧
      ('.' ∉ t.toList → ∀ n ≠ "*",
        (Outputs conn.adapter selecting n ↔ ∃ col ∈ cols, col.name.text = n)) ∧
      ((∀ n ≠ "*", (Outputs conn.adapter selecting n ↔ HasKey selecting n) ∧
          (Outputs conn.adapter selecting n ↔ Accepts r b s' n)) ↔
        (∀ col ∈ cols, col.IsBare) ∧ RawsAccompanied cols) := by
  intro selecting
  obtain ⟨s', hrun, hprefixes', hstanding⟩ :=
    runIn_selects (r := r) h hprefixes (.inl ⟨hselects, rfl⟩) call calls
  rw [← OutputColumn.after, hcols] at hstanding
  have hlists : selecting.Lists t cols := ⟨rfl, hdistincts⟩
  have haccepts : ∀ n ≠ "*", Accepts r b s' n ↔ n ∈ declaredNames t cols :=
    fun n hn => accepts_iff hstanding hprefixes' hlists hq htables hn
  refine ⟨s', hrun, hstanding, columns_in_select hq, fun n hn hrefused op hop => ?_,
    fun hdot n hn => outputs_iff hlists (fun _ _ => .inl hdot) hn, ?_⟩
  · have hcheck := checkDeclared_eq hlists hn
    rw [if_neg ((haccepts n hn).not.1 hrefused)] at hcheck
    rw [(refused_of_undeclared hstanding hcheck hop).2]
  · rw [← names_agree_iff conn.adapter hlists]
    exact forall₂_congr fun n hn => by rw [haccepts n hn]

end Aggregates

/-! ## A column of a table -/

/-- A column, by its name in a table. -/
def postsTitle : Reference where
  table := some ⟨"posts", by decide, by decide, SimpleName.free_of_all (by cbv)⟩
  column := ⟨"title", by decide, by decide, SimpleName.free_of_all (by cbv)⟩
  name := none

/-- A session with a builder that selects from the table. -/
def posting : Session where
  connections := #[{
    driver := .ofScenario {}
    scenario := {}
    settings := {}
    adapter := { dialect := .mysql } }]
  builders := #[{ connection := some 0, record := 0 }]
  records := #[{ tables := .list [.text "posts"] }]
  first := some 0

/-- The text of the select names the column as it is called in its table, which is no field that
aggregates accept. -/
theorem columns_agree_iff_of_posts :
    let selecting : Statements :=
      { selects := .list [.text "posts.title"], tables := .list [.text "posts"] }
    ∃ s', runIn idle (forM [[ColumnArgument.named postsTitle]] fun args =>
          select 0 (args.map ColumnArgument.value)) posting = (.ok (), s') ∧
      Outputs { dialect := .mysql } selecting "title" ∧
      ¬ ((∀ n ≠ "*", (Outputs { dialect := .mysql } selecting n ↔ HasKey selecting n) ∧
        (Outputs { dialect := .mysql } selecting n ↔ Accepts idle 0 s' n))) := by
  have hprefixes : posting.Prefixes posting.connections[0] "" := ⟨.null, rfl, .inr ⟨rfl, rfl⟩⟩
  have htitle : (OutputColumn.named postsTitle).name.text = "title" := rfl
  have hcompiled : ∃ q, posting.connections[0].adapter.compile .select
      { selects := .list [.text "posts.title"], tables := .list [.text "posts"] } [] = .ok q :=
    ⟨_, rfl⟩
  obtain ⟨q, hq⟩ := hcompiled
  obtain ⟨s', hrun, -, -, -, houtputs, hagree⟩ := @columns_agree_iff idle posting 0 0 _ _
    { tables := .list [.text "posts"] } "" q [.named postsTitle] ⟨rfl, rfl, rfl, rfl⟩ hprefixes
    rfl rfl rfl [.named postsTitle] [] rfl hq
  refine ⟨s', hrun, (houtputs (by decide) "title" (by decide)).2
    ⟨_, List.mem_singleton.2 rfl, htitle⟩, fun hall => ?_⟩
  have hbare := (hagree.1 hall).1 _ (List.mem_singleton.2 rfl)
  cases hbare.1

end SqlBuilder
