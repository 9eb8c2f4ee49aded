import SqlBuilder.Proofs.Fetching.Shapes
import SqlBuilder.Proofs.Transaction.Driving

/-!
# Columns of one name

A cursor gives rows as lists of values, with the names of the columns beside them. On the way to
those who asked, each row is a map from the names to the values. `columns_arrive`: of the values of
a row arrives one for each name, in the place of the first column of that name and with the value of
the last. So all values arrive in their order exactly if no name stands for two columns.
-/

set_option autoImplicit false

namespace SqlBuilder

open Session Builder Grammar

/-! ## Maps from pairs -/

namespace Value

/-- No name stands for two columns. -/
def Distinct (names : List Value) : Prop := names.Pairwise fun m n => m.same n = false

/-- The value of the last pair with the name, and `v` if there is none. -/
def lastOf (name v : Value) (pairs : List (Value × Value)) : Value :=
  pairs.foldl (fun v (n, w) => if name.same n then w else v) v

/-- One pair for each name, where it comes first and with the value it has last. Those of the names
`seen` are left out. -/
def onePerName (seen : List Value) : List (Value × Value) → List (Value × Value)
  | [] => []
  | (name, v) :: pairs =>
    if seen.any (·.same name) then onePerName seen pairs
    else (name, lastOf name v pairs) :: onePerName (seen ++ [name]) pairs

/-- A value under a key replaces that of the entry with the same key, or is put at the end. -/
theorem insert_eq {entries : List (Value × Value)} {key v : Value}
    (hkeys : ∀ entry ∈ entries, entry.1.isKey = true)
    (hdistinct : Distinct (entries.map Prod.fst)) :
    insert entries key v =
      if entries.any (·.1.same key) then
        entries.map fun (k, w) => (k, if k.same key then v else w)
      else entries ++ [(key, v)] := by
  induction entries with
  | nil => rfl
  | cons entry entries ih =>
    obtain ⟨k, w⟩ := entry
    obtain ⟨hk, hkeys⟩ := List.forall_mem_cons.1 hkeys
    rw [Distinct, List.map_cons, List.pairwise_cons] at hdistinct
    rw [insert, ih hkeys hdistinct.2]
    cases hsame : k.same key with
    | true =>
      -- No other entry has this key, since it would be the same as `k`.
      have hother : ∀ entry ∈ entries, entry.1.same key = false := by
        intro entry hentry
        refine Bool.eq_false_iff.2 fun h => ?_
        have hback := same_trans hk hsame (same_symm (hkeys entry hentry) h)
        rw [hdistinct.1 _ (List.mem_map_of_mem hentry)] at hback
        cases hback
      have hrest : entries.map (fun (k, w) => (k, if k.same key then v else w)) = entries := by
        conv_rhs => rw [← List.map_id entries]
        refine List.map_congr_left fun entry hentry => ?_
        simp [hother entry hentry]
      simp [hsame, hrest]
    | false =>
      rw [List.any_cons, hsame, Bool.false_or]
      cases entries.any (·.1.same key) <;> simp [hsame]

theorem foldl_insert {pairs entries : List (Value × Value)}
    (hpairs : ∀ pair ∈ pairs, pair.1.isKey = true)
    (hkeys : ∀ entry ∈ entries, entry.1.isKey = true)
    (hdistinct : Distinct (entries.map Prod.fst)) :
    pairs.foldl (fun entries (k, v) => insert entries k v) entries =
      entries.map (fun (k, w) => (k, lastOf k w pairs)) ++
        onePerName (entries.map Prod.fst) pairs := by
  induction pairs generalizing entries with
  | nil => simp [lastOf, onePerName]
  | cons pair pairs ih =>
    obtain ⟨name, v⟩ := pair
    obtain ⟨hname, hpairs⟩ := List.forall_mem_cons.1 hpairs
    have hany : (entries.map Prod.fst).any (·.same name) = entries.any (·.1.same name) := by
      rw [List.any_map]
      rfl
    rw [List.foldl_cons, onePerName, hany]
    dsimp only
    rw [insert_eq hkeys hdistinct]
    split
    · have hnames : (entries.map fun (k, w) => (k, if k.same name then v else w)).map Prod.fst =
          entries.map Prod.fst := by
        rw [List.map_map]
        rfl
      rw [ih hpairs ?_ (hnames ▸ hdistinct), hnames, List.map_map]
      · rfl
      · intro entry hentry
        obtain ⟨old, hmem, rfl⟩ := List.mem_map.1 hentry
        exact hkeys old hmem
    · rename_i hfresh
      have hfresh : ∀ entry ∈ entries, entry.1.same name = false := by simpa using hfresh
      rw [ih hpairs, List.map_append, List.map_append, List.append_assoc]
      · congr 1
        refine List.map_congr_left fun entry hentry => ?_
        simp [lastOf, hfresh entry hentry]
      · exact List.forall_mem_append.2 ⟨hkeys, by simpa using hname⟩
      · rw [Distinct, List.map_append, List.pairwise_append]
        refine ⟨hdistinct, List.pairwise_singleton _ _, ?_⟩
        simpa using hfresh

/-- A map from pairs has one entry for each key. -/
theorem ofPairs_eq {pairs : List (Value × Value)} (h : ∀ pair ∈ pairs, pair.1.isKey = true) :
    ofPairs pairs = onePerName [] pairs :=
  foldl_insert h (by simp) List.Pairwise.nil

theorem length_onePerName_le (seen : List Value) (pairs : List (Value × Value)) :
    (onePerName seen pairs).length ≤ pairs.length := by
  induction pairs generalizing seen with
  | nil => exact Nat.le_refl 0
  | cons pair pairs ih =>
    rw [onePerName]
    split
    · exact Nat.le_succ_of_le (ih seen)
    · exact Nat.succ_le_succ (ih _)

/-- If nothing is left out, all names differ. -/
theorem distinct_of_length {seen : List Value} {pairs : List (Value × Value)}
    (h : (onePerName seen pairs).length = pairs.length) :
    (∀ m ∈ seen, ∀ pair ∈ pairs, m.same pair.1 = false) ∧ Distinct (pairs.map Prod.fst) := by
  induction pairs generalizing seen with
  | nil => exact ⟨fun _ _ _ hmem => absurd hmem List.not_mem_nil, List.Pairwise.nil⟩
  | cons pair pairs ih =>
    rw [onePerName] at h
    split at h
    · have hle := length_onePerName_le seen pairs
      rw [List.length_cons] at h
      omega
    · rename_i hfresh
      obtain ⟨hseen, hdistinct⟩ := ih (Nat.succ.inj h)
      have hfresh : ∀ m ∈ seen, m.same pair.1 = false := by simpa using hfresh
      refine ⟨fun m hm => List.forall_mem_cons.2 ⟨hfresh m hm, fun other hother =>
        hseen m (List.mem_append_left _ hm) other hother⟩, ?_⟩
      rw [Distinct, List.map_cons, List.pairwise_cons]
      refine ⟨fun n hn => ?_, hdistinct⟩
      obtain ⟨other, hother, rfl⟩ := List.mem_map.1 hn
      exact hseen pair.1 (by simp) other hother

theorem lastOf_eq {name v : Value} {pairs : List (Value × Value)}
    (h : ∀ pair ∈ pairs, name.same pair.1 = false) : lastOf name v pairs = v := by
  induction pairs with
  | nil => rfl
  | cons pair pairs ih =>
    obtain ⟨hpair, hpairs⟩ := List.forall_mem_cons.1 h
    show lastOf name (if name.same pair.1 then pair.2 else v) pairs = v
    rw [hpair]
    exact ih hpairs

/-- If all names differ, nothing changes. -/
theorem onePerName_of_distinct {seen : List Value} {pairs : List (Value × Value)}
    (hseen : ∀ m ∈ seen, ∀ pair ∈ pairs, m.same pair.1 = false)
    (hdistinct : Distinct (pairs.map Prod.fst)) : onePerName seen pairs = pairs := by
  induction pairs generalizing seen with
  | nil => rfl
  | cons pair pairs ih =>
    rw [Distinct, List.map_cons, List.pairwise_cons] at hdistinct
    have hpair : ∀ other ∈ pairs, pair.1.same other.1 = false :=
      fun other hother => hdistinct.1 _ (List.mem_map_of_mem hother)
    have hfresh : ¬ seen.any (·.same pair.1) = true := by
      simpa using fun m hm => hseen m hm pair List.mem_cons_self
    rw [onePerName, if_neg hfresh, lastOf_eq hpair, ih ?_ hdistinct.2]
    refine List.forall_mem_append.2 ⟨fun m hm other hother =>
      hseen m hm other (List.mem_cons_of_mem _ hother), ?_⟩
    simpa using fun name v hmem => hpair (name, v) hmem

/-- The values of a row that arrive. -/
def kept (names row : List Value) : List Value := (onePerName [] (names.zip row)).map Prod.snd

/-- All values arrive in their order exactly if no name stands for two columns. -/
theorem kept_eq_iff (names : List Value) :
    (∀ row, row.length = names.length → kept names row = row) ↔ Distinct names := by
  refine ⟨fun h => ?_, fun h row hrow => ?_⟩
  · have hkept := congrArg List.length (h names rfl)
    rw [kept, List.length_map] at hkept
    have hlength : (onePerName [] (names.zip names)).length = (names.zip names).length := by
      rw [hkept, List.length_zip, Nat.min_self]
    have hdistinct := (distinct_of_length hlength).2
    rwa [List.map_fst_zip (Nat.le_refl _)] at hdistinct
  · have hnames : (names.zip row).map Prod.fst = names := List.map_fst_zip (Nat.le_of_eq hrow.symm)
    rw [kept, onePerName_of_distinct (by simp) (hnames.symm ▸ h),
      List.map_snd_zip (Nat.le_of_eq hrow)]

end Value

/-! ## Replies with columns -/

/-- The calls of a query after those before. -/
def queryCalls (statement : Value) (params : Bindings) (past : History) : History :=
  (.run statement params, true) :: (.openCursor, true) :: past

/-- On a cursor of its client library, as far as it has been called, the driver gets this reply to
a query, and its rows; outside a transaction it commits then. -/
structure Driver.Gets (d : Driver) (sql : Value) (bindings : Bindings) (bare : Bool)
    (client : Client) (statement : Value) (params : Bindings) (reply : Reply) : Prop where
  backend : d.backend = .cursors bare client
  restyle : Placeholder.restyle d.style id sql bindings = .ok (statement, params)
  openCursor : client.openCursor d.history = .ok ()
  run : client.run ((.openCursor, true) :: d.history) statement params = .ok reply
  fetch : client.fetch (queryCalls statement params d.history) = .ok ()
  commit : d.inTransaction = false →
    client.commit ((.fetch, true) :: queryCalls statement params d.history) = .ok ()

/-- The rows of a reply with columns. -/
theorem Reply.namedRows_eq {reply : Reply} {names : List Value}
    (hcolumns : reply.columns = some names) (hkeys : ∀ name ∈ names, name.isKey = true) :
    reply.namedRows = .ok (reply.rows.map fun row => Value.onePerName [] (names.zip row)) := by
  have hzip (row : List Value) : ∀ pair ∈ names.zip row, pair.1.isKey = true :=
    fun pair hmem => hkeys pair.1 (List.of_mem_zip hmem).1
  have hrow (row : List Value) :
      namedRow (names.zip row) = pure (Value.onePerName [] (names.zip row)) := by
    rw [namedRow, if_pos (List.all_eq_true.2 (hzip row)), Value.ofPairs_eq (hzip row)]
    rfl
  rw [namedRows, hcolumns]
  simp only [hrow, List.mapM_pure]
  rfl

namespace Driver

variable {ch : Channel} {sql statement : Value} {bindings params : Bindings} {bare : Bool}
  {client : Client} {reply : Reply}

theorem runOn_send (h : ch.driver.Gets sql bindings bare client statement params reply) :
    ∃ d journal, runOn (send client sql bindings) ch = (.ok reply, ⟨d, journal⟩) ∧
      d.inTransaction = ch.driver.inTransaction ∧
      d.history = queryCalls statement params ch.driver.history := by
  have hrestyle : runOn (restyle sql bindings) ch = (.ok (statement, params), ch) := by
    rw [restyle, runOn_bind_ok (runOn_current ch), h.backend]
    show runOn (ofResult (Placeholder.restyle ch.driver.style id sql bindings)) ch = _
    rw [runOn_ofResult, h.restyle]
  have hopen : runOn (prepareClient client statement) ch = (.ok (), { ch with
      driver := { ch.driver with history := (.openCursor, true) :: ch.driver.history } }) := by
    rw [prepareClient, runOn_bind_ok (runOn_current ch), h.backend, hasCursor, if_pos rfl,
      runOn_bind_ok (runOn_call _ _ _), h.openCursor]
    rfl
  rw [send, runOn_bind_ok hrestyle, runOn_bind_ok hopen, runOn_bind_ok (runOn_note _ _),
    runOn_bind_ok (runOn_call _ _ _), h.run]
  exact ⟨_, _, rfl, rfl, rfl⟩

/-- In or outside a transaction, the rows are those of the reply. -/
theorem runOn_fetchAll (h : ch.driver.Gets sql bindings bare client statement params reply)
    (hcolumns : reply.columns.isSome = true) {rows : List Row}
    (hrows : reply.namedRows = .ok rows) : (runOn (fetchAll sql bindings) ch).1 = .ok rows := by
  obtain ⟨d, journal, hsend, hinside, hhistory⟩ := runOn_send h
  have hfetch : runOn (fetchRows (.cursors bare client) client reply) ⟨d, journal⟩ = (.ok rows,
      ⟨{ d with history := (.fetch, true) :: d.history }, journal ++ [Entry.cursorClosed]⟩) := by
    rw [fetchRows, if_pos hcolumns, runOn_bind_ok (runOn_call _ _ _), hhistory, h.fetch, hasCursor,
      hrows]
    rfl
  rw [fetchAll, runOn_bind_ok (runOn_current ch), h.backend]
  dsimp only
  rw [runOn_bind_ok hsend, runOn_bind_ok hfetch, autocommit, runOn_bind, runOn_bind,
    runOn_current]
  dsimp only
  rw [hinside, hhistory]
  cases hidle : ch.driver.inTransaction with
  | true => rfl
  | false =>
    have hcommit := h.commit hidle
    rw [Bool.not_false, if_pos rfl, commitClient, runOn_bind_ok (runOn_ending _ _ _ _), hcommit]
    rfl

theorem runOn_fetchScalar (h : ch.driver.Gets sql bindings bare client statement params reply)
    (hcolumns : reply.columns.isSome = true) {rows : List Row}
    (hrows : reply.namedRows = .ok rows) :
    (runOn (fetchScalar sql bindings) ch).1 = .ok ((rows.map firstValue).headD .null) := by
  obtain ⟨ch', hrun⟩ : ∃ ch', runOn (fetchAll sql bindings) ch = (.ok rows, ch') :=
    ⟨_, Prod.ext (runOn_fetchAll h hcolumns hrows) rfl⟩
  rw [fetchScalar, fetchRow, runOn_bind, runOn_bind_ok hrun]
  cases rows <;> rfl

theorem runOn_fetchColumn (h : ch.driver.Gets sql bindings bare client statement params reply)
    (hcolumns : reply.columns.isSome = true) {rows : List Row}
    (hrows : reply.namedRows = .ok rows) :
    (runOn (fetchColumn sql bindings) ch).1 = .ok (rows.map firstValue) := by
  obtain ⟨ch', hrun⟩ : ∃ ch', runOn (fetchAll sql bindings) ch = (.ok rows, ch') :=
    ⟨_, Prod.ext (runOn_fetchAll h hcolumns hrows) rfl⟩
  rw [fetchColumn, runOn_bind_ok hrun]
  rfl

end Driver

/-- Whenever the query of the operation is on its way to the driver, the driver gets this reply. -/
def Terminal.Replied (r : Reaction) (t : Terminal) (b : Nat) (s : Session) (reply : Reply) : Prop :=
  ∀ i c u v, t.Begins r b s i c u → Heard r c (t.beforehand i) u v →
    ∃ conn bare client statement params, v.connections[c]? = some conn ∧
      conn.driver.Gets i.query.sql i.query.bindings bare client statement params reply

/-! ## What arrives -/

section

variable {r : Reaction} {s : Session} {b c : Nat} {x : Builder} {conn : Connection}
  {st : Statements} {q : CompiledQuery} {reply : Reply} {names : List Value}

theorem Terminal.Replied.answered {t : Terminal} (h : t.Replied r b s reply)
    (hcolumns : reply.columns.isSome = true) {rows : List Row}
    (hrows : reply.namedRows = .ok rows) : t.Answered r b s rows := by
  intro i c u v hbegins hheard
  obtain ⟨conn, bare, client, statement, params, hconn, hgets⟩ := h i c u v hbegins hheard
  rw [runIn_onDriver hconn]
  exact Driver.runOn_fetchAll hgets hcolumns hrows

/-- Of the values of a row those arrive that are kept, as a tuple and, the first of them, as a
single value or a column. These are all values, in their order, exactly if no name stands for two
columns. -/
theorem columns_arrive (h : Standing b x c conn st s)
    (hq : conn.adapter.compile .select st [] = .ok q) (hcolumns : reply.columns = some names)
    (hkeys : ∀ name ∈ names, name.isKey = true)
    (hcourteous : ∀ i c u, (Terminal.get (.text "ARRAY_N")).Begins r b s i c u →
      (Terminal.get (.text "ARRAY_N")).Courteous r i c u)
    (hreply : (Terminal.get (.text "ARRAY_N")).Replied r b s reply) :
    (runIn r (get b (.text "ARRAY_N")) s).1 =
        .ok (.list (reply.rows.map fun row => .tuple (Value.kept names row))) ∧
      (∀ (ch : Channel) sql bindings bare client statement params,
        ch.driver.Gets sql bindings bare client statement params reply →
        (Driver.runOn (Driver.fetchScalar sql bindings) ch).1 =
            .ok ((reply.rows.map fun row => (Value.kept names row).headD .null).headD .null) ∧
          (Driver.runOn (Driver.fetchColumn sql bindings) ch).1 =
            .ok (reply.rows.map fun row => (Value.kept names row).headD .null)) ∧
      ((∀ row, row.length = names.length → Value.kept names row = row) ↔ Value.Distinct names) := by
  have hrows := Reply.namedRows_eq hcolumns hkeys
  have hsome : reply.columns.isSome = true := by rw [hcolumns]; rfl
  have hfirst (row : Row) : Driver.firstValue row = (row.map Prod.snd).headD .null := by
    cases row <;> rfl
  refine ⟨?_, fun ch sql bindings bare client statement params hgets => ?_, Value.kept_eq_iff names⟩
  · have hshape : conn.settings.shape (.text "ARRAY_N") OutputShape.all = .ok .plainArray :=
      shape_name _ .plainArray rfl
    rw [Terminal.get_returns h hq hshape hcourteous (hreply.answered hsome hrows), shapedRows]
    · have hshaped : shapedRow .plainArray = fun row => pure (.tuple (row.map Prod.snd)) := rfl
      rw [hshaped, List.mapM_pure, List.map_map]
      rfl
    · intro hkeyed
      cases hkeyed
  · have hfirsts (rows : List Row) : rows.map Driver.firstValue =
        rows.map fun row => (row.map Prod.snd).headD .null :=
      List.map_congr_left fun row _ => hfirst row
    rw [Driver.runOn_fetchScalar hgets hsome hrows, Driver.runOn_fetchColumn hgets hsome hrows,
      hfirsts, List.map_map]
    exact ⟨rfl, rfl⟩

end

/-! ## Two columns of one name -/

/-- A scripted back end that gives one row of two columns with one name. -/
def joined : Scenario where
  kind := .cursor
  columns := some [.text "id", .text "id"]
  data := [[.int 1, .int 2]]

/-- Its reply. -/
def joinedReply : Reply where
  rowCount := .int 1
  lastId := none
  columns := some [.text "id", .text "id"]
  rows := [[.int 1, .int 2]]

/-- A session with a builder on a connection to it. -/
def joining : Session where
  connections := #[{
    driver := .ofScenario joined
    scenario := joined
    settings := {}
    adapter := { dialect := .mysql } }]
  builders := #[{ connection := some 0, record := 0 }]
  records := #[{ tables := .list [.text "t"] }]
  first := some 0

/-- The query of its builder. -/
def selectJoined : CompiledQuery where
  sql := .text "SELECT * FROM t"
  bindings := .positional []
  adapter := some { dialect := .mysql }

theorem gets_joined : (Driver.ofScenario joined).Gets selectJoined.sql selectJoined.bindings false
    joined.client selectJoined.sql (.named []) joinedReply where
  backend := rfl
  restyle := by cbv
  openCursor := rfl
  run := rfl
  fetch := rfl
  commit := fun _ => rfl

theorem replied_joining : (Terminal.get (.text "ARRAY_N")).Replied idle 0 joining joinedReply := by
  intro i c u v hbegins hheard
  obtain ⟨w, hrun, -, hon, rfl⟩ := hbegins
  have hissued : runIn idle ((Terminal.get (.text "ARRAY_N")).issue 0) joining =
      (.ok ⟨0, selectJoined, shapedRows .plainArray⟩, { joining with
        journal := [.logged .debug "fluentql.compile.base"
          "Compiled select for mysql: SELECT * FROM t"] }) := by
    cbv
  cases hissued.symm.trans hrun
  obtain ⟨_, _, hx, hc, -⟩ := hon
  cases hx
  cases hc
  cases hheard
  exact ⟨_, _, _, _, _, rfl, gets_joined⟩

theorem unheard_joining : joining.Unheard := .of_single rfl rfl

theorem compile_joining : Adapter.compile { dialect := .mysql } .select
    { tables := .list [.text "t"] } [] = .ok selectJoined := by
  cbv

theorem namedRows_joined : joinedReply.namedRows = .ok [[(.text "id", .int 2)]] := by
  cbv

theorem columns_arrive_of_joining :
    (runIn idle (get 0 (.text "ARRAY_N")) joining).1 = .ok (.list [.tuple [.int 2]]) ∧
      ¬ Value.Distinct [.text "id", .text "id"] := by
  have hkeys : ∀ name ∈ [Value.text "id", .text "id"], name.isKey = true := by simp [Value.isKey]
  obtain ⟨hget, -, hall⟩ := @columns_arrive idle joining 0 0 _ _ _ selectJoined joinedReply _
    ⟨rfl, rfl, rfl, rfl⟩ compile_joining rfl hkeys
    (Terminal.courteous_of_unheard unheard_joining) replied_joining
  have hkept : Value.kept [.text "id", .text "id"] [.int 1, .int 2] = [.int 2] := by cbv
  have hrows : joinedReply.rows = [[.int 1, .int 2]] := rfl
  rw [hrows, List.map_singleton, hkept] at hget
  refine ⟨hget, fun hdistinct => ?_⟩
  rw [hall.2 hdistinct [.int 1, .int 2] rfl] at hkept
  cases hkept

/-- Its rows in the shape of plain arrays. -/
theorem get_joining :
    (runIn idle (get 0 (.text "ARRAY_N")) joining).1 = .ok (.list [.tuple [.int 2]]) := by
  have hshape : Settings.shape {} (.text "ARRAY_N") OutputShape.all = .ok .plainArray :=
    shape_name _ .plainArray rfl
  rw [Terminal.get_returns ⟨rfl, rfl, rfl, rfl⟩ compile_joining hshape
    (Terminal.courteous_of_unheard unheard_joining)
    (replied_joining.answered rfl namedRows_joined)]
  rfl

/-- The value of the first of two columns is lost: neither the tuple nor the single value nor the
column has it. -/
theorem first_column_lost :
    let ch : Channel := { driver := .ofScenario joined }
    ch.driver.Gets selectJoined.sql selectJoined.bindings false joined.client selectJoined.sql
        (.named []) joinedReply ∧
      joinedReply.columns = some [.text "id", .text "id"] ∧
      joinedReply.rows = [[.int 1, .int 2]] ∧
      (runIn idle (get 0 (.text "ARRAY_N")) joining).1 ≠
        .ok (.list [.tuple [.int 1, .int 2]]) ∧
      (Driver.runOn (Driver.fetchScalar selectJoined.sql selectJoined.bindings) ch).1 ≠
        .ok (.int 1) ∧
      (Driver.runOn (Driver.fetchColumn selectJoined.sql selectJoined.bindings) ch).1 ≠
        .ok [.int 1] := by
  refine ⟨gets_joined, rfl, rfl, ?_, ?_, ?_⟩
  · rw [get_joining]
    rintro ⟨⟩
  · rw [Driver.runOn_fetchScalar gets_joined rfl namedRows_joined]
    rintro ⟨⟩
  · rw [Driver.runOn_fetchColumn gets_joined rfl namedRows_joined]
    rintro ⟨⟩

end SqlBuilder
