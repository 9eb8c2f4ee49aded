import SqlBuilder.Builder.Clauses
import SqlBuilder.Builder.Joins
import SqlBuilder.Proofs.Order.Clauses
import SqlBuilder.Proofs.Session.Reading

/-!
# Calls as lists of edits

Some calls on a builder change its statements more than once, and each change may fail. `carry`
makes edits one after another up to the first that fails, and `Makes` says of an action that it
carries out a list of edits on the statements of a builder and does nothing else: what the edits
come to is what the action comes to, and what they leave is what it leaves, also where it fails.

The edits of the calls that order, group, select from tables, declare an alias and add a join are
`orderEdits`, `groupEdits`, `fromEdits`, `declareEdits` and `joinEdits`. They depend on the prefix
that the builder finds and on its mode.
-/

set_option autoImplicit false

namespace SqlBuilder

open Session Builder

variable {α β γ : Type}

/-! ## Edits -/

/-- A change of statements that may fail. -/
abbrev Edit := Statements → Result Statements

/-- Makes edits up to the first that fails: what they come to, and the statements they leave. -/
def carry : List Edit → Statements → Result Unit × Statements
  | [], st => (.ok (), st)
  | e :: es, st =>
    match e st with
    | .ok st' => carry es st'
    | .error f => (.error f, st)

theorem carry_cons_ok {e : Edit} {es : List Edit} {st st' : Statements} (h : e st = .ok st') :
    carry (e :: es) st = carry es st' := by
  rw [carry, h]

theorem carry_append (es es' : List Edit) (st : Statements) :
    carry (es ++ es') st = match carry es st with
      | (.ok (), st') => carry es' st'
      | (.error f, st') => (.error f, st') := by
  induction es generalizing st with
  | nil => rfl
  | cons e es ih =>
    rw [List.cons_append, carry, carry]
    cases e st with
    | ok st' => exact ih st'
    | error f => rfl

theorem Statements.tried_some (f : Statements → Option Statements) {st st' : Statements}
    (h : f st = some st') : st.tried f = .ok st' := by
  rw [tried, h]

/-! ## Builders and their statements -/

namespace Session

/-- A builder with the statements it works on. -/
structure Working (s : Session) (b : Nat) (x : Builder) (st : Statements) : Prop where
  builder : s.builders[b]? = some x
  record : s.records[x.record]? = some st

/-- The session with other statements in a record. -/
def revised (s : Session) (n : Nat) (st : Statements) : Session :=
  { s with records := s.records.modify n fun _ => st }

/-- The prefix that a builder finds, or why it finds none. -/
def prefixFor (s : Session) (b : Nat) : Result Value :=
  match s.builders[b]? with
  | none => misuse .missingAttribute
  | some x =>
    match x.connection with
    | none => .error (.configuration .noConnection)
    | some c =>
      match s.connections[c]? with
      | none => misuse .missingAttribute
      | some conn => s.prefixOf conn

variable {r : Reaction} {s : Session} {b : Nat} {x : Builder} {st : Statements}

theorem revised_self {n : Nat} (h : s.records[n]? = some st) : s.revised n st = s := by
  have hrecords : s.records.modify n (fun _ => st) = s.records := by
    refine Array.ext_getElem? fun m => ?_
    rw [Array.getElem?_modify]
    split
    · rename_i hn
      rw [← hn, h]
      rfl
    · rfl
  rw [revised, hrecords]

theorem modify_eq_revised {n : Nat} (h : s.records[n]? = some st) (f : Statements → Statements) :
    { s with records := s.records.modify n f } = s.revised n (f st) := by
  have hrecords : s.records.modify n f = s.records.modify n fun _ => f st := by
    refine Array.ext_getElem? fun m => ?_
    simp only [Array.getElem?_modify]
    split
    · rename_i hn
      rw [← hn, h]
      rfl
    · rfl
  rw [revised, hrecords]

theorem revised_revised (n : Nat) (st st' : Statements) :
    (s.revised n st).revised n st' = s.revised n st' := by
  have hrecords : (s.records.modify n fun _ => st).modify n (fun _ => st') =
      s.records.modify n fun _ => st' := by
    refine Array.ext_getElem? fun m => ?_
    simp only [Array.getElem?_modify]
    split
    · cases s.records[m]? <;> rfl
    · rfl
  rw [revised, revised, revised, hrecords]

theorem Working.revised (h : s.Working b x st) (st' : Statements) :
    (s.revised x.record st').Working b x st' where
  builder := h.builder
  record := by
    rw [Session.revised, Array.getElem?_modify, if_pos rfl, h.record]
    rfl

theorem Working.self (h : s.Working b x st) : s.revised x.record st = s := revised_self h.record

theorem runIn_tablePrefixOf_eq : runIn r (tablePrefixOf b) s = (s.prefixFor b, s) := by
  cases hx : s.builders[b]? with
  | none =>
    rw [tablePrefixOf, runIn_bind, connectionOf, runIn_bind, Session.builder,
      runIn_bind_ok (runIn_get s), prefixFor, hx]
    rfl
  | some x =>
    cases hc : x.connection with
    | none =>
      rw [tablePrefixOf, runIn_bind, connectionOf, runIn_bind_ok (runIn_builder hx), prefixFor, hx]
      dsimp only
      rw [hc]
      rfl
    | some c =>
      cases hconn : s.connections[c]? with
      | none =>
        rw [tablePrefixOf, runIn_bind, connectionOf, runIn_bind_ok (runIn_builder hx), prefixFor,
          hx]
        dsimp only
        rw [hc]
        dsimp only
        rw [hconn, runIn_pure]
        dsimp only
        rw [runIn_bind, Session.connection, runIn_bind_ok (runIn_get s), hconn]
        rfl
      | some conn =>
        rw [runIn_tablePrefixOf ⟨x, hx, hc, hconn⟩, prefixFor, hx]
        dsimp only
        rw [hc]
        dsimp only
        rw [hconn]

end Session

/-! ## Carrying out edits -/

/-- On a builder that finds the prefix `p` and is in the mode `ow`, the action makes the edits on
its statements and does nothing else. If they all succeed it returns what `y` comes to. -/
def Makes (b : Nat) (p : Result Value) (ow : Bool) (es : List Edit) (y : Result α)
    (act : Action α) : Prop :=
  ∀ r s x st, s.Working b x st → s.prefixFor b = p → x.overwrite.isTrue = ow →
    match carry es st with
    | (.ok _, st') => ∃ a, y = .ok a ∧ runIn r act s = (.ok a, s.revised x.record st')
    | (.error f, st') => runIn r act s = (.error f, s.revised x.record st')

namespace Makes

variable {b : Nat} {p : Result Value} {ow : Bool} {es es' : List Edit} {y : Result α}

theorem pure (a : α) : Makes b p ow [] (.ok a) (Pure.pure a) := by
  intro r s x st h _ _
  refine ⟨a, rfl, ?_⟩
  rw [h.self]
  rfl

theorem bind {w : Result β} {act : Action α} {k : α → Action β} (hx : Makes b p ow es y act)
    (hk : ∀ a, y = .ok a → Makes b p ow es' w (k a)) :
    Makes b p ow (es ++ es') w (act >>= k) := by
  intro r s x st h hp how
  have hact := hx r s x st h hp how
  rw [carry_append]
  generalize carry es st = q at hact
  obtain ⟨_ | u, st₁⟩ := q
  · show runIn r (act >>= k) s = _
    rw [runIn_bind, hact]
  · obtain ⟨a, hy, hrun⟩ := hact
    have hrest := hk a hy r (s.revised x.record st₁) x st₁ (h.revised st₁) hp how
    rw [runIn_bind_ok hrun]
    simp only [revised_revised] at hrest
    exact hrest

/-- Something is looked up first, and the edits depend on it. -/
theorem reading {w : Result β} {act : Action α} {k : α → Action β} (es : List (α → Edit))
    (hne : es ≠ []) (hact : ∀ r s, s.prefixFor b = p → runIn r act s = (y, s))
    (hk : ∀ a, y = .ok a → Makes b p ow (es.map fun e => e a) w (k a)) :
    Makes b p ow (es.map fun e st => y >>= fun a => e a st) w (act >>= k) := by
  intro r s x st h hp how
  rw [runIn_bind, hact r s hp]
  cases y with
  | ok a => exact hk a rfl r s x st h hp how
  | error f =>
    cases es with
    | nil => exact absurd rfl hne
    | cons e es =>
      show (Except.error f, s) = (Except.error f, s.revised x.record st)
      rw [h.self]

/-- Something is looked up that has to be there. -/
theorem looking {act : Action α} (hact : ∀ r s, s.prefixFor b = p → runIn r act s = (y, s)) :
    Makes b p ow [fun st => y >>= fun _ => .ok st] y act := by
  intro r s x st h hp _
  rw [hact r s hp]
  cases y with
  | ok a => exact ⟨a, rfl, by rw [h.self]⟩
  | error f =>
    show (Except.error f, s) = (Except.error f, s.revised x.record st)
    rw [h.self]

/-- Other edits that come to the same. -/
theorem of_carry {act : Action α} (h : Makes b p ow es y act)
    (heq : ∀ st, carry es' st = carry es st) : Makes b p ow es' y act := by
  intro r s x st hs hp how
  rw [heq]
  exact h r s x st hs hp how

theorem forM {xs : List γ} {f : γ → Action Unit} {es : γ → List Edit}
    (h : ∀ x ∈ xs, Makes b p ow (es x) (.ok ()) (f x)) :
    Makes b p ow (xs.flatMap es) (.ok ()) (xs.forM f) := by
  induction xs with
  | nil => exact pure ()
  | cons x xs ih =>
    rw [List.flatMap_cons]
    exact bind (h x List.mem_cons_self) fun _ _ =>
      ih fun y hy => h y (List.mem_cons_of_mem _ hy)

theorem mapM {xs : List γ} {f : γ → Action α} {es : γ → List Edit} {ys : γ → Result α}
    (h : ∀ x ∈ xs, Makes b p ow (es x) (ys x) (f x)) :
    Makes b p ow (xs.flatMap es) (xs.mapM ys) (xs.mapM f) := by
  induction xs with
  | nil => exact pure []
  | cons x xs ih =>
    rw [List.flatMap_cons, List.mapM_cons, List.mapM_cons]
    refine bind (h x List.mem_cons_self) fun a ha => ?_
    have hrest := ih fun y hy => h y (List.mem_cons_of_mem _ hy)
    rw [← List.append_nil (xs.flatMap es)]
    refine hrest.bind fun as has => ?_
    rw [ha, has]
    exact pure (a :: as)

end Makes

section

variable {b : Nat} {p : Result Value} {ow : Bool}

theorem makes_change (e : Edit) : Makes b p ow [e] (.ok ()) (change b e) := by
  intro r s x st h _ _
  cases he : e st with
  | ok st' =>
    have hcarry : carry [e] st = (.ok (), st') := by rw [carry, he]; rfl
    rw [hcarry]
    exact ⟨(), rfl, runIn_change h.builder h.record he⟩
  | error f =>
    have hcarry : carry [e] st = (.error f, st) := by rw [carry, he]
    rw [hcarry]
    show runIn r (change b e) s = _
    rw [h.self, change, runIn_bind_ok (runIn_statementsOf h.builder h.record), he]
    rfl

theorem makes_edit (f : Statements → Statements) :
    Makes b p ow [fun st => .ok (f st)] (.ok ()) (edit b f) := by
  intro r s x st h _ _
  refine ⟨(), rfl, ?_⟩
  rw [runIn_edit h.builder, modify_eq_revised h.record]

theorem makes_tryEdit (f : Statements → Option Statements) :
    Makes b p ow [Statements.tried f] (.ok ()) (tryEdit b f) := makes_change _

theorem makes_throw (f : Fault) :
    Makes b p ow [fun _ => .error f] (.ok ()) (throw f) := by
  intro r s x st h _ _
  show (Except.error f, s) = (Except.error f, s.revised x.record st)
  rw [h.self]

/-- What depends on the mode of the builder. -/
theorem makes_overwrites {es : List Edit} {y : Result α} {k : Bool → Action α}
    (h : Makes b p ow es y (k ow)) : Makes b p ow es y (overwrites b >>= k) := by
  intro r s x st hs hp how
  rw [runIn_bind_ok (runIn_overwrites hs.builder), how]
  exact h r s x st hs hp how

end

/-! ## The edits of calls -/

section

variable (p : Result Value) (ow : Bool)

/-- A name with the prefix that a builder finds. -/
def nameWith (mixed : Bool) (v : Value) : Result Value := p >>= fun p => prefixed p mixed v

/-- The names of a list with the prefix. -/
def namesWith (mixed : Bool) (vs : List Value) : Result (List Value) := do
  pure ((← nameWith p mixed (.list vs)).items?.getD [])

/-- Orderings are added one after another. -/
def orderEdits (fields direction : Value) : List Edit :=
  (orderings fields direction).flatMap fun (field, direction) => [fun st => do
    let field ← nameWith p true field
    st.tried (·.addOrder? ow ⟨field, .text (Text.upper direction.toText)⟩)]

/-- The fields of one argument, with prefix. -/
def groupsWith (field : Value) : Result (List Value) :=
  match field with
  | .list items | .tuple items => namesWith p true items
  | field => do pure [← nameWith p true field]

/-- Groupings are cleared in overwrite mode; then fields are added argument by argument. -/
def groupEdits (fields : List Value) : List Edit :=
  (fun st => .ok (st.openGroups ow)) :: fields.flatMap fun field =>
    [(·.addGroups []), fun st => do st.addGroups (← groupsWith p field)]

/-- Aliases are opened before the name of an alias is put in lower case. -/
def declareEdits (name : Value) (table : Statements → Result Value) : List Edit :=
  [fun st => do
    let _ ← table st
    pure st.openAliases,
  fun st => do
    let table ← table st
    st.addAlias table (← name.lower)]

/-- The table that an alias is declared for, by default the first one. -/
def aliased (table : Value) (st : Statements) : Result Value :=
  match table with
  | .null => if !st.hasTables then .error (.validation .noTable) else st.tables.front
  | table => nameWith p false table

/-- The tables of one argument, with prefix. -/
def tablesWith (item : Value) : Result (List Value) :=
  match item with
  | .map entries => entries.mapM fun (table, _) => nameWith p false table
  | .list items | .tuple items => namesWith p false items
  | item => do pure [← nameWith p false item]

/-- The aliases of one argument are declared one after another. -/
def tableEdits (item : Value) : List Edit :=
  match item with
  | .map entries => entries.flatMap fun (table, name) =>
    declareEdits name fun _ => nameWith p false table
  | item => [fun st => do
    let _ ← tablesWith p item
    pure st]

/-- Aliases are declared argument by argument; then all tables are added. -/
def fromEdits (tables : List Value) : List Edit :=
  if isNothing tables then [fun st => .ok st.clearTables]
  else tables.flatMap (tableEdits p) ++
    [fun st => do st.addTables (← tables.mapM (tablesWith p)).flatten]

/-- The table of a join, with prefix. -/
def joinedWith (table : Value) : Result Value :=
  match table with
  | .list [main, name] | .tuple [main, name] => do
    pure (.tuple [← nameWith p false main, name])
  | .list _ | .tuple _ => .error (.misuse .badValue)
  | table => nameWith p false table

/-- The join that stood there is removed before the kind of the new one is put in lower case. -/
def joinEdits (kind table : Value) (criteria : List Condition) : List Edit :=
  [fun st => do
    let table ← joinedWith p table
    st.tried (·.openJoins? ow table),
  fun st => do
    let table ← joinedWith p table
    let kind ← kind.lower
    pure { st with joins := some (st.joins.getD [] ++ [{ kind, table, criteria }]) }]

end

/-! ## Calls carry out their edits -/

section

variable {r : Reaction} {s : Session} {b : Nat} {p : Result Value} {ow : Bool}

theorem runIn_addPrefix_eq (h : s.prefixFor b = p) (v : Value) (mixed : Bool) :
    runIn r (addPrefix b v mixed) s = (nameWith p mixed v, s) := by
  rw [addPrefix, runIn_bind, runIn_tablePrefixOf_eq, h]
  cases p with
  | error f => rfl
  | ok p => exact runIn_ofResult _ s

theorem runIn_addPrefixAll_eq (h : s.prefixFor b = p) (vs : List Value) (mixed : Bool) :
    runIn r (addPrefixAll b vs mixed) s = (namesWith p mixed vs, s) := by
  rw [addPrefixAll, runIn_bind, runIn_addPrefix_eq h, namesWith]
  cases nameWith p mixed (.list vs) <;> rfl

theorem makes_orderBy (fields direction : Value) :
    Makes b p ow (orderEdits p ow fields direction) (.ok ()) (orderBy b fields direction) := by
  refine .forM fun entry _ => ?_
  obtain ⟨field, direction⟩ := entry
  exact .reading [fun field (st : Statements) =>
      st.tried (·.addOrder? ow ⟨field, .text (Text.upper direction.toText)⟩)]
    (List.cons_ne_nil _ _) (fun r s h => runIn_addPrefix_eq h field true)
    fun field _ => makes_overwrites (makes_tryEdit _)

theorem makes_addCondition (list : ConditionList) (c : Condition) :
    Makes b p ow [Statements.tried (·.addCondition? list ow c)] (.ok ())
      (addCondition b list c) := makes_overwrites (makes_tryEdit _)

theorem makes_groupBy (fields : List Value) :
    Makes b p ow (groupEdits p ow fields) (.ok ()) (groupBy b fields) := by
  refine makes_overwrites ?_
  refine (makes_edit (·.openGroups ow)).bind fun _ _ => .forM fun field _ => ?_
  refine (makes_change (·.addGroups [])).bind fun _ _ => ?_
  have hgrow : ∀ fields : List Value, Makes b p ow [(·.addGroups fields)] (.ok ())
      (change b (·.addGroups fields)) := fun fields => makes_change _
  have hlist (items : List Value) :=
    Makes.reading [fun fields (st : Statements) => st.addGroups fields]
      (List.cons_ne_nil _ _) (fun r s h => runIn_addPrefixAll_eq (r := r) (p := p) h items true)
      fun fields _ => hgrow fields
  have hone (v : Value) :
      Makes b p ow
        [fun st => (do pure [← nameWith p true v]) >>= fun fields => st.addGroups fields] (.ok ())
        (addPrefix b v true >>= fun v => pure [v] >>= fun fields =>
          change b (·.addGroups fields)) := by
    have hread := Makes.reading [fun v (st : Statements) => st.addGroups [v]]
      (List.cons_ne_nil _ _)
      (fun r s h => runIn_addPrefix_eq (r := r) (p := p) h v true) fun v _ => hgrow [v]
    refine Makes.of_carry hread fun st => ?_
    cases nameWith p true v <;> rfl
  cases field with
  | list items | tuple items => exact hlist items
  | _ => exact hone _

/-- An alias for a table that is known already. -/
theorem makes_setAlias (name table : Value) :
    Makes b p ow (declareEdits name fun _ => .ok table) (.ok ()) (setAlias b name table) := by
  have hadd (name : Value) : Makes b p ow [fun st => st.addAlias table name] (.ok ())
      (change b (·.addAlias table name)) := makes_change _
  have hname := Makes.reading [fun name (st : Statements) => st.addAlias table name]
    (List.cons_ne_nil _ _) (fun r s _ => runIn_ofResult (r := r) name.lower s)
    fun name _ => hadd name
  exact (makes_edit (·.openAliases)).bind fun _ _ => hname

/-- An alias for a table that gets its prefix first. -/
theorem makes_declare {w : Result α} {name v : Value} {k : Value → Action α}
    (hk : ∀ table, nameWith p false v = .ok table →
      Makes b p ow (declareEdits name fun _ => .ok table) w (k table)) :
    Makes b p ow (declareEdits name fun _ => nameWith p false v) w
      (addPrefix b v false >>= k) :=
  .reading [fun _ st => .ok st.openAliases,
      fun table st => do st.addAlias table (← name.lower)] (List.cons_ne_nil _ _)
    (fun _ _ h => runIn_addPrefix_eq h v false) hk

theorem makes_collectTables (item : Value) :
    Makes b p ow (tableEdits p item) (tablesWith p item) (collectTables b item) := by
  have hentry (entry : Value × Value) :
      Makes b p ow (declareEdits entry.2 fun _ => nameWith p false entry.1)
        (nameWith p false entry.1) (do
          let table ← addPrefix b entry.1 false
          setAlias b entry.2 table
          pure table) := by
    refine makes_declare fun table htable => ?_
    rw [← List.append_nil (declareEdits _ _), htable]
    exact (makes_setAlias entry.2 table).bind fun _ _ => .pure table
  have hlist (items : List Value) :
      Makes b p ow [fun st => namesWith p false items >>= fun _ => .ok st]
        (namesWith p false items) (addPrefixAll b items false) :=
    .looking fun r s h => runIn_addPrefixAll_eq h items false
  have hone (v : Value) :
      Makes b p ow [fun st => (do pure [← nameWith p false v]) >>= fun _ => .ok st]
        (do pure [← nameWith p false v]) (do pure [← addPrefix b v false]) := by
    refine .looking fun r s h => ?_
    rw [runIn_bind, runIn_addPrefix_eq h]
    cases nameWith p false v <;> rfl
  cases item with
  | map entries => exact .mapM fun entry _ => hentry entry
  | list items | tuple items => exact hlist items
  | _ => exact hone _

theorem makes_fromTables (tables : List Value) :
    Makes b p ow (fromEdits p tables) (.ok ()) (fromTables b tables) := by
  unfold fromEdits fromTables
  split
  · exact makes_edit _
  · refine (Makes.mapM fun item _ => makes_collectTables item).bind fun collected h => ?_
    have hadd : Makes b p ow [(·.addTables collected.flatten)] (.ok ())
        (change b (·.addTables collected.flatten)) := makes_change _
    exact hadd.of_carry fun st => by rw [h]; rfl

theorem makes_aliasTable (name table : Value) :
    Makes b p ow (declareEdits name (aliased p table)) (.ok ()) (aliasTable b name table) := by
  have hgiven (v : Value) : Makes b p ow (declareEdits name fun _ => nameWith p false v) (.ok ())
      (addPrefix b v false >>= fun table => setAlias b name table) :=
    makes_declare fun table _ => makes_setAlias name table
  cases table with
  | null =>
    intro r s x st h hp how
    have hopened : aliased p .null st.openAliases = aliased p .null st := by
      unfold Statements.openAliases
      split <;> rfl
    have hfirst : runIn r (aliasTable b name .null) s =
        runIn r (ofResult (aliased p .null st) >>= fun table => setAlias b name table) s := by
      rw [aliasTable, runIn_bind_ok (runIn_statementsOf h.builder h.record), aliased]
      cases st.hasTables <;> rfl
    rw [hfirst]
    cases hy : aliased p .null st with
    | ok table =>
      have hcarry : carry (declareEdits name (aliased p .null)) st =
          carry (declareEdits name fun _ => .ok table) st := by
        rw [declareEdits, declareEdits, carry, carry, hy]
        show carry [_] st.openAliases = carry [_] st.openAliases
        rw [carry, carry, hopened, hy]
      rw [hcarry]
      exact makes_setAlias name table r s x st h hp how
    | error f =>
      have hcarry : carry (declareEdits name (aliased p .null)) st = (.error f, st) := by
        simp only [declareEdits, carry, hy]
        rfl
      rw [hcarry]
      show (Except.error f, s) = (Except.error f, s.revised x.record st)
      rw [h.self]
  | _ => exact hgiven _

theorem runIn_joinTable_eq (h : s.prefixFor b = p) (table : Value) :
    runIn r (joinTable b table) s = (joinedWith p table, s) := by
  have hpair (main name : Value) : runIn r (do pure (.tuple [← addPrefix b main false, name])) s =
      ((do pure (.tuple [← nameWith p false main, name]) : Result Value), s) := by
    rw [runIn_bind, runIn_addPrefix_eq h]
    cases nameWith p false main <;> rfl
  cases table with
  | list items | tuple items =>
    match items with
    | [main, name] => exact hpair main name
    | [] | [_] | _ :: _ :: _ :: _ => rfl
  | _ => exact runIn_addPrefix_eq h _ false

/-- A join is added in the place of the one with its table, unless its kind has no lower case. -/
theorem makes_addJoin (kind table : Value) (criteria : List Condition) :
    Makes b p ow (joinEdits p ow kind table criteria) (.ok ())
      (addJoin b kind table criteria) := by
  refine .reading [fun table (st : Statements) => st.tried (·.openJoins? ow table),
      fun table st => do
        let kind ← kind.lower
        pure { st with joins := some (st.joins.getD [] ++ [{ kind, table, criteria }]) }]
    (List.cons_ne_nil _ _) (fun r s h => runIn_joinTable_eq h table) fun table _ => ?_
  refine makes_overwrites ?_
  cases kind.lower with
  | ok kind =>
    refine Makes.of_carry (makes_tryEdit (·.addJoin? ow { kind, table, criteria })) fun st => ?_
    show carry [_, _] st = carry [_] st
    rw [carry, carry]
    unfold Statements.tried Statements.addJoin?
    dsimp only
    cases st.openJoins? ow table <;> rfl
  | error f =>
    refine Makes.of_carry ((makes_tryEdit (·.openJoins? ow table)).bind fun _ _ =>
      makes_throw f) fun st => ?_
    rfl

end

end SqlBuilder
