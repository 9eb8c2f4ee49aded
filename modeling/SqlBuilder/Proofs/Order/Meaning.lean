import SqlBuilder.Proofs.Order.Clauses
import SqlBuilder.Proofs.Session.Reading

/-!
# What calls mean

A `Scene` is a session with a builder in it that calls are made on. What an action does to a builder
of the scene may depend on its mode and its statements (`Desk`) and on what else was in the scene,
but not on what has happened since: `Means` says that it does what a plain function of the desk
says, whichever builder it is, and leaves everything else alone. New builders may work in the scene
as well, so that callbacks have a meaning too.

`Fills K`: an action has such a meaning, and it is in one clause. This is closed under sequencing
and loops. Where no clause is named (`none`), only the meaning is asked for.
-/

set_option autoImplicit false

namespace SqlBuilder

open Session Builder

/-! ## Sessions that change in one place -/

/-- Everything but a builder and a record is as it was, but there may be more of them. -/
structure Session.Spares (g m : Nat) (t t' : Session) : Prop where
  connections : t'.connections = t.connections
  functions : t'.functions = t.functions
  builders : ∀ (i : Nat) (x : Builder), i ≠ g → t.builders[i]? = some x → t'.builders[i]? = some x
  records : ∀ (i : Nat) (st : Statements), i ≠ m → t.records[i]? = some st →
    t'.records[i]? = some st
  builders_size : t.builders.size ≤ t'.builders.size
  records_size : t.records.size ≤ t'.records.size

theorem size_le_of_kept {α : Type} {xs ys : Array α}
    (h : ∀ (i : Nat) (x : α), xs[i]? = some x → ys[i]? = some x) : xs.size ≤ ys.size := by
  refine Nat.le_of_not_lt fun hlt => ?_
  have hlast := h ys.size xs[ys.size] (Array.getElem?_eq_getElem hlt)
  rw [Array.getElem?_eq_none (Nat.le_refl _)] at hlast
  cases hlast

theorem ne_of_present {α : Type} {xs : Array α} {i g : Nat} {x : α} (h : xs[i]? = some x)
    (hg : xs.size ≤ g) : i ≠ g :=
  Nat.ne_of_lt (Nat.lt_of_lt_of_le (Array.getElem?_eq_some_iff.1 h).1 hg)

namespace Session.Spares

variable {g m : Nat} {t t' t'' : Session}

theorem ofGrown (h : Grown t t') : Spares g m t t' where
  connections := h.connections
  functions := h.functions
  builders i x _ hx := h.builders i x hx
  records i st _ hst := h.records i st hst
  builders_size := size_le_of_kept h.builders
  records_size := size_le_of_kept h.records

theorem trans (h : Spares g m t t') (h' : Spares g m t' t'') : Spares g m t t'' where
  connections := h'.connections.trans h.connections
  functions := h'.functions.trans h.functions
  builders i x hi hx := h'.builders i x hi (h.builders i x hi hx)
  records i st hi hst := h'.records i st hi (h.records i st hi hst)
  builders_size := Nat.le_trans h.builders_size h'.builders_size
  records_size := Nat.le_trans h.records_size h'.records_size

/-- What happens to a builder that was not there does not matter to those that were. -/
theorem transNew {b n : Nat} (h : Spares b n t t') (h' : Spares g m t' t'')
    (hg : t.builders.size ≤ g) (hm : t.records.size ≤ m) : Spares b n t t'' where
  connections := h'.connections.trans h.connections
  functions := h'.functions.trans h.functions
  builders i x hi hx := h'.builders i x (ne_of_present hx hg) (h.builders i x hi hx)
  records i st hi hst := h'.records i st (ne_of_present hst hm) (h.records i st hi hst)
  builders_size := Nat.le_trans h.builders_size h'.builders_size
  records_size := Nat.le_trans h.records_size h'.records_size

/-- A session in which only such builders change has grown. -/
theorem grownNew (h : Grown t t') (h' : Spares g m t' t'') (hg : t.builders.size ≤ g)
    (hm : t.records.size ≤ m) : Grown t t'' where
  connections := h'.connections.trans h.connections
  functions := h'.functions.trans h.functions
  builders i x hx := h'.builders i x (ne_of_present hx hg) (h.builders i x hx)
  records i st hst := h'.records i st (ne_of_present hst hm) (h.records i st hst)

theorem edited (f : Statements → Statements) :
    Spares g m t { t with records := t.records.modify m f } where
  connections := rfl
  functions := rfl
  builders _ _ _ hx := hx
  records i st hi hst := by
    show (t.records.modify m f)[i]? = _
    rw [Array.getElem?_modify, if_neg hi.symm]
    exact hst
  builders_size := Nat.le_refl _
  records_size := Nat.le_of_eq Array.size_modify.symm

theorem updated (f : Builder → Builder) :
    Spares g m t { t with builders := t.builders.modify g f } where
  connections := rfl
  functions := rfl
  builders i x hi hx := by
    show (t.builders.modify g f)[i]? = _
    rw [Array.getElem?_modify, if_neg hi.symm]
    exact hx
  records _ _ _ hst := hst
  builders_size := Nat.le_of_eq Array.size_modify.symm
  records_size := Nat.le_refl _

end Session.Spares

theorem Session.Grown.noted (t : Session) (journal : List Entry) : Grown t { t with journal } :=
  (Grown.refl t).journal journal

/-! ## Scenes -/

/-- A builder of a session, with its statements. -/
structure Scene where
  session : Session
  builder : Nat
  start : Builder
  statements : Statements
  present : session.builders[builder]? = some start
  recorded : session.records[start.record]? = some statements

/-- What calls change: the mode of a builder and its statements. -/
structure Desk where
  overwrite : Value
  statements : Statements

namespace Scene

/-- The desk of a new builder. -/
def freshDesk : Desk := ⟨.bool false, .empty⟩

variable (S : Scene)

/-- The desk of the builder in the scene. -/
def desk : Desk := ⟨S.start.overwrite, S.statements⟩

/-- Something happened to the builder in the scene and to new ones. One of them is `g`, which works
on the record `m` and has the desk `d`. -/
structure Stands (kind : BuilderKind) (t : Session) (g m : Nat) (d : Desk) : Prop where
  spared : Spares S.builder S.start.record S.session t
  owns : g = S.builder ∧ m = S.start.record ∨
    S.session.builders.size ≤ g ∧ S.session.records.size ≤ m
  builder : t.builders[g]? =
    some { connection := S.start.connection, record := m, overwrite := d.overwrite, kind }
  record : t.records[m]? = some d.statements

/-- The builder has statements of its own, which were there. -/
def Elsewhere (id : Nat) : Prop :=
  ∃ x st, S.session.builders[id]? = some x ∧ x.record ≠ S.start.record ∧
    S.session.records[x.record]? = some st

variable {S} {kind : BuilderKind} {t t' : Session} {g m : Nat} {d d' : Desk}

theorem stands_desk : S.Stands S.start.kind S.session S.builder S.start.record S.desk where
  spared := .ofGrown (.refl _)
  owns := .inl ⟨rfl, rfl⟩
  builder := S.present
  record := S.recorded

namespace Stands

theorem after (h : S.Stands kind t g m d) (hspared : Spares g m t t')
    (hbuilder : t'.builders[g]? = some
      { connection := S.start.connection, record := m, overwrite := d'.overwrite, kind })
    (hrecord : t'.records[m]? = some d'.statements) : S.Stands kind t' g m d' where
  spared := by
    obtain ⟨rfl, rfl⟩ | ⟨hg, hm⟩ := h.owns
    · exact h.spared.trans hspared
    · exact h.spared.transNew hspared hg hm
  owns := h.owns
  builder := hbuilder
  record := hrecord

theorem grown (h : S.Stands kind t g m d) (hgrown : Grown t t') : S.Stands kind t' g m d :=
  h.after (.ofGrown hgrown) (hgrown.builders g _ h.builder) (hgrown.records m _ h.record)

/-- A new builder on the connection of another has a fresh desk. -/
theorem fresh (h : S.Stands kind t g m d) {c : Nat} (hc : S.start.connection = some c)
    (kind' : BuilderKind) : S.Stands kind' (t.withBuilder c kind' .empty) t.builders.size
      t.records.size freshDesk where
  spared := (h.grown (grown_withBuilder t c kind' .empty)).spared
  owns := .inr ⟨h.spared.builders_size, h.spared.records_size⟩
  builder := by
    rw [hc]
    exact Array.getElem?_push_size
  record := Array.getElem?_push_size

/-- A builder elsewhere is as it was. -/
theorem elsewhere (h : S.Stands kind t g m d) {id : Nat} (hid : S.Elsewhere id) :
    ∃ x st, S.session.builders[id]? = some x ∧ S.session.records[x.record]? = some st ∧
      t.builders[id]? = some x ∧ t.records[x.record]? = some st := by
  obtain ⟨x, st, hx, hne, hst⟩ := hid
  have hne' : id ≠ S.builder := by
    rintro rfl
    rw [S.present] at hx
    cases hx
    exact hne rfl
  exact ⟨x, st, hx, hst, h.spared.builders id x hne' hx, h.spared.records _ st hne hst⟩

/-- So is its subquery. -/
theorem subQueryOf_eq (h : S.Stands kind t g m d) {id : Nat} (hid : S.Elsewhere id) :
    t.subQueryOf id = S.session.subQueryOf id := by
  obtain ⟨x, st, hx, hst, hx', hst'⟩ := h.elsewhere hid
  exact subQueryOf_congr h.spared.connections hx hx' hst hst'

end Stands

/-! ## Meanings -/

variable {α β γ : Type}

variable (S) in
/-- A run on a builder ends as it is said, with a fault or with a result and another desk. If it
succeeds, everything else is left alone. -/
inductive Ends (kind : BuilderKind) (t : Session) (g m : Nat) :
    Result α × Session → Result (α × Desk) → Prop where
  | ok {a : α} {t' : Session} {d' : Desk} (spared : Spares g m t t')
      (stands : S.Stands kind t' g m d') : Ends kind t g m (.ok a, t') (.ok (a, d'))
  | error (f : Fault) (t' : Session) : Ends kind t g m (.error f, t') (.error f)

variable (S) in
/-- On any builder that stands in the scene the action does what the function says of its desk. -/
def Means (kind : BuilderKind) (x : Nat → Action α) (E : Desk → Result (α × Desk)) : Prop :=
  ∀ r t g m d, S.Stands kind t g m d → S.Ends kind t g m (runIn r (x g) t) (E d)

/-- The function is in one clause, if one is named: it changes that clause alone, and what it comes
to depends on that clause and the mode alone. -/
def Within (K : Option ClauseKind) (E : Desk → Result (α × Desk)) : Prop :=
  ∀ C ∈ K, ∀ o (st rest : Statements), E ⟨o, rest.withClause C st⟩ =
    (fun p => (p.1, ⟨o, rest.withClause C p.2.statements⟩)) <$> E ⟨o, st⟩

variable (S) in
/-- The action has a meaning, in one clause if one is named. -/
def Fills (kind : BuilderKind) (K : Option ClauseKind) (x : Nat → Action α) : Prop :=
  ∃ E, S.Means kind x E ∧ Within K E

variable {K : Option ClauseKind}

theorem Means.bind {x : Nat → Action α} {k : α → Nat → Action β} {E : Desk → Result (α × Desk)}
    {F : α → Desk → Result (β × Desk)} (hx : S.Means kind x E)
    (hk : ∀ a, S.Means kind (k a) (F a)) :
    S.Means kind (fun g => x g >>= fun a => k a g) fun d => E d >>= fun p => F p.1 p.2 := by
  intro r t g m d hd
  have hxd := hx r t g m d hd
  show S.Ends kind t g m (runIn r (x g >>= fun a => k a g) t) (E d >>= fun p => F p.1 p.2)
  rw [runIn_bind]
  generalize runIn r (x g) t = p at hxd
  generalize E d = y at hxd
  cases hxd with
  | error f t' => exact .error f t'
  | @ok a t' d' hspared hd' =>
    have hka := hk a r t' g m d' hd'
    show S.Ends kind t g m (runIn r (k a g) t') (F a d')
    generalize runIn r (k a g) t' = p at hka ⊢
    generalize F a d' = y at hka ⊢
    cases hka with
    | error f u => exact .error f u
    | ok hspared' hu => exact .ok (hspared.trans hspared') hu

theorem Within.none (E : Desk → Result (α × Desk)) : Within none E := fun _ hC => nomatch hC

/-- What is in one clause leaves the mode alone. -/
theorem Within.overwrite_eq {E : Desk → Result (α × Desk)} (h : Within K E) {C : ClauseKind}
    (hC : C ∈ K) {a : α} (hE : E d = .ok (a, d')) : d'.overwrite = d.overwrite := by
  have hself := h C hC d.overwrite d.statements d.statements
  rw [Statements.withClause_self] at hself
  replace hself := hE.symm.trans (hself.trans (congrArg _ hE))
  injection hself with hself
  injection hself with _ hself
  rw [hself]

theorem Within.bind {E : Desk → Result (α × Desk)} {F : α → Desk → Result (β × Desk)}
    (hE : Within K E) (hF : ∀ a, Within K (F a)) :
    Within K fun d => E d >>= fun p => F p.1 p.2 := by
  intro C hC o st rest
  dsimp only
  rw [hE C hC]
  cases hst : E ⟨o, st⟩ with
  | error f => rfl
  | ok p =>
    obtain ⟨a, d'⟩ := p
    obtain rfl : o = d'.overwrite := (hE.overwrite_eq hC hst).symm
    exact hF a C hC d'.overwrite d'.statements rest

namespace Fills

/-- An action that comes to the same in the whole scene. It may make new builders. -/
theorem const {x : Nat → Action α} (y : Result α)
    (h : ∀ r t g m d, S.Stands kind t g m d → ∃ t', runIn r (x g) t = (y, t') ∧ Grown t t') :
    S.Fills kind K x := by
  refine ⟨fun d => (fun a => (a, d)) <$> y, fun r t g m d hd => ?_, fun C _ o st rest => ?_⟩
  · obtain ⟨t', hrun, hgrown⟩ := h r t g m d hd
    rw [hrun]
    cases y with
    | error f => exact .error f t'
    | ok a => exact .ok (.ofGrown hgrown) (hd.grown hgrown)
  · cases y <;> rfl

protected theorem pure (a : α) : S.Fills kind K fun _ => (Pure.pure a : Action α) :=
  const (.ok a) fun _ t _ _ _ _ => ⟨t, rfl, .refl t⟩

protected theorem throw (f : Fault) : S.Fills kind K fun _ => (MonadExcept.throw f : Action α) :=
  const (.error f) fun _ t _ _ _ _ => ⟨t, rfl, .refl t⟩

protected theorem ofResult (y : Result α) : S.Fills kind K fun _ => Session.ofResult y :=
  const y fun _ t _ _ _ _ => ⟨t, runIn_ofResult y t, .refl t⟩

protected theorem bind {x : Nat → Action α} {k : α → Nat → Action β} (hx : S.Fills kind K x)
    (hk : ∀ a, S.Fills kind K (k a)) : S.Fills kind K fun g => x g >>= fun a => k a g := by
  obtain ⟨E, hE, hin⟩ := hx
  choose F hF hin' using hk
  exact ⟨_, hE.bind hF, hin.bind hin'⟩

theorem mapM {xs : List γ} {f : γ → Nat → Action α} (h : ∀ x ∈ xs, S.Fills kind K (f x)) :
    S.Fills kind K fun g => xs.mapM fun x => f x g := by
  induction xs with
  | nil => exact .pure []
  | cons x xs ih =>
    have hcons (g : Nat) : ((x :: xs).mapM fun x => f x g) = (do
        let y ← f x g
        let ys ← xs.mapM fun x => f x g
        pure (y :: ys)) := List.mapM_cons
    simp only [hcons]
    exact (h x List.mem_cons_self).bind fun y =>
      (ih fun z hz => h z (List.mem_cons_of_mem _ hz)).bind fun ys => .pure _

theorem forM {xs : List γ} {f : γ → Nat → Action PUnit} (h : ∀ x ∈ xs, S.Fills kind K (f x)) :
    S.Fills kind K fun g => xs.forM fun x => f x g := by
  induction xs with
  | nil => exact .pure _
  | cons x xs ih =>
    exact (h x List.mem_cons_self).bind fun _ =>
      ih fun z hz => h z (List.mem_cons_of_mem _ hz)

end Fills

/-! ## What is read -/

theorem fills_connectionOf : S.Fills kind K connectionOf := by
  refine .const (S.start.connection.elim (.error (.configuration .noConnection)) .ok)
    fun r t g m d hd => ⟨t, ?_, .refl t⟩
  rw [connectionOf, runIn_bind_ok (runIn_builder hd.builder)]
  cases S.start.connection <;> rfl

theorem fills_connection (c : Nat) : S.Fills kind K fun _ => Session.connection c := by
  refine .const (match S.session.connections[c]? with
    | some conn => .ok conn
    | none => .error (.misuse .missingAttribute)) fun r t g m d hd => ⟨t, ?_, .refl t⟩
  rw [Session.connection, runIn_bind_ok (runIn_get t), hd.spared.connections]
  cases S.session.connections[c]? <;> rfl

theorem fills_adapterOf : S.Fills kind K adapterOf :=
  fills_connectionOf.bind fun c => (fills_connection c).bind fun _ => .pure _

theorem fills_applyFilters (c : Nat) (name v : Value) :
    S.Fills kind K fun _ => applyFilters c name v := by
  refine (fills_connection c).bind fun conn => (Fills.ofResult _).bind fun names => ?_
  refine .const
    ((names.filterMap (Value.lookup S.session.functions)).foldlM (fun v f => f.apply v) v)
    fun r t g m d hd => ⟨t, ?_, .refl t⟩
  rw [runIn_bind_ok (runIn_get t), hd.spared.functions]
  exact runIn_ofResult _ t

theorem fills_tablePrefixOf : S.Fills kind K tablePrefixOf := by
  refine fills_connectionOf.bind fun c => (fills_connection c).bind fun conn => ?_
  dsimp only
  split
  · exact fills_applyFilters c _ _
  · exact .pure _

theorem fills_addPrefix (v : Value) (mixed : Bool) : S.Fills kind K fun g => addPrefix g v mixed :=
  fills_tablePrefixOf.bind fun _ => .ofResult _

theorem fills_addPrefixAll (vs : List Value) (mixed : Bool) :
    S.Fills kind K fun g => addPrefixAll g vs mixed :=
  (fills_addPrefix _ mixed).bind fun _ => .pure _

theorem fills_log (level : LogLevel) (logger message : String) :
    S.Fills kind K fun _ => log level logger message :=
  .const (.ok ()) fun _ t _ _ _ _ => ⟨_, rfl, .noted t _⟩

/-- The subquery of a builder elsewhere. -/
theorem fills_subQuery {id : Nat} (hid : S.Elsewhere id) :
    S.Fills kind K fun _ => subQuery id .null := by
  refine .const (S.session.subQueryOf id) fun r t g m d hd => ?_
  obtain ⟨x, st, -, -, hx, hst⟩ := hd.elsewhere hid
  obtain ⟨journal, hrun⟩ := runIn_subQuery (r := r) hx hst
  exact ⟨_, hd.subQueryOf_eq hid ▸ hrun, .noted t journal⟩

/-- The statements of a builder elsewhere. -/
theorem fills_statementsElsewhere {id : Nat} (hid : S.Elsewhere id) :
    S.Fills kind K fun _ => statementsOf id := by
  have hid' := hid
  obtain ⟨x, st, hx, -, hst⟩ := hid'
  refine .const (.ok st) fun r t g m d hd => ⟨t, ?_, .refl t⟩
  obtain ⟨x', st', hx', hst', ht, htst⟩ := hd.elsewhere hid
  cases hx.symm.trans hx'
  cases hst.symm.trans hst'
  exact runIn_statementsOf ht htst

theorem fills_overwrites : S.Fills kind K overwrites := by
  refine ⟨fun d => .ok (d.overwrite.isTrue, d), fun r t g m d hd => ?_, fun _ _ _ _ _ => rfl⟩
  rw [runIn_overwrites hd.builder]
  exact .ok (.ofGrown (.refl t)) hd

/-- What is looked up in the statements of the builder itself, in the clause that is filled. -/
theorem fills_read {f : Statements → α} {k : α → Nat → Action β}
    (hf : ∀ C ∈ K, ∀ st rest : Statements, f (rest.withClause C st) = f st)
    (hk : ∀ a, S.Fills kind K (k a)) :
    S.Fills kind K fun g => statementsOf g >>= fun st => k (f st) g := by
  choose E hE hin using hk
  refine ⟨fun d => E (f d.statements) d, fun r t g m d hd => ?_, fun C hC o st rest => ?_⟩
  · rw [runIn_bind_ok (runIn_statementsOf hd.builder hd.record)]
    exact hE _ r t g m d hd
  · dsimp only
    rw [hf C hC]
    exact hin _ C hC o st rest

theorem fills_statementsOf : S.Fills kind none statementsOf := by
  have h : S.Fills kind none fun g => statementsOf g >>= fun st => pure (id st) :=
    fills_read (k := fun st _ => pure st) nofun fun st => .pure st
  simpa only [id_eq, bind_pure] using h

/-- The kind of a builder is known. -/
theorem fills_kind {k : BuilderKind → Nat → Action α} (hk : S.Fills kind K (k kind)) :
    S.Fills kind K fun g => Session.builder g >>= fun x => k x.kind g := by
  obtain ⟨E, hE, hin⟩ := hk
  refine ⟨E, fun r t g m d hd => ?_, hin⟩
  rw [runIn_bind_ok (runIn_builder hd.builder)]
  exact hE r t g m d hd

/-! ## What is changed -/

/-- The statements of a builder change. -/
theorem Stands.edited (h : S.Stands kind t g m d) (f : Statements → Statements) :
    S.Stands kind { t with records := t.records.modify m f } g m
      { d with statements := f d.statements } := by
  refine h.after (.edited f) h.builder ?_
  show (t.records.modify m f)[m]? = _
  rw [Array.getElem?_modify, if_pos rfl, h.record]
  rfl

theorem runIn_edit {r : Reaction} (h : S.Stands kind t g m d) (f : Statements → Statements) :
    runIn r (edit g f) t = (.ok (), { t with records := t.records.modify m f }) :=
  Session.runIn_edit h.builder f

theorem fills_edit {f : Statements → Statements}
    (hf : ∀ C ∈ K, Statements.InClause C fun st => .ok (f st)) :
    S.Fills kind K fun g => edit g f := by
  refine ⟨fun d => .ok ((), { d with statements := f d.statements }), fun r t g m d hd => ?_,
    fun C hC o st rest => ?_⟩
  · rw [runIn_edit hd]
    exact .ok (.edited f) (hd.edited f)
  · exact congrArg (fun y => (fun st => ((), Desk.mk o st)) <$> y) (hf C hC st rest)

theorem fills_change {f : Statements → Result Statements}
    (hf : ∀ C ∈ K, Statements.InClause C f) : S.Fills kind K fun g => change g f := by
  refine ⟨fun d => (fun st => ((), { d with statements := st })) <$> f d.statements,
    fun r t g m d hd => ?_, fun C hC o st rest => ?_⟩
  · dsimp only
    rw [change, runIn_bind_ok (runIn_statementsOf hd.builder hd.record)]
    cases f d.statements with
    | error e => exact .error e t
    | ok st =>
      show S.Ends kind t g m (runIn r (edit g fun _ => st) t) _
      rw [runIn_edit hd]
      exact .ok (.edited _) (hd.edited fun _ => st)
  · show _ <$> f (rest.withClause C st) = _ <$> _ <$> f st
    rw [hf C hC]
    cases f st <;> rfl

theorem fills_tryEdit {f : Statements → Option Statements}
    (hf : ∀ C ∈ K, Statements.InClause C (Statements.tried f)) :
    S.Fills kind K fun g => tryEdit g f :=
  fills_change hf

theorem fills_setOverwrite (o : Value) : S.Fills kind none fun g =>
    updateBuilder g fun builder => { builder with overwrite := o } := by
  refine ⟨fun d => .ok ((), { d with overwrite := o }), fun r t g m d hd => ?_, .none _⟩
  refine .ok (.updated _) (hd.after (.updated _) ?_ hd.record)
  show (t.builders.modify g _)[g]? = _
  rw [Array.getElem?_modify, if_pos rfl, hd.builder]
  rfl

/-! ## New builders -/

/-- What is done with a new builder. -/
theorem Fills.fresh {kind' : BuilderKind} {body : Nat → Action α} (h : S.Fills kind' none body) :
    S.Fills kind K fun g => (do
      let q ← newBuilder (← connectionOf g) kind' .empty
      body q) := by
  obtain ⟨E, hE, -⟩ := h
  refine ⟨fun d => S.start.connection.elim (.error (.configuration .noConnection))
      fun _ => (fun p => (p.1, d)) <$> E freshDesk,
    fun r t g m d hd => ?_, fun C _ o st rest => ?_⟩
  · dsimp only
    rw [connectionOf, bind_assoc, runIn_bind_ok (runIn_builder hd.builder)]
    cases hc : S.start.connection with
    | none => exact .error _ t
    | some c =>
      show S.Ends kind t g m (runIn r (body t.builders.size) (t.withBuilder c kind' .empty))
        ((fun p => (p.1, d)) <$> E freshDesk)
      have hbody := hE r _ _ _ _ (hd.fresh hc kind')
      generalize runIn r (body _) _ = p at hbody ⊢
      generalize E freshDesk = y at hbody ⊢
      cases hbody with
      | error f t' => exact .error f t'
      | ok hspared _ =>
        have hgrown := hspared.grownNew (grown_withBuilder t c kind' .empty) (Nat.le_refl _)
          (Nat.le_refl _)
        exact .ok (.ofGrown hgrown) (hd.grown hgrown)
  · dsimp only
    cases S.start.connection with
    | none => rfl
    | some c => cases E freshDesk <;> rfl

end Scene

end SqlBuilder
