import SqlBuilder.Proofs.Frame.Calls
import SqlBuilder.Proofs.Transaction.Programs

/-!
# Programs are framed

What a licence allows keeps what a frame of that licence knows, at any depth: arguments, callbacks,
transactions, and what listeners do (`Frame.reacts_reaction`). So it holds of every session that a
program reaches (`Program.holds_reached`).
-/

set_option autoImplicit false

namespace SqlBuilder

open Session

variable {α : Type} {F : Frame}

namespace Program

/-- The session after a program, with events nested up to a depth. -/
def reached (p : Program) (depth : Nat) : Session :=
  (runIn (reaction depth) (do runSteps p.steps (← p.start)) p.session).2

/-! ## Answers -/

theorem framed_conclude (earlier : List Answer) (outcome : Outcome) :
    Framed F (conclude earlier outcome) :=
  framed_apart fun _ => ⟨rfl, rfl, rfl, rfl, rfl, rfl, rfl, rfl⟩

theorem framed_settle {record : Option Nat} (h : ∀ n ∈ record, F.works n) :
    Framed F (settle record) :=
  framed_modify fun s hs => by
    cases record with
    | none => exact hs
    | some n =>
      exact ⟨hs.sane.settled n, hs.heard.of_eq (s.settled_connections n) (s.settled_functions n),
        F.settle hs.inv (h n rfl)⟩

/-- A builder that acts works on what acting builders work on. -/
theorem works_of_recordOf {s : Session} (hs : F.Holds s) {current : Option Nat}
    (hcurrent : ∀ b ∈ current, F.acts b) : ∀ n ∈ s.recordOf current, F.works n := by
  intro n hn
  obtain ⟨b, hb, hn⟩ := Option.bind_eq_some_iff.1 hn
  obtain ⟨x, hx, rfl⟩ := Option.map_eq_some_iff.1 hn
  exact F.working hs.inv (hcurrent b hb) hx

theorem framedWith_told {Q : Output → Prop} {current : Option Nat} {step : Action Output}
    (hcurrent : ∀ b ∈ current, F.acts b) (h : FramedWith F Q step) :
    FramedWith F (fun ended => Q ended.1) (told current step) := by
  refine Reads.get.andThenAt fun r s s₀ hr hs hs₀ => ?_
  cases hs₀
  have hsettled : FramedWith F (fun ended : Output × Outcome => Q ended.1) (do
      let ended ← outcomeOf step
      settle (s.recordOf current)
      let output ← ofResult ended
      pure (output, ← outcome current output)) :=
    h.outcomeOf.bind fun ended hended => (framed_settle (works_of_recordOf hs hcurrent)).bind
      fun _ => (FramedWith.ofResult hended).bind fun output houtput =>
        (reads_outcome current output).andThen fun _ => .pure houtput
  exact hsettled r s hr hs

theorem framedWith_answered {Q : Output → Prop} {R : Option Nat → Prop} {current : Option Nat}
    {step : Action Output} (hcurrent : ∀ b ∈ current, F.acts b) (h : FramedWith F Q step)
    (hnext : ∀ output, Q output → R (next current output)) :
    FramedWith F R (answered current step) := by
  have hcleared : Framed F (modify fun s : Session => { s with answers := [] }) :=
    framed_apart fun _ => ⟨rfl, rfl, rfl, rfl, rfl, rfl, rfl, rfl⟩
  refine Reads.get.andThen fun s => hcleared.bind fun _ =>
    (framedWith_told hcurrent h).outcomeOf.bind fun ended hended => ?_
  cases ended with
  | error f => exact (framed_conclude _ _).bind fun _ => .throw _
  | ok a => exact (framed_conclude _ _).bind fun _ => .pure (hnext _ (hended a rfl))

/-- Whoever is current after a step acts. -/
theorem next_acts {current : Option Nat} (hcurrent : ∀ b ∈ current, F.acts b) (output : Output)
    (h : output.Acts F) : ∀ b ∈ next current output, F.acts b := by
  cases output with
  | builder b? =>
    rintro b rfl
    exact h
  | _ => exact hcurrent

/-! ## Steps that are not calls -/

theorem framedWith_present {current : Option Nat} (h : ∀ b ∈ current, F.acts b) :
    FramedWith F F.acts (present current) := by
  cases current with
  | none => exact .throw _
  | some b => exact .pure (h b rfl)

theorem framedWith_freshBuilder : FramedWith F F.acts freshBuilder := by
  refine Reads.get.andThenAt fun r s s₀ hr hs hs₀ => ?_
  cases hs₀
  split
  · rename_i c hc
    exact framedFrom_newBuilder c _ F.empty r s hr hs (hs.sane.connected c (.inr (.inl hc)))
  · exact FramedWith.throw _ r s hr hs

theorem framedWith_transact {b : Nat} (hb : F.acts b) {callback : Operand} (h : callback.Framed F) :
    FramedWith F (Output.Acts F) (transact b callback) :=
  (Builder.framed_transaction b (h.apply hb) fun _ ht => h.apply ht).bind fun _ => .pure trivial

/-- The builder is moved to a connection that is there, or to none. -/
theorem framedWith_setConnection {b : Nat} (hb : F.acts b) (second : Bool) :
    FramedWith F (Output.Acts F) (do
      let s ← get
      updateBuilder b fun builder =>
        { builder with connection := if second then s.second else s.first }
      pure (.builder (some b))) := by
  refine Reads.get.andThenAt fun r s s₀ _ hs hs₀ => ?_
  cases hs₀
  refine ⟨⟨hs.sane.update b (fun _ => rfl) fun x c hc => .inr (hs.sane.connected c (.inr ?_)),
    ⟨hs.heard.unheard, hs.heard.functions⟩, F.update hs.inv hb fun _ => rfl⟩, ?_⟩
  · dsimp only at hc
    split at hc
    · exact .inr (.inl hc)
    · exact .inl hc
  · rintro _ ⟨⟩
    exact hb

/-- The builder works on the statements of another one from now on. -/
theorem framedWith_share (hl : F.licence.roams = true) {b : Nat} (hb : F.acts b) (b' : Nat) :
    FramedWith F (Output.Acts F) (do
      setRecord b (← builder b').record
      pure (.builder (some b))) := by
  refine (reads_builder b').andThenAt fun r s y _ hs hy => ?_
  refine ⟨⟨hs.sane.rerecorded b (hs.sane.recorded b' y (builder_eq hy)),
    ⟨hs.heard.unheard, hs.heard.functions⟩, F.share hl hs.inv⟩, ?_⟩
  rintro _ ⟨⟩
  exact hb

/-- The record of a member is there, or it gets one. -/
theorem runIn_memberRecord (r : Reaction) (s : Session) (e : UnionEntry) :
    (∃ n, (e.identity, n) ∈ s.members ∧ runIn r (memberRecord e) s = (.ok n, s)) ∨
      runIn r (memberRecord e) s = (.ok s.records.size, s.adopted e) := by
  rw [memberRecord, runIn_bind_ok (runIn_get s)]
  cases hmember : s.members.lookup e.identity with
  | some n =>
    obtain ⟨front, back, hmembers, -⟩ := List.lookup_eq_some_iff.1 hmember
    exact .inl ⟨n, by simp [hmembers], rfl⟩
  | none => exact .inr rfl

/-- The builder works on the statements of a member from now on. -/
theorem framedWith_shareMember (hroams : F.licence.roams = true) (hgives : F.licence.gives = true)
    (hadopts : F.licence.adopts = true) {b : Nat} (hb : F.acts b) (e : UnionEntry) :
    FramedWith F (Output.Acts F) (do
      setRecord b (← memberRecord e)
      pure (.builder (some b))) := by
  have hset {s : Session} (hs : F.Holds s) {n : Nat} (hn : n < s.records.size) :
      F.Holds (s.rerecorded b n) :=
    ⟨hs.sane.rerecorded b hn, ⟨hs.heard.unheard, hs.heard.functions⟩, F.share hroams hs.inv⟩
  intro r s hr hs
  have hacts : ∀ output, (.ok (.builder (some b)) : Result Output) = .ok output →
      output.Acts F := by
    rintro _ ⟨⟩
    exact hb
  rcases runIn_memberRecord r s e with ⟨n, hmember, hrun⟩ | hrun
  · rw [FramedAt, runIn_bind_ok hrun]
    exact ⟨hset hs (hs.sane.shared _ hmember), hacts⟩
  · have hadopted : F.Holds (s.adopted e) :=
      ⟨hs.sane.adopted e, ⟨hs.heard.unheard, hs.heard.functions⟩, F.adopt hgives hadopts hs.inv⟩
    have hlt : s.records.size < (s.adopted e).records.size := by
      show s.records.size < (s.records.push e.statements).size
      rw [Array.size_push]
      exact Nat.lt_succ_self _
    rw [FramedAt, runIn_bind_ok hrun]
    exact ⟨hset hadopted hlt, hacts⟩

/-- A connection that is there gets a name. -/
theorem framedFrom_named {c : Nat} {f : Session → Session}
    (h : ∀ s, F.Holds s → c < s.connections.size → F.Holds (f s)) :
    FramedFrom F c (fun _ => True) (modify f) :=
  fun _ s _ hs hc => ⟨h s hs hc, fun _ _ => trivial⟩

/-! ## Arguments and steps -/

theorem framedWith_value (v : Value) : FramedWith F (Operand.Framed F) (pure (.value v)) :=
  .pure (Operand.framed_value v)

mutual

theorem framedWith_evaluate : (a : Arg) → a.allowed F.licence = true →
    FramedWith F (Operand.Framed F) (evaluate a)
  | .callback steps, h => by
    rw [evaluate]
    rw [Arg.allowed] at h
    exact framed_newObject.bind fun n => .pure fun b hb => framed_runAll steps h (by simpa using hb)
  | .value v, h => by
    rw [evaluate]
    exact framed_newObject.bind fun n => framedWith_value _
  | .list items, h => by
    rw [evaluate]
    rw [Arg.allowed] at h
    exact (framed_evaluateItems items h).bind fun _ => framedWith_value _
  | .tuple items, h => by
    rw [evaluate]
    rw [Arg.allowed] at h
    exact (framed_evaluateItems items h).bind fun _ => framedWith_value _
  | .map entries, h => by
    rw [evaluate]
    rw [Arg.allowed] at h
    exact (framed_evaluateEntries entries h).bind fun _ => framedWith_value _
  | .record kind fields, h => by
    rw [evaluate]
    rw [Arg.allowed] at h
    refine (framed_evaluateFields fields h).bind fun fields => ?_
    split
    · exact framedWith_value _
    · exact .throw _
  | .raw sql bindings, h => by
    rw [evaluate]
    rw [Arg.allowed, Bool.and_eq_true] at h
    exact (framedWith_evaluate sql h.1).bind fun _ _ =>
      (framedWith_evaluate bindings h.2).bind fun _ _ => framedWith_value _
  | .member className name value, h => by
    rw [evaluate]
    rw [Arg.allowed] at h
    exact (framedWith_evaluate value h).bind fun _ _ => framed_newObject.bind fun _ =>
      framedWith_value _
  | .aliased expression name, h => by
    rw [evaluate]
    rw [Arg.allowed, Bool.and_eq_true] at h
    exact (framedWith_evaluate expression h.1).bind fun _ _ =>
      (framedWith_evaluate name h.2).bind fun _ _ => framedWith_value _
  | .group conditions, h => by
    rw [evaluate]
    rw [Arg.allowed] at h
    exact (framed_evaluateItems conditions h).bind fun _ => (Reads.ofResult _).andThen fun _ =>
      framedWith_value _
  | .column parts fields modifiers, h => by
    rw [evaluate]
    rw [Arg.allowed, Bool.and_eq_true, Bool.and_eq_true] at h
    exact (framed_evaluateItems parts h.1.1).bind fun _ =>
      (framed_evaluateFields fields h.1.2).bind fun _ => (Reads.ofResult _).andThen fun c =>
        (framed_modified c modifiers h.2).bind fun _ => framedWith_value _
  | .kept name, _ => by
    rw [evaluate]
    exact (reads_keptBuilder name).andThen fun _ => (reads_optionalValue _).andThen fun _ =>
      framedWith_value _
  | .query steps, h => by
    rw [evaluate]
    rw [Arg.allowed] at h
    exact framedWith_freshBuilder.bind fun b hb =>
      (framed_applyAll steps h (by simpa using hb)).bind fun _ =>
        (reads_optionalValue _).andThen fun _ => framedWith_value _

theorem framed_evaluateItems : (as : List Arg) → allowedArgs F.licence as = true →
    Framed F (evaluateItems as)
  | [], _ => by
    rw [evaluateItems]
    exact .pure trivial
  | a :: as, h => by
    rw [evaluateItems]
    rw [allowedArgs, Bool.and_eq_true] at h
    exact (framedWith_evaluate a h.1).bind fun _ _ =>
      (framed_evaluateItems as h.2).bind fun _ => .pure trivial

theorem framed_evaluateEntries : (entries : List (Arg × Arg)) →
    allowedEntries F.licence entries = true → Framed F (evaluateEntries entries)
  | [], _ => by
    rw [evaluateEntries]
    exact .pure trivial
  | (k, a) :: rest, h => by
    rw [evaluateEntries]
    rw [allowedEntries, Bool.and_eq_true, Bool.and_eq_true] at h
    exact (framedWith_evaluate k h.1.1).bind fun _ _ =>
      (framedWith_evaluate a h.1.2).bind fun _ _ => framedWith_unless fun _ =>
        (framed_evaluateEntries rest h.2).bind fun _ => .pure trivial

theorem framed_evaluateFields : (fields : List (String × Arg)) →
    allowedFields F.licence fields = true → Framed F (evaluateFields fields)
  | [], _ => by
    rw [evaluateFields]
    exact .pure trivial
  | (name, a) :: rest, h => by
    rw [evaluateFields]
    rw [allowedFields, Bool.and_eq_true] at h
    exact (framedWith_evaluate a h.1).bind fun _ _ =>
      (framed_evaluateFields rest h.2).bind fun _ => .pure trivial

theorem framed_evaluateProvisions : (provisions : List (Provision × Arg)) →
    allowedProvisions F.licence provisions = true → Framed F (evaluateProvisions provisions)
  | [], _ => by
    rw [evaluateProvisions]
    exact .pure trivial
  | (what, a) :: rest, h => by
    rw [evaluateProvisions]
    rw [allowedProvisions, Bool.and_eq_true] at h
    exact (framedWith_evaluate a h.1).bind fun _ _ =>
      (framed_evaluateProvisions rest h.2).bind fun _ => .pure trivial

theorem framed_modified (c : Column) : (modifiers : List (Column.Modifier × List Arg)) →
    allowedModifiers F.licence modifiers = true → Framed F (modified c modifiers)
  | [], _ => by
    rw [modified]
    exact .pure trivial
  | (m, args) :: rest, h => by
    rw [modified]
    rw [allowedModifiers, Bool.and_eq_true] at h
    exact (framed_evaluateItems args h.1).bind fun _ => (Reads.ofResult _).andThen fun c =>
      framed_modified c rest h.2

theorem framedWith_evaluateAll : (as : List Arg) → allowedArgs F.licence as = true →
    FramedWith F (Call.Fitting F) (evaluateAll as)
  | [], _ => by
    rw [evaluateAll]
    exact .pure nofun
  | a :: as, h => by
    rw [evaluateAll]
    rw [allowedArgs, Bool.and_eq_true] at h
    refine (framedWith_evaluate a h.1).bind fun op hop =>
      (framedWith_evaluateAll as h.2).bind fun ops hops => .pure ?_
    intro x hx
    rcases List.mem_cons.1 hx with rfl | hx
    · exact hop
    · exact hops x hx

theorem framedWith_perform : (step : Step) → step.allowed F.licence = true →
    {current : Option Nat} → (∀ b ∈ current, F.acts b) →
      FramedWith F (Output.Acts F) (perform step current)
  | .call m args, h, _, hcurrent => by
    rw [perform]
    rw [Step.allowed] at h
    exact (Call.reads_find m _).andThen fun _ =>
      (framedWith_evaluateAll args h).bind fun _ hargs => Call.framedWith_perform m hcurrent hargs
  | .transaction true callback, h, _, _ => by
    rw [perform]
    rw [Step.allowed] at h
    exact (framedWith_evaluate callback h).bind fun _ hcallback =>
      Call.framedWith_standingBuilder.bind fun b hb => framedWith_transact hb hcallback
  | .transaction false callback, h, current, hcurrent => by
    rw [perform]
    rw [Step.allowed] at h
    exact (framedWith_present hcurrent).bind fun b hb =>
      (framedWith_evaluate callback h).bind fun _ hcallback => framedWith_transact hb hcallback
  | .raise message, h, _, _ => by
    rw [perform]
    rw [Step.allowed] at h
    exact (framedWith_evaluate message h).bind fun _ _ => .throw _
  | .attempt step, h, current, hcurrent => by
    rw [perform]
    rw [Step.allowed] at h
    refine (framedWith_told hcurrent (framedWith_perform step h hcurrent)).outcomeOf.bind
      fun ended hended => ?_
    cases ended with
    | error f => exact .pure trivial
    | ok a => exact .pure (hended a rfl)
  | .keep name, _, current, _ => by
    rw [perform]
    refine Framed.bind (framed_apart fun _ => ?_) fun _ => .pure trivial
    exact ⟨rfl, rfl, rfl, rfl, rfl, rfl, rfl, rfl⟩
  | .use name, h, _, _ => by
    rw [perform]
    rw [Step.allowed] at h
    refine (reads_keptBuilder name).andThen fun b? => ?_
    cases b? with
    | none => exact .pure trivial
    | some b => exact .pure (F.everyone (.inl h) b)
  | .setStatements s, h, current, hcurrent => by
    rw [perform]
    rw [Step.allowed, Bool.and_eq_true] at h
    exact (framedWith_present hcurrent).bind fun b hb => (framedWith_evaluate s h.2).bind fun _ _ =>
      (Reads.ofResult _).andThen fun _ => framed_newObject.bind fun _ =>
        framedWith_replace hb (F.give h.1) (.pure hb)
  | .shareStatements name, h, current, hcurrent => by
    rw [perform]
    rw [Step.allowed] at h
    exact (framedWith_present hcurrent).bind fun b hb => (reads_keptBuilder name).andThen fun b? =>
      (Reads.present b?).andThen fun b' => framedWith_share h hb b'
  | .shareMember name place, h, current, hcurrent => by
    rw [perform]
    rw [Step.allowed, Bool.and_eq_true, Bool.and_eq_true] at h
    exact (framedWith_present hcurrent).bind fun b hb => (reads_keptBuilder name).andThen fun b? =>
      (Reads.present b?).andThen fun b' => (reads_statementsOf b').andThen fun _ =>
        (Reads.ofResult _).andThen fun e => framedWith_shareMember h.1.1 h.1.2 h.2 hb e
  | .copyStatements name, _, current, hcurrent => by
    rw [perform]
    exact (framedWith_present hcurrent).bind fun b hb => (reads_keptBuilder name).andThen fun b? =>
      (Reads.present b?).andThen fun b' => (framedWith_statementsOf b').bind fun _ hst =>
        FramedWith.bind (FramedWith.ofResult fun _ => F.copy hst) fun _ hcopy =>
          framedWith_replace hb hcopy (.pure hb)
  | .setConnection second, _, current, hcurrent => by
    rw [perform]
    exact (framedWith_present hcurrent).bind fun b hb => framedWith_setConnection hb second
  | .trace on, _, _, _ => by
    rw [perform]
    refine Framed.bind (framed_apart fun _ => ?_) fun _ => .pure trivial
    exact ⟨rfl, rfl, rfl, rfl, rfl, rfl, rfl, rfl⟩
  | .configure what v, h, _, _ => by
    rw [perform]
    rw [Step.allowed] at h
    exact reads_firstConnection.andThen fun c => (framedWith_evaluate v h).bind fun _ _ =>
      (framed_configure c what _).bind fun _ => .pure trivial
  | .connect settings provisions, h, _, _ => by
    rw [perform]
    rw [Step.allowed, Bool.and_eq_true] at h
    have hforgotten : Framed F (modify fun s : Session => { s with first := none }) := by
      refine framed_modify fun s hs => hs.named rfl rfl rfl rfl rfl fun c hc => ?_
      rcases hc with hc | hc
      · cases hc
      · exact hs.sane.connected c (.inr (.inr hc))
    refine hforgotten.bind fun _ => (framed_evaluateFields settings h.1).bind fun _ =>
      (Reads.ofResult _).andThen fun _ => (framed_evaluateProvisions provisions h.2).bind fun _ =>
        (Reads.ofResult _).andThen fun _ => framedWith_connect _ _ fun c =>
          (framedFrom_named fun s hs hc => ?_).bind fun _ _ => .pure trivial
    refine hs.named rfl rfl rfl rfl rfl fun c' hc' => ?_
    rcases hc' with hc' | hc' | hc'
    · exact (Option.some_inj.1 hc') ▸ hc
    · exact hs.sane.connected c' (.inr (.inr (.inl hc')))
    · exact (Option.some_inj.1 hc') ▸ hc
  | .addListener event id behaviour answersTrue, h, _, _ => by
    rw [perform]
    rw [Step.allowed, Bool.and_eq_true, Bool.and_eq_true, Bool.and_eq_true] at h
    obtain ⟨⟨⟨hl, hevent⟩, hid⟩, hbehaviour⟩ := h
    have hlistener : FramedWith F (fun f => f.allowed F.licence = true)
        (pure (.listener behaviour) : Action Function) :=
      .pure hbehaviour
    refine reads_firstConnection.andThen fun c => (framedWith_evaluate event hevent).bind fun _ _ =>
      (framedWith_evaluate id hid).bind fun _ _ =>
        (framed_introduce _ hlistener).bind fun _ =>
          (Call.framed_updateHooks c fun _ _ _ hnone _ => ?_).bind fun _ => .pure trivial
    rw [hl] at hnone
    cases hnone
  | .addFilter name id kind operand, h, _, _ => by
    rw [perform]
    rw [Step.allowed, Bool.and_eq_true, Bool.and_eq_true] at h
    have hfilter : FramedWith F (fun f => f.allowed F.licence = true) (do
        pure (.filter ⟨kind, (← evaluate operand).plain⟩) : Action Function) :=
      (framedWith_evaluate operand h.2).bind fun _ _ => .pure rfl
    refine reads_firstConnection.andThen fun c => (framedWith_evaluate name h.1.1).bind fun _ _ =>
      (framedWith_evaluate id h.1.2).bind fun _ _ => (framed_introduce _ hfilter).bind fun _ =>
        (Call.framed_updateHooks c fun _ _ hadded _ hactions => ?_).bind fun _ => .pure trivial
    exact addFilter_actions hadded ▸ hactions

theorem framed_applyAll : (steps : List Step) → allowedSteps F.licence steps = true →
    {current : Option Nat} → (∀ b ∈ current, F.acts b) → Framed F (applyAll steps current)
  | [], _, _, _ => by
    rw [applyAll]
    exact .pure trivial
  | step :: steps, h, _, hcurrent => by
    rw [applyAll]
    rw [allowedSteps, Bool.and_eq_true] at h
    exact (framedWith_told hcurrent (framedWith_perform step h.1 hcurrent)).bind fun ended hended =>
      framed_applyAll steps h.2 (next_acts hcurrent _ hended)

theorem framed_runAll : (steps : List Step) → allowedSteps F.licence steps = true →
    {current : Option Nat} → (∀ b ∈ current, F.acts b) → Framed F (runAll steps current)
  | [], _, _, _ => by
    rw [runAll]
    exact .pure trivial
  | step :: steps, h, _, hcurrent => by
    rw [runAll]
    rw [allowedSteps, Bool.and_eq_true] at h
    exact (framedWith_answered (R := fun b? => ∀ b ∈ b?, F.acts b) hcurrent
      (framedWith_perform step h.1 hcurrent) (next_acts hcurrent)).bind
        fun _ hnext => framed_runAll steps h.2 hnext

end

/-- So it is with a call that leaves the builder as it is, whether the builder acts or not. -/
theorem framed_spared {m : BuilderMethod} (hm : m.spares = true) {args : List Arg}
    (hargs : allowedArgs F.licence args = true) (current : Option Nat) :
    Framed F (perform (.call (.builder m) args) current) := by
  rw [perform]
  exact (Call.reads_find _ _).andThen fun _ => (framedWith_evaluateAll args hargs).bind fun ops _ =>
    Call.framed_performSpared hm current ops

/-! ## Programs -/

theorem framed_runSteps (steps : List Step) (h : allowedSteps F.licence steps = true)
    {current : Option Nat} (hcurrent : ∀ b ∈ current, F.acts b) :
    Framed F (runSteps steps current) := by
  induction steps generalizing current with
  | nil => exact .pure trivial
  | cons step steps ih =>
    rw [allowedSteps, Bool.and_eq_true] at h
    refine (framedWith_answered (R := fun b? => ∀ b ∈ b?, F.acts b) hcurrent
      (framedWith_perform step h.1 hcurrent) (next_acts hcurrent)).outcomeOf.bind
        fun ended hended => ?_
    cases ended with
    | error f => exact ih h.2 hcurrent
    | ok current' => exact ih h.2 (hended current' rfl)

theorem framedWith_connectTo {Q : α → Prop} {target : Target}
    (h : target.allowed F.licence = true) {k : Nat → Action α} (hk : ∀ c, FramedFrom F c Q (k c)) :
    FramedWith F Q (connectTo target >>= k) := by
  rw [Target.allowed, Bool.and_eq_true] at h
  simp only [connectTo, bind_assoc]
  exact (framed_evaluateFields _ h.1).bind fun _ => (Reads.ofResult _).andThen fun _ =>
    (framed_evaluateProvisions _ h.2).bind fun _ => (Reads.ofResult _).andThen fun _ =>
      framedWith_connect _ _ hk

/-- A connection is made, or none, and gets a name. -/
theorem framedWith_named {Q : α → Prop} {target? : Option Target}
    (h : target?.all (·.allowed F.licence) = true) {f : Option Nat → Session → Session}
    (hf : ∀ (c? : Option Nat) (s : Session), F.Holds s → (∀ c ∈ c?, c < s.connections.size) →
      F.Holds (f c? s)) {k : Action α} (hk : FramedWith F Q k) :
    FramedWith F Q (target?.mapM connectTo >>= fun c? => modify (f c?) >>= fun _ => k) := by
  cases target? with
  | none =>
    refine FramedWith.bind (Q := fun c? => c? = none) (FramedWith.pure rfl) ?_
    rintro _ rfl
    exact (framed_modify fun s hs => hf none s hs nofun).bind fun _ => hk
  | some target =>
    rw [Option.mapM_some, map_eq_pure_bind, bind_assoc]
    refine framedWith_connectTo h fun c => FramedFrom.after (FramedWith.pure rfl) ?_
    rintro _ rfl
    refine FramedFrom.bind (framedFrom_named fun s hs hc => hf (some c) s hs ?_) fun _ _ => hk
    rintro _ ⟨⟩
    exact hc

/-- The builder of a program with a connection to start from. -/
def startingBuilder (p : Program) : Action (Option Nat) :=
  match p.first with
  | some _ => some <$> freshBuilder
  | none => pure none

theorem framedWith_start {p : Program} (h : p.allowed F.licence = true) :
    FramedWith F (fun b? => ∀ b ∈ b?, F.acts b) p.start := by
  rw [Program.allowed, Bool.and_eq_true, Bool.and_eq_true] at h
  obtain ⟨⟨hfirst, hsecond⟩, -⟩ := h
  have hlast : FramedWith F (fun b? => ∀ b ∈ b?, F.acts b) p.startingBuilder := by
    unfold startingBuilder
    cases p.first with
    | none =>
      refine .pure fun b hb => ?_
      cases hb
    | some _ =>
      dsimp only
      rw [map_eq_pure_bind]
      refine framedWith_freshBuilder.bind fun b hb => .pure ?_
      rintro _ ⟨⟩
      exact hb
  have hstart : p.start = p.first.join.mapM connectTo >>= fun first =>
      modify (fun s => { s with first }) >>= fun _ => p.second.mapM connectTo >>= fun second =>
        modify (fun s => { s with second }) >>= fun _ => p.startingBuilder := by
    unfold start startingBuilder
    obtain _ | _ | target := p.first <;> rfl
  rw [hstart]
  refine framedWith_named hfirst (fun c? s hs hc => ?_) (framedWith_named hsecond
    (fun c? s hs hc => ?_) hlast)
  · refine hs.named rfl rfl rfl rfl rfl fun c hnamed => ?_
    rcases hnamed with hnamed | hnamed
    · exact hc c hnamed
    · exact hs.sane.connected c (.inr (.inr hnamed))
  · refine hs.named rfl rfl rfl rfl rfl fun c hnamed => ?_
    rcases hnamed with hnamed | hnamed | hnamed
    · exact hs.sane.connected c (.inr (.inl hnamed))
    · exact hc c hnamed
    · exact hs.sane.connected c (.inr (.inr (.inr hnamed)))

/-! ## Listeners -/

theorem framed_listen {steps : List Step} (hsteps : allowedSteps F.licence steps = true)
    {b : Option Nat} (hb : ∀ b' ∈ b, F.acts b') : Framed F (listen steps b) := by
  refine Reads.get.andThenAt fun r s s₀ hr hs hs₀ => ?_
  cases hs₀
  exact ((framed_settle (works_of_recordOf hs hb)).bind fun _ => framed_runAll steps hsteps hb) r s
    hr hs

/-- What listeners do is a program of its own, which may call listeners again. -/
theorem reacts_reaction (F : Frame) (depth : Nat) : F.Reacts (reaction depth) := by
  induction depth with
  | zero => exact fun _ _ _ _ _ hs => ⟨hs, Nat.le_refl _⟩
  | succ depth ih =>
    intro hl steps hsteps b s hs
    have hevery {G : Frame} (h : G.acts = F.acts) : ∀ b' ∈ b, G.acts b' := fun b' _ =>
      h ▸ F.everyone (.inr hl) b'
    refine ⟨(framed_listen hsteps (hevery rfl) _ s ih hs).1, Nat.le_of_not_lt fun hlost => ?_⟩
    have hreached := (framed_listen (F := F.reaching _) hsteps (hevery rfl) _ s (ih.reaching _)
      (hs.reaching hlost)).1
    exact Nat.lt_irrefl _ hreached.inv.2

/-! ## Reached sessions -/

theorem holds_session {p : Program} (h : F.inv p.session) : F.Holds p.session :=
  ⟨.empty rfl rfl rfl rfl rfl, ⟨fun _ c conn hconn => by simp [session] at hconn, nofun⟩, h⟩

/-- What a frame knows of the session a program starts in, it knows of the one it reaches. -/
theorem holds_reached {p : Program} (h : p.allowed F.licence = true) (hs : F.inv p.session)
    (depth : Nat) : F.Holds (p.reached depth) := by
  have hsteps : allowedSteps F.licence p.steps = true := by
    rw [Program.allowed, Bool.and_eq_true] at h
    exact h.2
  have hrun : Framed F (do runSteps p.steps (← p.start)) :=
    (framedWith_start h).bind fun _ hcurrent => framed_runSteps p.steps hsteps hcurrent
  exact (hrun _ _ (reacts_reaction F depth) (holds_session hs)).1

end Program

/-! ## What is known of all statements -/

/-- The frame in which all builders act and all statements are sound. Whatever is given has to be
sound, and what is done to sound statements has to leave them so. No member of a union has a record
where nobody works on one. -/
def Frame.everywhere (licence : Licence) (sound : Statements → Prop)
    (give : ∀ {st : Statements}, licence.gives = true → sound st) (empty : sound .empty)
    (copy : ∀ {st st' : Statements}, sound st → st.copied = .ok st' → sound st')
    (reshape : ∀ {st st' : Statements}, sound st → st.Reshaped st' → sound st')
    (tell : ∀ {st : Statements} {path : List Nat}, sound st → sound (st.toldApart path))
    (unite : ∀ {st st' union : Statements} {name : String}, sound st → sound st' →
      name ∈ ValidationCause.unionTypes → st.addUnion st' (.text name) = .ok union → sound union) :
    Frame where
  licence := licence
  inv s := (∀ (n : Nat) (st : Statements), s.records[n]? = some st → sound st) ∧
    ((licence.gives && licence.adopts) = false → s.members = [])
  acts _ := True
  works _ := True
  sound := sound
  everyone _ _ := trivial
  give := give
  read h hst := h.1 _ _ hst
  working _ _ _ := trivial
  kept h _ _ hrecords hmembers := ⟨hrecords ▸ h.1, hmembers ▸ h.2⟩
  modify h _ := h
  push h := h
  build _ h hst := by
    refine ⟨fun n st hn => ?_, h.2⟩
    rcases getElem?_push_cases hn with hn | ⟨-, rfl⟩
    · exact h.1 n st hn
    · exact hst
  fresh _ := trivial
  edit h _ _ hf := by
    refine ⟨fun n st hn => ?_, h.2⟩
    obtain ⟨st', hst', rfl | ⟨-, rfl⟩⟩ := getElem?_modify_cases hn
    · exact h.1 n _ hst'
    · exact hf st' (h.1 n st' hst')
  update h _ _ := h
  replace _ h _ hst := by
    refine ⟨fun n st hn => ?_, h.2⟩
    rcases getElem?_push_cases hn with hn | ⟨-, rfl⟩
    · exact h.1 n st hn
    · exact hst
  share _ h := h
  adopt hgives hadopts _ := ⟨fun _ _ _ => give hgives, by simp [hgives, hadopts]⟩
  settle {s n} h _ := by
    refine ⟨fun m st hst => ?_, s.settled_members n ▸ h.2⟩
    cases hn : s.records[n]? with
    | none =>
      rw [settled, hn] at hst
      exact h.1 m st hst
    | some st' =>
      cases hlicence : licence.gives && licence.adopts with
      | true => exact give (Bool.and_eq_true_iff.1 hlicence).1
      | false =>
        obtain ⟨path, shown, hshown, hsettled⟩ := getElem?_settled hn m
        obtain rfl : shown = [] := List.eq_nil_iff_forall_not_mem.2 fun i hi => by
          have hmem := hshown i hi
          rw [h.2 hlicence] at hmem
          cases hmem
        rw [hsettled] at hst
        split at hst
        · cases hst
          exact tell (h.1 n st' hn)
        · simp only [Statements.mirrored_nil, Option.map_id'] at hst
          exact h.1 m st hst
  empty := empty
  copy := copy
  reshape := reshape
  unite := unite

end SqlBuilder
