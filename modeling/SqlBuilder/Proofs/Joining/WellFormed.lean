import SqlBuilder.Proofs.Joining.Bound
import SqlBuilder.Proofs.Text.Ink

/-!
# Well-formed joins

A join is meant to have its conditions behind the word `ON`, joined by their joiners without the
first `AND` or `OR`, and a raw condition without an operator as it is in a `WHERE` clause: as its
text (`intendedClause`). The word comes with the first condition, though, and a raw condition is
compared with nothing.

* `joinClause_intended`: the clause is the intended one if and only if the first condition brings
  the word `ON` and no condition is bare.
* `joinedClause_wellFormed_iff`: what this means for the calls that the callback of a join makes.

The clauses are told apart by their visible characters: a bare condition has at least four too many,
and without the word `ON` two are missing.
-/

set_option autoImplicit false

namespace SqlBuilder

open Builder Session Fragment

/-! ## The intended clause -/

namespace Condition

/-- A raw condition without an operator, compared with nothing: a `WHERE` clause has its text. -/
def isBare (c : Condition) : Bool :=
  c.columns.isEmpty && Adapter.standsAlone true c.key c.operator c.value

/-- The condition comes with the word `ON`. -/
def bringsOn (c : Condition) : Prop := c.leading = .text "ON"

/-- Nothing but the word `ON` comes with the condition. -/
def Leads (c : Condition) : Prop := c.leading = .null ∨ c.bringsOn

end Condition

namespace Adapter

variable (a : Adapter)

/-- A condition of a join as it is meant behind its joiner. -/
def intendedBody (c : Condition) : Result (List Fragment) :=
  if c.isBare then pure [a.nameFragment c.key] else conditionBody a { bindValues := false } c

/-- The conditions of a join as they are meant, joined by their joiners. -/
def intendedPieces (first : Bool) : List Condition → Result (List Piece)
  | [] => pure []
  | c :: cs => do
    let joiner ← joinerWord first c.joiner
    let body ← a.intendedBody c
    let rest ← intendedPieces false cs
    pure (wordPieces joiner ++ body.map some ++ rest)

/-- The conditions of a join behind the word `ON`, if there are any. -/
def intendedCriteria (cs : List Condition) : Result Fragment :=
  if cs.isEmpty then pure Fragment.empty
  else do
    let pieces ← a.intendedPieces true cs
    joinPieces (some (ofText "ON") :: pieces)

/-- A join as it is meant. -/
def intendedClause (join : JoinEntry) : Result Fragment := do
  let table ← a.joinTable join.table
  let criteria ← a.intendedCriteria join.criteria
  pure (Fragment.concatenate
    [ofText (← joinKind join.kind), ofText "JOIN", table, criteria])

/-! ## Pieces of conditions -/

/-- Pieces that can both be written, the first of them with more in them; or neither can be. -/
inductive FullerPieces (k : Nat) : List Piece → List Piece → Prop where
  | written {fs gs : List Fragment} (h : Fuller k fs gs) :
      FullerPieces k (fs.map some) (gs.map some)
  | blocked {ps qs : List Piece} (h : none ∈ ps) (h' : none ∈ qs) : FullerPieces k ps qs

theorem FullerPieces.append {k m : Nat} {ps qs ps' qs' : List Piece} (h : FullerPieces k ps qs)
    (h' : FullerPieces m ps' qs') : FullerPieces (k + m) (ps ++ ps') (qs ++ qs') := by
  cases h with
  | blocked h h₁ => exact .blocked (List.mem_append_left _ h) (List.mem_append_left _ h₁)
  | written h =>
    cases h' with
    | blocked h h₁ => exact .blocked (List.mem_append_right _ h) (List.mem_append_right _ h₁)
    | written h' =>
      rw [← List.map_append, ← List.map_append]
      exact .written (h.append h')

/-- Words are the same in both. -/
theorem fullerPieces_word (v : Value) : FullerPieces 0 (wordPieces v) (wordPieces v) := by
  unfold wordPieces
  split
  · cases v.text? with
    | none => exact .blocked List.mem_cons_self List.mem_cons_self
    | some s => exact .written (.refl [ofText s])
  · exact .written (.refl [])

/-- What stands behind the joiner of a condition is what is meant, with more in it if the condition
is bare: the operator that is not there is written out. -/
theorem conditionBody_intended (c : Condition) :
    Agree (Fuller (if c.isBare then 4 else 0)) (conditionBody a { bindValues := false } c)
      (a.intendedBody c) := by
  obtain ⟨key, operator, value, joiner, leading, columns⟩ := c
  unfold intendedBody
  split
  · rename_i hbare
    simp only [Condition.isBare, standsAlone, Bool.and_eq_true, Option.isNone_iff_eq_none,
      Bool.true_and] at hbare
    obtain ⟨hcolumns, ⟨hitems, hraw⟩, hkey, hoperator⟩ := hbare
    obtain ⟨sql, bindings, rfl⟩ := Value.exists_eq_raw hkey
    cases Value.eq_null hoperator
    have hname : a.scalarSide false value = ofText (a.wrap value) := by
      cases value <;> first | rfl | simp [Value.isRaw] at hraw
    have hrun : conditionBody a { bindValues := false }
        ⟨.raw sql bindings, .null, value, joiner, leading, columns⟩ =
          .ok [compared ⟨sql, bindings⟩ .null (ofText (a.wrap value))] := by
      rw [conditionBody, if_pos hcolumns, keyBody_of_not_group _ _ (by simp),
        comparison_scalar a _ _ _ hitems, hname]
      have halone : standsAlone false (.raw sql bindings) .null value = false := by
        simp [standsAlone]
      rw [halone]
      rfl
    have hnone : Fragment.ink (ofText (" " ++ Value.null.toText ++ " ")) = 4 := by decide +kernel
    rw [hrun]
    refine .ok ⟨Exceeds.of_ink ?_ ?_, fun hzero => absurd hzero (by decide)⟩
    · show bindings ++ [] ++ [] = bindings
      rw [List.append_nil, List.append_nil]
    · simp only [compared, ink_append, hnone]
      exact Nat.le_add_right _ _
  · exact .refl fun fs _ => .refl fs

/-- How many characters the bare ones among conditions have too many, at least. -/
def excess (cs : List Condition) : Nat := 4 * cs.countP (·.isBare)

theorem excess_cons (c : Condition) (cs : List Condition) :
    excess (c :: cs) = (if c.isBare then 4 else 0) + excess cs := by
  unfold excess
  rw [List.countP_cons]
  split <;> omega

/-- One more condition in front of others. -/
theorem intendedPieces_cons {c : Condition} {cs : List Condition} (first : Bool)
    (hrest : Agree (FullerPieces (excess cs)) (criteriaPieces a { bindValues := false } false cs)
      (a.intendedPieces false cs)) :
    Agree (fun ps qs => ∃ ps', ps = (if first then wordPieces c.leading else []) ++ ps' ∧
        FullerPieces (excess (c :: cs)) ps' qs)
      (criteriaPieces a { bindValues := false } first (c :: cs))
      (a.intendedPieces first (c :: cs)) := by
  rw [criteriaPieces, intendedPieces, excess_cons]
  refine (Agree.self _).bind fun word _ hword => hword ▸ ?_
  refine (a.conditionBody_intended c).bind fun body body' hbody => ?_
  refine hrest.bind fun rest rest' hrest => .ok ⟨wordPieces word ++ body.map some ++ rest, ?_, ?_⟩
  · simp only [List.append_assoc]
  · have hpieces := ((fullerPieces_word word).append (.written hbody)).append hrest
    rwa [Nat.zero_add] at hpieces

theorem intendedPieces_agree (cs : List Condition) :
    Agree (FullerPieces (excess cs)) (criteriaPieces a { bindValues := false } false cs)
      (a.intendedPieces false cs) := by
  induction cs with
  | nil => exact .ok (.written (.refl []))
  | cons c cs ih =>
    refine (a.intendedPieces_cons false ih).mono ?_
    rintro ps qs ⟨ps', rfl, h⟩
    exact h

/-! ## Clauses -/

/-- The first condition brings the word `ON`, and none is bare. -/
def WellFormed (cs : List Condition) : Prop :=
  (∀ c ∈ cs.head?, c.bringsOn) ∧ ∀ c ∈ cs, c.isBare = false

theorem excess_eq_zero_iff {cs : List Condition} :
    excess cs = 0 ↔ ∀ c ∈ cs, c.isBare = false := by
  unfold excess
  rw [Nat.mul_eq_zero, or_iff_right (by decide), List.countP_eq_zero]
  simp only [Bool.not_eq_true]

/-- A bare condition has more too many than the word `ON` has letters. -/
theorem discerns_criteria {c : Condition} {cs : List Condition} (hc : c.Leads)
    {fs gs : List Fragment} (h : Fuller (excess (c :: cs)) fs gs) :
    Discerns (WellFormed (c :: cs))
      ((if c.leading.isNull then [] else [ofText "ON"]) ++ fs) (ofText "ON" :: gs) := by
  have hon : Fragment.ink (ofText "ON") = 2 := by decide +kernel
  by_cases hbare : ∀ d ∈ c :: cs, d.isBare = false
  · obtain rfl := h.eq (excess_eq_zero_iff.2 hbare)
    rcases hc with hc | hc
    · rw [hc]
      refine .fewer (fun hwell => ?_) ⟨rfl, ?_⟩
      · have hleading := hwell.1 c (by simp)
        rw [Condition.bringsOn, hc] at hleading
        cases hleading
      · simp only [Value.isNull, if_true, List.nil_append, inkAll_cons, hon]
        omega
    · rw [hc]
      exact .same ⟨by simpa using hc, hbare⟩ rfl
  · have hexcess : 4 ≤ excess (c :: cs) := by
      have hne := mt excess_eq_zero_iff.1 hbare
      unfold excess at hne ⊢
      omega
    refine .more (fun hwell => hbare hwell.2) ⟨?_, ?_⟩
    · rw [List.flatMap_append, h.exceeds.bindings]
      split <;> rfl
    · have hink := h.exceeds.ink
      simp only [inkAll_append, inkAll_cons, hon]
      omega

theorem wordPieces_leading {c : Condition} (hc : c.Leads) :
    wordPieces c.leading = (if c.leading.isNull then [] else [ofText "ON"]).map some := by
  rcases hc with hc | hc
  · rw [hc]
    rfl
  · rw [hc]
    rfl

theorem criteria_intended {cs : List Condition} (hleads : ∀ c ∈ cs, c.Leads) :
    Agree (fun f g => Discerns (WellFormed cs) [f] [g]) (a.joinCriteria cs)
      (a.intendedCriteria cs) := by
  cases cs with
  | nil => exact .ok (.same ⟨by simp, by simp⟩ rfl)
  | cons c cs =>
    have hc := hleads c List.mem_cons_self
    refine (a.intendedPieces_cons true (a.intendedPieces_agree cs)).bind ?_
    rintro ps qs ⟨ps, rfl, h⟩
    rw [if_pos rfl, wordPieces_leading hc]
    cases h with
    | blocked h h' =>
      rw [joinPieces_none (List.mem_append_right _ h), joinPieces_none (List.mem_cons_of_mem _ h')]
      exact .misuse _
    | @written fs gs h =>
      rw [← List.map_append, ← List.map_cons, joinPieces_some, joinPieces_some]
      exact .ok (discerns_criteria hc h).intercalate

/-- The clause is the intended one if and only if the first condition brings the word `ON` and none
is bare. -/
theorem joinClause_intended {join : JoinEntry} (hleads : ∀ c ∈ join.criteria, c.Leads) :
    Agree (fun f g => f.bindings = g.bindings ∧ (f.sql = g.sql ↔ WellFormed join.criteria))
      (a.joinClause join) (a.intendedClause join) := by
  rw [joinClause_eq, intendedClause]
  refine (Agree.self _).bind fun table _ htable => htable ▸ ?_
  refine (a.criteria_intended hleads).bind fun f g h => ?_
  refine (Agree.self _).bind fun kind _ hkind => hkind ▸ .ok ?_
  exact (h.around [ofText kind, ofText "JOIN", table] []).concatenate.sql_eq_iff

end Adapter

/-- The clause that a join on conditions is meant to have, which is added to statements. -/
def Context.intendedOutcome (ctx : Context) (overwrite : Bool) (st : Statements)
    (kind table : Value) (criteria : List Condition) : Result Fragment := do
  let table ← ctx.joined table
  match st.openJoins? overwrite table with
  | none => misuse .invalidOperation
  | some _ =>
    let kind ← kind.lower
    ctx.adapter.intendedClause { kind, table, criteria }

theorem joinOutcome_intended (ctx : Context) (overwrite : Bool) (st : Statements)
    (kind table : Value) {cs : List Condition} (hleads : ∀ c ∈ cs, c.Leads) :
    Agree (fun f g => f.bindings = g.bindings ∧ (f.sql = g.sql ↔ Adapter.WellFormed cs))
      (ctx.joinOutcome overwrite st kind table cs)
      (ctx.intendedOutcome overwrite st kind table cs) := by
  refine (Agree.self _).bind fun table' _ htable => htable ▸ ?_
  cases st.openJoins? overwrite table' with
  | none => exact .misuse _
  | some _ =>
    refine (Agree.self kind.lower).bind fun kind' _ hkind => hkind ▸ ?_
    have hleads : ∀ c ∈ (JoinEntry.mk kind' table' cs).criteria, c.Leads := hleads
    exact ctx.adapter.joinClause_intended hleads

/-! ## Calls -/

/-- A comparison that is raw SQL without an operator, compared with nothing. -/
def Comparison.isBare (q : Comparison) : Bool :=
  Adapter.standsAlone true q.key q.operator q.value && !q.value.isBuilder

namespace JoinCall

/-- The call names columns that both tables have; these stand behind `USING`. -/
def isShared : JoinCall → Bool
  | shared _ => true
  | _ => false

/-- The call adds a raw condition without an operator to the builder of a join. -/
def addsBare (a : Adapter) : JoinCall → Bool
  | on key operator value _ | orOn key operator value => Adapter.standsAlone true key operator value
  | condition m _ args => (asked a m args).any fun q => q.toOption.any Comparison.isBare
  | rowsExist _ => true
  | shared _ | group _ _ => false

/-- The first condition that the calls add, if they add any, is one of `on`. -/
def opensWithOn (a : Adapter) : List JoinCall → Bool
  | [] => true
  | on .. :: _ | orOn .. :: _ => true
  | condition m _ args :: calls => (asked a m args).isEmpty && opensWithOn a calls
  | _ :: _ => false

end JoinCall

section

variable {ctx : Context}

/-- A prefix leaves lists what they are. -/
theorem isList_named {v v' : Value} (h : ctx.named v = .ok v') :
    v'.items?.isNone = v.items?.isNone := by
  obtain ⟨p, -, h⟩ := bind_ok h
  unfold prefixed at h
  split at h
  · cases h
    rfl
  · split at h
    · obtain ⟨entries, -, h⟩ := bind_ok h
      cases h
      rfl
    · obtain ⟨items, -, h⟩ := bind_ok h
      cases h
      rfl
    · obtain ⟨items, -, h⟩ := bind_ok h
      cases h
      rfl
    · unfold prefixedName at h
      split at h
      · split at h
        · cases h
          rfl
        · obtain ⟨t, -, rfl⟩ := plus_text h
          rfl
      · cases h
        rfl

theorem condition_isBare (hquery : ∀ id w, ctx.subQuery id = .ok w → w.isRaw = true)
    {q : Comparison} {c : Condition} (h : ctx.condition q = .ok c) :
    c.isBare = q.isBare ∧ c.leading = .null := by
  obtain ⟨key, hkey, h⟩ := bind_ok h
  obtain ⟨v, hv, h⟩ := bind_ok h
  cases h
  refine ⟨?_, rfl⟩
  have hraw := (sameName_named hkey).isRaw_eq
  unfold Comparison.isBare
  generalize q.value = w at hv
  cases w with
  | builder id kind =>
    simp [Condition.isBare, Condition.plain, Adapter.standsAlone, hquery id v hv, Value.isBuilder]
  | _ =>
    cases hv
    simp [Condition.isBare, Condition.plain, Adapter.standsAlone, hraw, Value.isBuilder]

theorem asked_isBare (hquery : ∀ id w, ctx.subQuery id = .ok w → w.isRaw = true)
    {qs : List (Result Comparison)} {cs : List Condition}
    (h : (qs.mapM fun q => do ctx.condition (← q)) = .ok cs) :
    cs.any (·.isBare) = qs.any (fun q => q.toOption.any Comparison.isBare) ∧
      ∀ c ∈ cs, c.leading = .null := by
  induction qs generalizing cs with
  | nil =>
    cases h
    simp
  | cons q qs ih =>
    rw [List.mapM_cons] at h
    obtain ⟨c, hc, h⟩ := bind_ok h
    obtain ⟨rest, hrest, h⟩ := bind_ok h
    cases h
    obtain ⟨q, rfl, hc⟩ := bind_ok hc
    obtain ⟨hbare, hleading⟩ := condition_isBare hquery hc
    obtain ⟨hbares, hleadings⟩ := ih hrest
    refine ⟨?_, List.forall_mem_cons.2 ⟨hleading, hleadings⟩⟩
    rw [List.any_cons, List.any_cons, hbare, hbares]
    rfl

theorem on_conditions {key operator v joiner : Value} {cs : List Condition}
    (h : ctx.on .join key operator v joiner = .ok cs) :
    ∃ c, cs = [c] ∧ c.bringsOn ∧ c.isBare = Adapter.standsAlone true key operator v := by
  obtain ⟨key', hkey, h⟩ := bind_ok h
  obtain ⟨v', hv, h⟩ := bind_ok h
  cases h
  refine ⟨_, rfl, rfl, ?_⟩
  simp [Condition.isBare, Condition.plain, Adapter.standsAlone, isList_named hv,
    (sameName_named hkey).isRaw_eq, (sameName_named hv).isRaw_eq]

namespace JoinCall

/-- What a call other than `on` adds brings no word. -/
theorem conditions_isBare (hquery : ∀ id w, ctx.subQuery id = .ok w → w.isRaw = true)
    {call : JoinCall} (hshared : call.isShared = false) {cs : List Condition}
    (h : call.conditions ctx .join = .ok cs) :
    cs.any (·.isBare) = call.addsBare ctx.adapter ∧ ∀ c ∈ cs, c.Leads := by
  cases call with
  | on key operator v joiner =>
    obtain ⟨c, rfl, hon, hbare⟩ := on_conditions h
    exact ⟨by simpa [addsBare] using hbare, by simpa using .inr hon⟩
  | orOn key operator v =>
    obtain ⟨c, rfl, hon, hbare⟩ := on_conditions h
    exact ⟨by simpa [addsBare] using hbare, by simpa using .inr hon⟩
  | shared columns => cases hshared
  | condition m hwhere args =>
    obtain ⟨hbare, hleading⟩ := asked_isBare hquery h
    exact ⟨hbare, fun c hc => .inl (hleading c hc)⟩
  | group joiner calls =>
    rw [conditions] at h
    obtain ⟨inner, -, h⟩ := bind_ok h
    cases h
    refine ⟨?_, ?_⟩
    · simp [addsBare, Condition.isBare, Condition.plain, Adapter.standsAlone, Value.isRaw]
    · simpa using .inl rfl
  | rowsExist st =>
    rw [conditions] at h
    obtain ⟨q, -, h⟩ := bind_ok h
    obtain ⟨c, hc, h⟩ := bind_ok h
    cases h
    obtain ⟨hbare, hleading⟩ := condition_isBare hquery hc
    exact ⟨by rw [List.any_cons, hbare]; rfl, by simpa using .inl hleading⟩

theorem not_bringsOn {c : Condition} (h : c.leading = .null) : ¬c.bringsOn := by
  simp [Condition.bringsOn, h]

/-- The first condition brings the word `ON` if and only if the calls open with it. -/
theorem bringsOn_iff (hquery : ∀ id w, ctx.subQuery id = .ok w → w.isRaw = true)
    {calls : List JoinCall} (hshared : ∀ call ∈ calls, call.isShared = false)
    {cs : List Condition} (h : conditionsAll ctx .join calls = .ok cs) :
    (∀ c ∈ cs.head?, c.bringsOn) ↔ opensWithOn ctx.adapter calls = true := by
  induction calls generalizing cs with
  | nil =>
    cases h
    simp [opensWithOn]
  | cons call calls ih =>
    rw [conditionsAll] at h
    obtain ⟨first, hfirst, h⟩ := bind_ok h
    obtain ⟨rest, hrest, h⟩ := bind_ok h
    cases h
    have hrest := ih (fun call hcall => hshared call (List.mem_cons_of_mem _ hcall)) hrest
    cases call with
    | on key operator v joiner =>
      obtain ⟨c, rfl, hon, -⟩ := on_conditions hfirst
      simp [opensWithOn, hon]
    | orOn key operator v =>
      obtain ⟨c, rfl, hon, -⟩ := on_conditions hfirst
      simp [opensWithOn, hon]
    | shared columns => cases hshared _ List.mem_cons_self
    | condition m hwhere args =>
      have hlength := (mapM_ok hfirst).1
      obtain ⟨-, hleading⟩ := asked_isBare hquery hfirst
      rw [opensWithOn]
      cases first with
      | nil =>
        rw [List.length_eq_zero_iff.1 hlength.symm]
        exact hrest
      | cons c first =>
        obtain ⟨q, qs, hasked⟩ := List.exists_cons_of_length_eq_add_one hlength.symm
        simp [hasked, not_bringsOn (hleading c List.mem_cons_self)]
    | group joiner calls =>
      rw [conditions] at hfirst
      obtain ⟨inner, -, hfirst⟩ := bind_ok hfirst
      cases hfirst
      simp [opensWithOn, Condition.bringsOn, Condition.plain]
    | rowsExist st =>
      rw [conditions] at hfirst
      obtain ⟨q, -, hfirst⟩ := bind_ok hfirst
      obtain ⟨c, hc, hfirst⟩ := bind_ok hfirst
      cases hfirst
      simp [opensWithOn, not_bringsOn (condition_isBare hquery hc).2]

theorem conditionsAll_isBare (hquery : ∀ id w, ctx.subQuery id = .ok w → w.isRaw = true)
    {calls : List JoinCall} (hshared : ∀ call ∈ calls, call.isShared = false)
    {cs : List Condition} (h : conditionsAll ctx .join calls = .ok cs) :
    cs.any (·.isBare) = calls.any (·.addsBare ctx.adapter) ∧ ∀ c ∈ cs, c.Leads := by
  induction calls generalizing cs with
  | nil =>
    cases h
    simp
  | cons call calls ih =>
    rw [conditionsAll] at h
    obtain ⟨first, hfirst, h⟩ := bind_ok h
    obtain ⟨rest, hrest, h⟩ := bind_ok h
    cases h
    obtain ⟨hbare, hleads⟩ := conditions_isBare hquery (hshared call List.mem_cons_self) hfirst
    obtain ⟨hbares, hleads'⟩ :=
      ih (fun call hcall => hshared call (List.mem_cons_of_mem _ hcall)) hrest
    refine ⟨by rw [List.any_append, List.any_cons, hbare, hbares], fun c hc => ?_⟩
    rcases List.mem_append.1 hc with hc | hc
    · exact hleads c hc
    · exact hleads' c hc

end JoinCall

end

/-! ## Joins -/

/-- A join of which the callback makes calls of `on` and of the `where` family, in any order, comes
to what is meant by it, or fails as it: its conditions behind the word `ON`, joined by their
joiners, and the raw ones without an operator as their texts. The bindings are in any case those.
The text is if and only if the callback opens with `on` and none of its calls is such a raw
condition. -/
theorem joinedClause_wellFormed_iff {s : Session} {r : Reaction} {b c : Nat} {conn : Connection}
    {x : Builder} {st : Statements} (hx : s.builders[b]? = some x) (hc : x.connection = some c)
    (hconn : s.connections[c]? = some conn) (hst : s.records[x.record]? = some st)
    (kind table : Value) {calls : List JoinCall} (hknown : JoinCall.KnownAll s calls)
    (hshared : ∀ call ∈ calls, call.isShared = false) :
    Agree (fun f g => f.bindings = g.bindings ∧
        (f.sql = g.sql ↔ JoinCall.opensWithOn conn.adapter calls = true ∧
          ∀ call ∈ calls, call.addsBare conn.adapter = false))
      (runIn r (joinedClause b kind table calls) s).1
      (JoinCall.conditionsAll (s.context conn) .join calls >>=
        (s.context conn).intendedOutcome x.overwrite.isTrue st kind table) := by
  have hquery : ∀ id w, (s.context conn).subQuery id = .ok w → w.isRaw = true := by
    intro id w hw
    obtain ⟨q, -, hw⟩ := bind_ok hw
    cases hw
    rfl
  rw [joinedClause_eq hx hc hconn hst kind table hknown]
  cases hcs : JoinCall.conditionsAll (s.context conn) .join calls with
  | error fault => exact .error fault
  | ok cs =>
    obtain ⟨hbare, hleads⟩ := JoinCall.conditionsAll_isBare hquery hshared hcs
    have hon := JoinCall.bringsOn_iff hquery hshared hcs
    have hnone : (∀ d ∈ cs, d.isBare = false) ↔
        ∀ call ∈ calls, call.addsBare conn.adapter = false := by
      have hany : cs.any (·.isBare) = false ↔ calls.any (·.addsBare conn.adapter) = false :=
        hbare ▸ Iff.rfl
      simpa using hany
    refine (joinOutcome_intended (s.context conn) x.overwrite.isTrue st kind table hleads).mono ?_
    rintro f g ⟨hbindings, hsql⟩
    exact ⟨hbindings, hsql.trans (and_congr hon hnone)⟩

/-- A raw condition and a comparison of columns. -/
def JoinCall.rawFirst : List JoinCall :=
  [.condition .raw rfl [.text "u.a = t.a"],
    .on (.text "u.b") (.text "=") (.text "t.b") (.text "AND")]

/-- The word `ON` is not there, and the raw condition is compared with nothing. -/
theorem joinedClause_wellFormed_of_raw :
    let s := Session.selecting (.text "t")
    let run := (runIn (fun _ _ => pure ())
      (joinedClause 0 (.text "") (.text "u") JoinCall.rawFirst) s).1
    ∃ conn st, s.connections[0]? = some conn ∧ s.records[0]? = some st ∧
      JoinCall.KnownAll s JoinCall.rawFirst ∧
      (∀ call ∈ JoinCall.rawFirst, call.isShared = false) ∧
      JoinCall.opensWithOn conn.adapter JoinCall.rawFirst = false ∧
      (∃ call ∈ JoinCall.rawFirst, call.addsBare conn.adapter = true) ∧
      ∃ f g, run = .ok f ∧
        (JoinCall.conditionsAll (s.context conn) .join JoinCall.rawFirst >>=
          (s.context conn).intendedOutcome false st (.text "") (.text "u")) = .ok g ∧
        f.bindings = g.bindings ∧ f.sql ≠ g.sql := by
  intro s run
  have hx : s.builders[0]? = some { connection := some 0, record := 0 } := rfl
  have hknown : JoinCall.KnownAll s JoinCall.rawFirst := by
    refine ⟨fun v hv => ?_, trivial, trivial⟩
    rw [List.mem_singleton.1 hv]
    exact known_of_not_builder (by simp)
  have hshared : ∀ call ∈ JoinCall.rawFirst, call.isShared = false := by
    simp [JoinCall.rawFirst, JoinCall.isShared]
  have hintended := joinedClause_wellFormed_iff (r := fun _ _ => pure ()) hx rfl rfl rfl (.text "")
    (.text "u") hknown hshared
  have hok : run.isOk = true := by decide +kernel
  obtain ⟨f, hrun⟩ : ∃ f, run = .ok f := by
    cases hrun : run with
    | ok f => exact ⟨f, rfl⟩
    | error fault =>
      rw [hrun] at hok
      cases hok
  change Agree _ run _ at hintended
  rw [hrun] at hintended
  obtain ⟨g, hg, hbindings, hiff⟩ := hintended.exists_ok
  refine ⟨_, _, rfl, rfl, hknown, hshared, rfl, ⟨_, List.mem_cons_self, rfl⟩, f, g, hrun, hg,
    hbindings, fun hsame => ?_⟩
  cases (hiff.1 hsame).1

end SqlBuilder
