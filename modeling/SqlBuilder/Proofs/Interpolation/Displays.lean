import SqlBuilder.Program.Call
import SqlBuilder.Proofs.Interpolation.Compile
import SqlBuilder.Proofs.Restyling.Substitution
import SqlBuilder.Proofs.Session.Reading

/-!
# The ways to display a query

A query with its values as literals can be had in three ways: from a compiled query
(`CompiledQuery.interpolated`), from a driver, and from a builder, which has its driver do it. A
compiled query normalises its values and quotes texts as its dialect does, a driver does neither.

Only MySQL quotes texts differently. To normalise a value that can be bound changes it only if it is
a member of an enumeration: a driver shows such a member by its name, a compiled query by the value
it stands for. `displays_agree_iff` says that otherwise the three texts are one, however many values
there are.
-/

set_option autoImplicit false

namespace SqlBuilder

open Placeholder Session CompiledQuery

/-! ## Literals -/

/-- The literal of a value is that of its normal form. -/
def Value.ShownAlike (v : Value) : Prop := v.normalize.literal = v.literal

theorem Dialect.literal_eq {d : Dialect} (hd : d ≠ .mysql) (v : Value) :
    d.literal v = v.normalize.literal := by
  have hquote : d.quoteText = SqlBuilder.quoteText := by
    cases d with
    | mysql => exact absurd rfl hd
    | sqlite => rfl
    | postgres => rfl
  rw [Dialect.literal, hquote, Value.literal]

theorem quoteText_injective : Function.Injective quoteText := by
  intro s t h
  have hchars := congrArg String.toList h
  rw [quoteText, quoteText, String.toList_ofList, String.toList_ofList] at hchars
  exact String.toList_injective
    (Text.doubled_injective _ (List.append_cancel_right (List.cons.inj hchars).2))

/-- A value that can be bound is shown alike unless it is a member of an enumeration that has
another name than its value is written. -/
theorem Value.shownAlike_iff {v : Value} (h : isBindable v = true) :
    v.ShownAlike ↔ ∀ className name w identity, v = .member ⟨className, true⟩ name w identity →
      w.toText = className ++ "." ++ name := by
  rcases isBindable_cases h with h | ⟨className, name, w, identity, rfl, ⟨s, rfl⟩ | ⟨n, rfl⟩⟩
  · constructor
    · rintro - className name w identity rfl
      cases h
    · intro _
      rw [ShownAlike, normalize_of_isBasic h]
  · have htext : (Value.member ⟨className, true⟩ name (.text s) identity).ShownAlike ↔
        s = className ++ "." ++ name := quoteText_injective.eq_iff
    rw [htext]
    constructor
    · rintro hs _ _ _ _ ⟨⟩
      exact hs
    · exact fun hname => hname _ _ _ _ rfl
  · have hnumber : (Value.member ⟨className, true⟩ name (.int n) identity).ShownAlike ↔
        (Value.int n).toText = className ++ "." ++ name := .rfl
    rw [hnumber]
    constructor
    · rintro hn _ _ _ _ ⟨⟩
      exact hn
    · exact fun hname => hname _ _ _ _ rfl

theorem CompiledQuery.literalOf_of_isBindable {a : Adapter} {v : Value} (h : isBindable v = true) :
    literalOf (some a) v = a.dialect.literal v := by
  rcases isBindable_cases h with h | ⟨_, _, _, _, rfl, -⟩
  · cases v <;> first | rfl | cases h
  · rfl

/-! ## Filling in -/

namespace Placeholder

/-- A text of placeholders only, filled in. -/
theorem fillFrom_replicate {n : Nat} {marks : List (List Char)} (h : n ≤ marks.length) :
    fillFrom false marks (List.replicate n '?') = (marks.take n).flatten := by
  induction n generalizing marks with
  | zero => rw [List.replicate_zero, fillFrom_nil, List.take_zero, List.flatten_nil]
  | succ n ih =>
    cases marks with
    | nil => cases h
    | cons mark marks =>
      rw [List.replicate_succ, fillFrom_cons, if_pos (by decide), ih (Nat.le_of_succ_le_succ h),
        List.take_succ_cons, List.flatten_cons]

/-- Whoever sees every text filled in knows what it is filled in with. -/
theorem eq_of_fill {marks marks' : List String} (hlength : marks.length = marks'.length)
    (h : ∀ sql, fill (split sql) marks = fill (split sql) marks') : marks = marks' := by
  have hfront (n : Nat) (hn : n ≤ marks.length) : ((marks.map String.toList).take n).flatten =
      ((marks'.map String.toList).take n).flatten := by
    rw [← fillFrom_replicate (by simpa using hn),
      ← fillFrom_replicate (by simpa [← hlength] using hn)]
    have hfilled := h (String.ofList (List.replicate n '?'))
    rw [fill_split, fill_split, String.toList_ofList] at hfilled
    exact String.ofList_injective hfilled
  refine List.ext_getElem hlength fun n hn hn' => String.toList_injective ?_
  -- The text with one placeholder more is longer by one mark.
  have hnext := hfront (n + 1) hn
  have hmark {ms : List String} (hms : n < ms.length) :
      ((ms.map String.toList).take (n + 1)).flatten =
        ((ms.map String.toList).take n).flatten ++ ms[n].toList := by
    rw [List.take_succ_eq_append_getElem (by simpa using hms), List.flatten_append,
      List.flatten_singleton, List.getElem_map]
  rw [hmark hn, hmark hn', hfront n (Nat.le_of_lt hn)] at hnext
  exact List.append_cancel_left hnext

end Placeholder

/-! ## The three ways -/

/-- The text of a query with literals for its values. -/
def displayOf (literal : Value → String) (sql : String) (vs : List Value) : String :=
  fill (split sql) (vs.map literal)

section

variable {sql : String} {vs : List Value}

theorem interpolated_eq_displayOf {a : Adapter} (h : ∀ v ∈ vs, isBindable v = true) :
    (⟨.text sql, .positional vs, some a⟩ : CompiledQuery).interpolated =
      .ok (.text (displayOf a.dialect.literal sql vs)) := by
  have hliterals : vs.map (literalOf (some a)) = vs.map a.dialect.literal :=
    List.map_congr_left fun v hv => literalOf_of_isBindable (h v hv)
  have hfilled := Adapter.interpolated_eq a ⟨sql, vs⟩
  rw [Fragment.filled, hliterals] at hfilled
  exact hfilled

/-- What can be bound is no list, so a single value is not taken for one. -/
theorem spread_of_isBindable (h : ∀ v ∈ vs, isBindable v = true) : spread vs = vs := by
  unfold spread
  split
  · cases h _ (List.mem_singleton_self _)
  · cases h _ (List.mem_singleton_self _)
  · rfl

/-- The ways to give a driver the values: one by one, or together. -/
def valueArguments (vs : List Value) : List (List Operand) :=
  [vs.map .value, [.value (.list vs)], [.value (.tuple vs)]]

theorem spread_valueArguments (h : ∀ v ∈ vs, isBindable v = true) {args : List Operand}
    (hargs : args ∈ valueArguments vs) : spread (args.map Operand.plain) = vs := by
  simp only [valueArguments, List.mem_cons, List.not_mem_nil, or_false] at hargs
  rcases hargs with rfl | rfl | rfl
  · have hplain : (vs.map Operand.value).map Operand.plain = vs := by
      rw [List.map_map]
      exact List.map_id vs
    rw [hplain, spread_of_isBindable h]
  · rfl
  · rfl

variable {r : Reaction} {s : Session}

theorem runIn_prepare {args : List Operand} (hargs : spread (args.map Operand.plain) = vs)
    (c : Nat) :
    runIn r (Call.driver .prepare c (.value (.text sql) :: args)) s =
      (.ok (.text (displayOf Value.literal sql vs)), s) := by
  subst hargs
  rfl

theorem runIn_displayed {b c : Nat} {conn : Connection} (hopen : s.Open b c conn) {seq : Value}
    (hseq : seq.toItems = .ok vs) (h : ∀ v ∈ vs, isBindable v = true) :
    runIn r (Builder.displayed b (.text sql) seq) s =
      (.ok (displayOf Value.literal sql vs), s) := by
  have hchecked : (do (← seq.toItems).mapM check) = .ok vs := by
    rw [hseq]
    exact mapM_check h
  rw [Builder.displayed, runIn_bind_ok (runIn_connectionOf hopen), hchecked]
  rfl

end

theorem toItems_of_bindingsOf {seq : Value} {vs : List Value}
    (h : bindingsOf seq = .ok (.positional vs)) : seq.toItems = .ok vs := by
  unfold bindingsOf at h
  split at h
  · cases h
  · cases hitems : seq.toItems with
    | error f => rw [hitems] at h; cases h
    | ok items => rw [hitems] at h; cases h; rfl

/-- A query is displayed by the driver and by the builder as one text, and by the compiled query as
one that normalises the values; the session is left as it is. All three are one text, whatever the
query, if and only if no value is a member of an enumeration with another name than its value. -/
theorem displays_agree_iff {a : Adapter} (ha : a.dialect ≠ .mysql) {seq : Value}
    {vs : List Value} (hseq : bindingsOf seq = .ok (.positional vs))
    (h : ∀ v ∈ vs, isBindable v = true) :
    (∀ sql : String,
      (⟨.text sql, .positional vs, some a⟩ : CompiledQuery).interpolated =
        .ok (.text (displayOf a.dialect.literal sql vs)) ∧
      ∀ r s,
        (∀ args ∈ valueArguments vs, ∀ c,
          runIn r (Call.driver .prepare c (.value (.text sql) :: args)) s =
            (.ok (.text (displayOf Value.literal sql vs)), s)) ∧
        ∀ b c conn, s.Open b c conn →
          runIn r (Call.result b [.value (.text sql), .value seq] .display) s =
            (.ok (.text (displayOf Value.literal sql vs)), s)) ∧
    ((∀ sql, displayOf a.dialect.literal sql vs = displayOf Value.literal sql vs) ↔
      ∀ v ∈ vs, ∀ className name w identity, v = .member ⟨className, true⟩ name w identity →
        w.toText = className ++ "." ++ name) := by
  refine ⟨fun sql => ⟨interpolated_eq_displayOf h, fun r s => ⟨?_, ?_⟩⟩, ?_⟩
  · exact fun args hargs c => runIn_prepare (spread_valueArguments h hargs) c
  · intro b c conn hopen
    exact runIn_bind_ok (runIn_displayed hopen (toItems_of_bindingsOf hseq) h)
  · have halike : (∀ v ∈ vs, a.dialect.literal v = v.literal) ↔
        ∀ v ∈ vs, ∀ className name w identity, v = .member ⟨className, true⟩ name w identity →
          w.toText = className ++ "." ++ name :=
      forall₂_congr fun v hv => by
        rw [Dialect.literal_eq ha v, ← Value.shownAlike_iff (h v hv)]; rfl
    rw [← halike]
    constructor
    · intro hall
      exact List.map_inj_left.1 (eq_of_fill (by simp) hall)
    · intro hall sql
      rw [displayOf, displayOf, List.map_congr_left hall]

/-- A session with a builder on a connection. -/
def showing : Session where
  connections := #[{
    driver := .ofScenario {}
    scenario := {}
    settings := {}
    adapter := { dialect := .sqlite } }]
  builders := #[{ connection := some 0, record := 0 }]
  records := #[.empty]
  first := some 0

/-- A text with a quote, a question mark and a backslash in it, and an octet that is no text. -/
def shownValues : List Value := [.text "it's ?\\", .bytes [0xFF]]

/-- A member of an enumeration of texts. -/
def shownMember : Value := .member ⟨"OutputType", true⟩ "OBJECT" (.text "OBJECT") 0

/-- Texts and octets are displayed alike; a member is displayed by its value and by its name. -/
theorem displays_agree_iff_of_member :
    Dialect.postgres ≠ .mysql ∧
    bindingsOf (.list shownValues) = .ok (.positional shownValues) ∧
    bindingsOf (.list [shownMember]) = .ok (.positional [shownMember]) ∧
    (∀ v ∈ shownMember :: shownValues, isBindable v = true) ∧
    showing.Open 0 0 showing.connections[0] ∧
    (∀ sql, displayOf Dialect.postgres.literal sql shownValues =
      displayOf Value.literal sql shownValues) ∧
    (⟨.text "SELECT ?", .positional [shownMember], some ⟨.postgres, false⟩⟩ :
      CompiledQuery).interpolated = .ok (.text "SELECT 'OBJECT'") ∧
    runIn (fun _ _ => pure ()) (Call.driver .prepare 0
      [.value (.text "SELECT ?"), .value (.tuple [shownMember])]) showing =
        (.ok (.text "SELECT 'OutputType.OBJECT'"), showing) ∧
    runIn (fun _ _ => pure ()) (Call.result 0
      [.value (.text "SELECT ?"), .value (.list [shownMember])] .display) showing =
        (.ok (.text "SELECT 'OutputType.OBJECT'"), showing) := by
  have hd : Dialect.postgres ≠ .mysql := nofun
  have hvalues : ∀ v ∈ shownMember :: shownValues, isBindable v = true := by decide
  have hopen : showing.Open 0 0 showing.connections[0] := ⟨_, rfl, rfl, rfl⟩
  obtain ⟨hmember, hshown⟩ := List.forall_mem_cons.1 hvalues
  have hseq : bindingsOf (.list shownValues) = .ok (.positional shownValues) := rfl
  have hseq' : bindingsOf (.list [shownMember]) = .ok (.positional [shownMember]) := rfl
  obtain ⟨-, hagree⟩ := displays_agree_iff (a := ⟨.postgres, false⟩) hd hseq hshown
  obtain ⟨hdisplays, -⟩ := displays_agree_iff (a := ⟨.postgres, false⟩) hd hseq'
    (List.forall_mem_singleton.2 hmember)
  obtain ⟨hcompiled, hothers⟩ := hdisplays "SELECT ?"
  obtain ⟨hdriver, hbuilder⟩ := hothers (fun _ _ => pure ()) showing
  refine ⟨hd, hseq, hseq', hvalues, hopen, hagree.2 ?_, hcompiled,
    hdriver _ (by simp [valueArguments]) 0, hbuilder 0 0 _ hopen⟩
  rintro v hv _ _ _ _ rfl
  simp [shownValues] at hv

end SqlBuilder
