import Mathlib.Algebra.Order.BigOperators.Group.List
import Mathlib.Algebra.Order.Group.Nat
import SqlBuilder.Proofs.Related.Statement
import SqlBuilder.Proofs.Text.Ink

/-!
# Groups without conditions

A group without conditions is written as `()`. Statements are meant to be written without such
groups, and without those that hold nothing but such groups (`Statements.pruned`).

* `hollows` counts the groups without conditions, at any depth.
* `fragment_pruned`: what is written for statements is what is written for them without these groups
  if there are none, and else has more visible characters. It binds the same.
-/

set_option autoImplicit false

namespace SqlBuilder

open Fragment Text

/-! ## Conditions without hollow groups -/

mutual

/-- How many groups have no conditions, in a key. -/
def Value.hollows : Value → Nat
  | .group cs => if cs.isEmpty then 1 else Condition.hollowsAll cs
  | _ => 0

/-- How many groups have no conditions, among conditions. -/
def Condition.hollowsAll : List Condition → Nat
  | [] => 0
  | c :: cs => Condition.hollows c + Condition.hollowsAll cs

/-- How many groups have no conditions, in a condition. -/
def Condition.hollows : Condition → Nat
  | { key, .. } => Value.hollows key

end

mutual

/-- A key without the groups that come to nothing; none if it is one of them. -/
def Value.pruned? : Value → Option Value
  | .group cs =>
    match Condition.prunedAll cs with
    | [] => none
    | c :: cs => some (.group (c :: cs))
  | key => some key

/-- Conditions without the groups that come to nothing. -/
def Condition.prunedAll : List Condition → List Condition
  | [] => []
  | c :: cs =>
    match Condition.pruned? c with
    | some c => c :: Condition.prunedAll cs
    | none => Condition.prunedAll cs

/-- A condition without the groups that come to nothing; none if it is one of them. -/
def Condition.pruned? : Condition → Option Condition
  | { key, operator, value, joiner, leading, columns } =>
    (Value.pruned? key).map fun key => { key, operator, value, joiner, leading, columns }

end

mutual

/-- The conditions of the groups in a key are joined by words. -/
def Value.Linked : Value → Prop
  | .group cs => Condition.LinkedAll cs
  | _ => True

/-- Conditions are joined by words. -/
def Condition.LinkedAll : List Condition → Prop
  | [] => True
  | c :: cs => Condition.Linked c ∧ Condition.LinkedAll cs

/-- A condition is joined to others by words, also in its groups. It has a key, and nothing stands
in front of the list with it. -/
def Condition.Linked : Condition → Prop
  | { key, joiner, leading, columns, .. } =>
    Value.Linked key ∧ (∃ s, joiner = .text s) ∧ leading = .null ∧ columns = []

end

namespace Condition

theorem hollowsAll_append (cs ds : List Condition) :
    hollowsAll (cs ++ ds) = hollowsAll cs + hollowsAll ds := by
  induction cs with
  | nil => simp [hollowsAll]
  | cons c cs ih =>
    rw [List.cons_append, hollowsAll, hollowsAll, ih]
    omega

theorem linkedAll_iff {cs : List Condition} : LinkedAll cs ↔ ∀ c ∈ cs, c.Linked := by
  induction cs with
  | nil => simp [LinkedAll]
  | cons c cs ih => simp [LinkedAll, ih]

theorem Linked.parts {c : Condition} (h : c.Linked) :
    (∃ s, c.joiner = .text s) ∧ c.leading = .null := by
  cases c
  exact ⟨h.2.1, h.2.2.1⟩

/-- What is left of a condition is joined as it was. -/
theorem parts_of_pruned? {c c' : Condition} (h : c.pruned? = some c') :
    c'.joiner = c.joiner ∧ c'.leading = c.leading := by
  cases c
  rw [pruned?] at h
  obtain ⟨key, -, rfl⟩ := Option.map_eq_some_iff.1 h
  exact ⟨rfl, rfl⟩

end Condition

mutual

theorem Value.pruned?_of_not_hollow {key : Value} (h : key.hollows = 0) :
    key.pruned? = some key := by
  cases key with
  | group cs =>
    rw [Value.hollows] at h
    split at h
    · cases h
    · rename_i hne
      rw [Value.pruned?, Condition.prunedAll_of_not_hollow h]
      cases cs with
      | nil => exact absurd rfl hne
      | cons => rfl
  | _ => rfl

theorem Condition.prunedAll_of_not_hollow {cs : List Condition}
    (h : Condition.hollowsAll cs = 0) : Condition.prunedAll cs = cs := by
  match cs with
  | [] => rfl
  | c :: cs =>
    rw [Condition.hollowsAll] at h
    have hfirst : c.pruned? = some c := Condition.pruned?_of_not_hollow (by omega)
    have hrest : Condition.prunedAll cs = cs := Condition.prunedAll_of_not_hollow (by omega)
    rw [Condition.prunedAll, hfirst, hrest]

theorem Condition.pruned?_of_not_hollow {c : Condition} (h : c.hollows = 0) :
    c.pruned? = some c := by
  match c with
  | { key, .. } =>
    rw [Condition.hollows] at h
    rw [Condition.pruned?, Value.pruned?_of_not_hollow h]
    rfl

end

mutual

/-- What is left of a key has no group without conditions. -/
theorem Value.hollows_pruned? {key key' : Value} (h : key.pruned? = some key') :
    key'.hollows = 0 := by
  cases key with
  | group cs =>
    rw [Value.pruned?] at h
    have hnone := Condition.hollowsAll_prunedAll cs
    split at h
    · cases h
    · rename_i c cs' hcs
      cases h
      rw [Value.hollows, ← hcs, hnone, hcs]
      rfl
  | _ =>
    cases h
    rfl

/-- What is left of conditions has no group without any. -/
theorem Condition.hollowsAll_prunedAll (cs : List Condition) :
    Condition.hollowsAll (Condition.prunedAll cs) = 0 := by
  match cs with
  | [] => rfl
  | c :: cs =>
    have hrest := Condition.hollowsAll_prunedAll cs
    rw [Condition.prunedAll]
    split
    · rename_i c' hc
      rw [Condition.hollowsAll, Condition.hollows_pruned? hc, hrest]
    · exact hrest

theorem Condition.hollows_pruned? {c c' : Condition} (h : c.pruned? = some c') :
    c'.hollows = 0 := by
  match c with
  | { key, .. } =>
    rw [Condition.pruned?] at h
    obtain ⟨key', hkey, rfl⟩ := Option.map_eq_some_iff.1 h
    exact Value.hollows_pruned? hkey

end

namespace Adapter

variable (a : Adapter)

/-! ## Criteria -/

/-- Pieces that can be written; the first bind the same, and have at least `k` visible characters
more. -/
def ExceedsPieces (k : Nat) (ps qs : List Piece) : Prop :=
  ∃ fs gs, ps = fs.map some ∧ qs = gs.map some ∧ Exceeds k fs gs

theorem ExceedsPieces.append {k m : Nat} {ps qs ps' qs' : List Piece} (h : ExceedsPieces k ps qs)
    (h' : ExceedsPieces m ps' qs') : ExceedsPieces (k + m) (ps ++ ps') (qs ++ qs') := by
  obtain ⟨fs, gs, rfl, rfl, h⟩ := h
  obtain ⟨fs', gs', rfl, rfl, h'⟩ := h'
  exact ⟨fs ++ fs', gs ++ gs', by simp, by simp, h.append h'⟩

/-- In front of the first condition a joiner has no more words than elsewhere. -/
theorem ink_firstWords (s : String) : Text.ink (firstWords s).toList ≤ Text.ink s.toList := by
  rw [firstWords, ink_textIntercalate (by decide), ← ink_words s]
  exact List.Sublist.sum_le_sum (List.filter_sublist.map _) fun _ _ => Nat.zero_le _

/-- The words of a joiner, whether the condition is the first one or becomes it. -/
theorem exceeds_joiner (s : String) {first first' : Bool} (h : first = true → first' = true) :
    ∃ w w', joinerWord first (.text s) = .ok w ∧ joinerWord first' (.text s) = .ok w' ∧
      ExceedsPieces 0 (wordPieces w) (wordPieces w') ∧ ExceedsPieces 0 (wordPieces w) [] := by
  have hword (s : String) :
      ∃ fs, wordPieces (.text s) = fs.map some ∧ inkAll fs = Text.ink s.toList ∧
        fs.flatMap bindings = [] := by
    by_cases hs : s = ""
    · exact ⟨[], by simp [wordPieces, Value.isTrue, hs], by simp [hs], rfl⟩
    · exact ⟨[ofText s], by simp [wordPieces, Value.isTrue, hs, Value.text?],
        by simp [Fragment.ink, ofText], rfl⟩
  have hpieces {s s' : String} (hink : Text.ink s'.toList ≤ Text.ink s.toList) :
      ExceedsPieces 0 (wordPieces (.text s)) (wordPieces (.text s')) := by
    obtain ⟨fs, hfs, hink', hbind⟩ := hword s
    obtain ⟨gs, hgs, hink'', hbind'⟩ := hword s'
    exact ⟨fs, gs, hfs, hgs, hbind.trans hbind'.symm, by omega⟩
  have hnothing (s : String) : ExceedsPieces 0 (wordPieces (.text s)) [] :=
    @hpieces s "" (Nat.zero_le _)
  cases first with
  | true =>
    rw [h rfl]
    exact ⟨_, _, rfl, rfl, hpieces (Nat.le_refl _), hnothing _⟩
  | false =>
    cases first' with
    | true => exact ⟨_, _, rfl, rfl, hpieces (ink_firstWords s), hnothing _⟩
    | false => exact ⟨_, _, rfl, rfl, hpieces (Nat.le_refl _), hnothing _⟩

/-- What is written without a key that comes to nothing, or for what is left of the key. -/
structure PrunedBody {α : Type} (k : Nat) (body : α → Result (List Fragment)) (key : α)
    (pruned? : Option α) : Prop where
  left : ∀ key', pruned? = some key' → Agree (Exceeds k) (body key) (body key')
  nothing : pruned? = none → ∃ fs, body key = .ok fs ∧ Exceeds k fs []

mutual

theorem keyBody_pruned {key : Value} (h : key.Linked) (style : CriteriaStyle)
    (operator value : Value) :
    PrunedBody (2 * key.hollows) (keyBody a style operator value) key key.pruned? := by
  cases key with
  | group cs =>
    have hpieces := criteriaPieces_pruned h {} (fun (hfirst : true = true) => hfirst)
    have hink : Fragment.ink (ofText "(") = 1 ∧ Fragment.ink (ofText ")") = 1 := by decide +kernel
    rw [Value.hollows, Value.pruned?]
    cases hcs : Condition.prunedAll cs with
    | nil =>
      refine ⟨nofun, fun _ => ?_⟩
      rw [hcs] at hpieces
      generalize hrun : criteriaPieces a {} true cs = x at hpieces
      cases hpieces with
      | ok h =>
        obtain ⟨fs, gs, rfl, hgs, h⟩ := h
        obtain rfl : gs = [] := by simpa using hgs.symm
        have hbindings := h.intercalate.bindings
        have hmore := h.intercalate.ink
        refine ⟨[(intercalate " " fs).parenthesized], ?_, ?_, ?_⟩
        · rw [keyBody, hrun]
          show joinPieces (fs.map some) >>= _ = _
          rw [joinPieces_some]
          rfl
        · simpa [parenthesized] using hbindings
        · simp only [inkAll_cons, inkAll_nil, parenthesized, Fragment.ink_append] at hmore ⊢
          split
          · omega
          · omega
    | cons d ds =>
      refine ⟨fun key' hkey' => ?_, nofun⟩
      cases hkey'
      rw [hcs] at hpieces
      have hne : cs.isEmpty = false := by
        cases cs with
        | nil => cases hcs
        | cons => rfl
      rw [hne, keyBody, keyBody]
      refine hpieces.bind ?_
      rintro ps qs ⟨fs, gs, rfl, rfl, h⟩
      rw [joinPieces_some, joinPieces_some]
      exact .ok (h.intercalate.enclosed _ _)
  | _ => exact ⟨fun key' hkey' => by cases hkey'; exact .refl fun fs _ => .refl fs, nofun⟩

theorem conditionBody_pruned {c : Condition} (h : c.Linked) (style : CriteriaStyle) :
    PrunedBody (2 * c.hollows) (conditionBody a style) c c.pruned? := by
  match c with
  | { key, operator, value, joiner, leading, columns } =>
    obtain ⟨hkey, -, -, rfl⟩ := h
    have hbody := keyBody_pruned hkey style operator value
    rw [Condition.hollows, Condition.pruned?]
    refine ⟨fun c' hc' => ?_, fun hnone => ?_⟩
    · obtain ⟨key', hkey', rfl⟩ := Option.map_eq_some_iff.1 hc'
      exact hbody.left key' hkey'
    · exact hbody.nothing (Option.map_eq_none_iff.1 hnone)

theorem criteriaPieces_pruned {cs : List Condition} (h : Condition.LinkedAll cs)
    (style : CriteriaStyle) {first first' : Bool} (hfirst : first = true → first' = true) :
    Agree (ExceedsPieces (2 * Condition.hollowsAll cs)) (criteriaPieces a style first cs)
      (criteriaPieces a style first' (Condition.prunedAll cs)) := by
  match cs with
  | [] => exact .ok ⟨[], [], rfl, rfl, .refl []⟩
  | c :: cs =>
    obtain ⟨hc, hcs⟩ := h
    have hbody := conditionBody_pruned hc style
    obtain ⟨⟨s, hjoiner⟩, hleading⟩ := hc.parts
    obtain ⟨w, w', hw, hw', hwords, hword⟩ := exceeds_joiner s hfirst
    have hlead (b : Bool) : (if b then wordPieces c.leading else []) = [] := by
      rw [hleading]
      cases b <;> rfl
    have hcount : 2 * Condition.hollowsAll (c :: cs) =
        0 + 2 * c.hollows + 2 * Condition.hollowsAll cs := by
      rw [Condition.hollowsAll]
      omega
    have hwritten {fs gs : List Fragment} (h : Exceeds (2 * c.hollows) fs gs) :
        ExceedsPieces (2 * c.hollows) (fs.map some) (gs.map some) := ⟨fs, gs, rfl, rfl, h⟩
    rw [hcount, Condition.prunedAll, criteriaPieces, hjoiner, hw, hlead]
    cases hleft : c.pruned? with
    | some c' =>
      obtain ⟨hjoiner', hleading'⟩ := Condition.parts_of_pruned? hleft
      rw [criteriaPieces, hjoiner', hleading', hjoiner, hw', hlead]
      refine (hbody.left c' hleft).bind fun body body' hbody => ?_
      refine (criteriaPieces_pruned hcs style (fun hnot => hnot)).bind fun rest rest' hrest =>
        .ok ?_
      exact (hwords.append (hwritten hbody)).append hrest
    | none =>
      obtain ⟨fs, hfs, hmore⟩ := hbody.nothing hleft
      -- what comes behind may become the first condition
      have hrest := criteriaPieces_pruned hcs style
        (fun (hnot : false = true) => (Bool.noConfusion hnot : first' = true))
      rw [hfs]
      show Agree _ (criteriaPieces a style false cs >>= fun rest =>
        .ok ([] ++ wordPieces w ++ fs.map some ++ rest))
        (criteriaPieces a style first' (Condition.prunedAll cs))
      generalize criteriaPieces a style false cs = x at hrest ⊢
      generalize criteriaPieces a style first' (Condition.prunedAll cs) = y at hrest ⊢
      cases hrest with
      | ok hrest => exact .ok ((hword.append (hwritten hmore)).append hrest)
      | error fault => exact .error fault

end

theorem criteria_pruned {cs : List Condition} (h : Condition.LinkedAll cs) (style : CriteriaStyle) :
    Agree (fun f g => Exceeds (2 * Condition.hollowsAll cs) [f] [g]) (a.criteria style cs)
      (a.criteria style (Condition.prunedAll cs)) := by
  refine (a.criteriaPieces_pruned h style (fun hfirst => hfirst)).bind ?_
  rintro ps qs ⟨fs, gs, rfl, rfl, h⟩
  rw [joinPieces_some, joinPieces_some]
  exact .ok h.intercalate

theorem conditionClause_cons (keyword : String) (qualifier : Value) (c : Condition)
    (cs : List Condition) :
    a.conditionClause keyword qualifier (some (c :: cs)) = (do
      let criteria ← a.criteria { qualifier } (c :: cs)
      pure (ofText (keyword ++ " ") ++ criteria ++ .empty)) := by
  refine congrArg (bind _) (funext fun f => congrArg pure ?_)
  exact congrArg₂ Fragment.mk (by simp [Fragment.empty]) (by simp [Fragment.empty])

/-- A keyword with conditions, without the groups that come to nothing. It is left out with the last
of them. -/
theorem conditionClause_pruned {conditions : Option (List Condition)}
    (h : Condition.LinkedAll (conditions.getD [])) (keyword : String) (qualifier : Value) :
    Agree (fun f g => Fuller (2 * Condition.hollowsAll (conditions.getD [])) [f] [g])
      (a.conditionClause keyword qualifier conditions)
      (a.conditionClause keyword qualifier (conditions.map Condition.prunedAll)) := by
  cases conditions with
  | none => exact .ok (.refl _)
  | some cs =>
    simp only [Option.getD_some, Option.map_some] at h ⊢
    by_cases hnone : Condition.hollowsAll cs = 0
    · rw [Condition.prunedAll_of_not_hollow hnone, hnone]
      exact .refl fun f _ => .refl [f]
    · suffices hclause : Agree (fun f g => Exceeds (2 * Condition.hollowsAll cs) [f] [g])
          (a.conditionClause keyword qualifier (some cs))
          (a.conditionClause keyword qualifier (some (Condition.prunedAll cs))) from
        hclause.mono fun f g hmore => ⟨hmore, fun hzero => absurd hzero (by omega)⟩
      have hcriteria := a.criteria_pruned h { qualifier }
      cases cs with
      | nil => exact absurd rfl hnone
      | cons c cs =>
        rw [conditionClause_cons]
        cases hleft : Condition.prunedAll (c :: cs) with
        | cons d ds =>
          rw [hleft] at hcriteria
          rw [conditionClause_cons]
          exact hcriteria.bind fun f g hmore => .ok (hmore.enclosed _ _)
        | nil =>
          rw [hleft] at hcriteria
          generalize a.criteria { qualifier } (c :: cs) = x at hcriteria ⊢
          cases hcriteria with
          | ok hmore =>
            refine .ok ⟨?_, ?_⟩
            · simpa using hmore.bindings
            · have hink := hmore.ink
              simp only [inkAll_cons, inkAll_nil, Fragment.ink_append] at hink ⊢
              have hempty : Fragment.empty.ink = 0 := by decide
              omega

end Adapter

/-! ## Statements -/

namespace Statements

mutual

/-- Statements without the groups that come to nothing, also in the members of their union. -/
def pruned : Statements → Statements
  | s@{ wheres, havings, unions, .. } =>
    { s with
      wheres := wheres.map Condition.prunedAll
      havings := havings.map Condition.prunedAll
      unions := prunedUnions unions }

/-- The members of a union without the groups that come to nothing. -/
def prunedUnions : Option (List UnionEntry) → Option (List UnionEntry)
  | none => none
  | some entries => some (prunedMembers entries)

/-- Members of a union without the groups that come to nothing. -/
def prunedMembers : List UnionEntry → List UnionEntry
  | [] => []
  | { statements, type, identity } :: entries =>
    ⟨pruned statements, type, identity⟩ :: prunedMembers entries

end

mutual

/-- How many groups that a select writes have no conditions. -/
def hollows : Statements → Nat
  | { wheres, havings, unions, .. } =>
    Condition.hollowsAll (wheres.getD []) + Condition.hollowsAll (havings.getD []) +
      hollowsUnions unions

/-- How many of them are in the members of a union. -/
def hollowsUnions : Option (List UnionEntry) → Nat
  | none => 0
  | some entries => hollowsMembers entries

/-- How many of them are in members of a union. -/
def hollowsMembers : List UnionEntry → Nat
  | [] => 0
  | { statements, .. } :: entries => hollows statements + hollowsMembers entries

end

mutual

/-- The conditions of statements are joined by words. -/
def Linked : Statements → Prop
  | { wheres, havings, unions, .. } =>
    Condition.LinkedAll (wheres.getD []) ∧ Condition.LinkedAll (havings.getD []) ∧
      LinkedUnions unions

/-- So are those of the members of a union. -/
def LinkedUnions : Option (List UnionEntry) → Prop
  | none => True
  | some entries => LinkedMembers entries

/-- So are those of members of a union. -/
def LinkedMembers : List UnionEntry → Prop
  | [] => True
  | { statements, .. } :: entries => Linked statements ∧ LinkedMembers entries

end

/-- How many groups that an operation writes have no conditions. -/
def hollowsIn (op : Operation) (s : Statements) : Nat :=
  if op = .select then s.hollows else Condition.hollowsAll (s.wheres.getD [])

theorem pruned_eq (s : Statements) :
    s.pruned = { s with
      wheres := s.wheres.map Condition.prunedAll
      havings := s.havings.map Condition.prunedAll
      unions := prunedUnions s.unions } := by
  cases s
  rw [pruned]

theorem hollows_eq (s : Statements) :
    s.hollows = Condition.hollowsAll (s.wheres.getD []) +
      Condition.hollowsAll (s.havings.getD []) + hollowsUnions s.unions := by
  cases s
  rw [hollows]

theorem hollowsIn_eq (op : Operation) (s : Statements) :
    s.hollowsIn op = Condition.hollowsAll (s.wheres.getD []) +
      if op = .select then Condition.hollowsAll (s.havings.getD []) + hollowsUnions s.unions
      else 0 := by
  rw [hollowsIn, hollows_eq]
  split
  · exact Nat.add_assoc ..
  · rfl

mutual

/-- What is left of statements has no group without conditions. -/
theorem hollows_pruned (s : Statements) : s.pruned.hollows = 0 := by
  match s with
  | { wheres, havings, unions, .. } =>
    rw [pruned, hollows, hollowsUnions_prunedUnions unions]
    cases wheres <;> cases havings <;>
      simp [Condition.hollowsAll, Condition.hollowsAll_prunedAll]

theorem hollowsUnions_prunedUnions (unions : Option (List UnionEntry)) :
    hollowsUnions (prunedUnions unions) = 0 := by
  match unions with
  | none => rfl
  | some entries => exact hollowsMembers_prunedMembers entries

theorem hollowsMembers_prunedMembers (entries : List UnionEntry) :
    hollowsMembers (prunedMembers entries) = 0 := by
  match entries with
  | [] => rfl
  | { statements, .. } :: entries =>
    rw [prunedMembers, hollowsMembers, hollows_pruned statements,
      hollowsMembers_prunedMembers entries]

end

theorem hollowsIn_pruned (op : Operation) (s : Statements) : s.pruned.hollowsIn op = 0 := by
  have hnone := hollows_pruned s
  rw [hollows_eq] at hnone
  rw [hollowsIn_eq]
  split <;> omega

theorem linked_iff {s : Statements} :
    s.Linked ↔ Condition.LinkedAll (s.wheres.getD []) ∧ Condition.LinkedAll (s.havings.getD []) ∧
      LinkedUnions s.unions := by
  cases s
  rw [Linked]

end Statements

namespace Adapter

variable (a : Adapter)

theorem asMember_pruned (s : Statements) {k : Nat} {f g : Fragment} (h : Fuller k [f] [g]) :
    Fuller k [a.asMember s f] [a.asMember s.pruned g] := by
  have hframe : a.dialect.memberFrame s.pruned = a.dialect.memberFrame s := by
    rw [Statements.pruned_eq]
    rfl
  simp only [asMember, Dialect.unionMember, hframe]
  cases a.dialect.memberFrame s with
  | none => exact h
  | some frame =>
    have hframed := h.enclosed (ofText frame.1) (ofText frame.2)
    rwa [framed_eq, framed_eq] at hframed

/-- A select without its unions. -/
theorem selectMember_pruned (s : Statements) (hwheres : Condition.LinkedAll (s.wheres.getD []))
    (hhavings : Condition.LinkedAll (s.havings.getD [])) :
    Agree (fun f g => Fuller (2 * Condition.hollowsAll (s.wheres.getD []) +
        2 * Condition.hollowsAll (s.havings.getD [])) [f] [g])
      (a.selectMember s) (a.selectMember s.pruned) := by
  rw [Statements.pruned_eq]
  simp only [selectMember]
  refine (Agree.self (selectItems s)).bind fun items _ hitems => hitems ▸ ?_
  refine (Agree.self (a.columnList items)).bind fun columns _ hcolumns => hcolumns ▸ ?_
  refine (Agree.self (a.tableList s)).bind fun tables _ htables => htables ▸ ?_
  refine (Agree.self (a.joinList s)).bind fun joins _ hjoins => hjoins ▸ ?_
  refine (a.conditionClause_pruned hwheres "WHERE" tables.2).bind fun wheres wheres' hwheres => ?_
  refine (Agree.self (a.groupClause s)).bind fun groups _ hgroups => hgroups ▸ ?_
  refine (a.conditionClause_pruned hhavings "HAVING" tables.2).bind
    fun havings havings' hhavings => ?_
  refine (Agree.self (a.pagingClauses s)).bind fun paging _ hpaging => hpaging ▸ .ok ?_
  have hclauses := ((hwheres.append (.refl [groups])).append hhavings).around
    [ofText (if s.isDistinct then "SELECT DISTINCT" else "SELECT"), columns,
      ofText (if tables.1.sql = "" then "" else "FROM"), tables.1, joins]
    (paging ++ [lockClause s])
  exact hclauses.concatenate

mutual

theorem select_pruned (s : Statements) (h : s.Linked) :
    Agree (fun f g => Fuller (2 * s.hollows) [f] [g]) (select a s) (select a s.pruned) := by
  match s with
  | .mk selects distincts tables aliases wheres havings criteria joins groupBys orderBys unions
      limit offset lock onDuplicate =>
    obtain ⟨hwheres, hhavings, hunions⟩ := h
    have hothers := furtherMembers_pruned unions hunions
    have hmember := a.selectMember_pruned ⟨selects, distincts, tables, aliases, wheres, havings,
      criteria, joins, groupBys, orderBys, unions, limit, offset, lock, onDuplicate⟩
      hwheres hhavings
    have hframed {f g : Fragment} {k : Nat} (h : Fuller k [f] [g]) :=
      a.asMember_pruned ⟨selects, distincts, tables, aliases, wheres, havings, criteria, joins,
        groupBys, orderBys, unions, limit, offset, lock, onDuplicate⟩ h
    simp only [Statements.pruned] at hmember hframed
    rw [select, Statements.pruned, select, Statements.hollows]
    refine hmember.bind fun member member' hmember => ?_
    refine hothers.bind fun others others' hothers => .ok ?_
    obtain ⟨hothers, hempty⟩ := hothers
    have hcount : 2 * Condition.hollowsAll (wheres.getD []) +
        2 * Condition.hollowsAll (havings.getD []) + 2 * Statements.hollowsUnions unions =
        2 * (Condition.hollowsAll (wheres.getD []) +
          Condition.hollowsAll (havings.getD []) + Statements.hollowsUnions unions) := by omega
    rw [← hempty, ← hcount]
    cases others with
    | nil =>
      have hnone := hothers.exceeds.ink
      rw [inkAll_nil] at hnone
      have hunions : 2 * Statements.hollowsUnions unions = 0 := by omega
      rw [hunions, Nat.add_zero]
      exact hmember
    | cons other others => exact ((hframed hmember).append hothers).intercalate

theorem furtherMembers_pruned (unions : Option (List UnionEntry))
    (h : Statements.LinkedUnions unions) :
    Agree (fun fs gs => Fuller (2 * Statements.hollowsUnions unions) fs gs ∧
        fs.isEmpty = gs.isEmpty)
      (furtherMembers a unions) (furtherMembers a (Statements.prunedUnions unions)) := by
  match unions with
  | none => exact .ok ⟨.refl [], rfl⟩
  | some entries => exact unionList_pruned entries h

theorem unionList_pruned (entries : List UnionEntry) (h : Statements.LinkedMembers entries) :
    Agree (fun fs gs => Fuller (2 * Statements.hollowsMembers entries) fs gs ∧
        fs.isEmpty = gs.isEmpty)
      (unionList a entries) (unionList a (Statements.prunedMembers entries)) := by
  match entries with
  | [] => exact .ok ⟨.refl [], rfl⟩
  | { statements, type, .. } :: entries =>
    rw [unionList, Statements.prunedMembers, unionList, Statements.hollowsMembers]
    refine (select_pruned statements h.1).bind fun member member' hmember => ?_
    refine (unionList_pruned entries h.2).bind fun rest rest' hrest => .ok ⟨?_, rfl⟩
    have hlist := ((Fuller.refl [ofText (a.dialect.unionOperator type)]).append
      (a.asMember_pruned statements hmember)).append hrest.1
    have hcount : 0 + 2 * statements.hollows + 2 * Statements.hollowsMembers entries =
        2 * (statements.hollows + Statements.hollowsMembers entries) := by omega
    exact hcount ▸ hlist

end

theorem update_pruned (s : Statements) (h : Condition.LinkedAll (s.wheres.getD []))
    (data : Value) :
    Agree (fun f g => Fuller (2 * Condition.hollowsAll (s.wheres.getD [])) [f] [g])
      (a.update s data) (a.update s.pruned data) := by
  rw [Statements.pruned_eq]
  simp only [update]
  split
  · exact .error _
  · refine (Agree.self (targetTable s "UPDATE")).bind fun table _ htable => htable ▸ ?_
    refine (Agree.self (a.aliasedTable s table)).bind fun named _ hnamed => hnamed ▸ ?_
    refine (Agree.self (a.joinList s)).bind fun joins _ hjoins => hjoins ▸ ?_
    refine (Agree.self (rowEntries data)).bind fun row _ hrow => hrow ▸ ?_
    refine (a.conditionClause_pruned h "WHERE" named.2).bind fun wheres wheres' hwheres => ?_
    refine (Agree.self (a.groupClause s)).bind fun groups _ hgroups => hgroups ▸ ?_
    refine (Agree.self (a.pagingClauses s)).bind fun paging _ hpaging => hpaging ▸ .ok ?_
    have hclauses := hwheres.around
      [ofText "UPDATE", ofText named.1, joins, ofText "SET " ++ a.assignments row]
      (groups :: paging)
    exact hclauses.concatenate

theorem delete_pruned (s : Statements) (h : Condition.LinkedAll (s.wheres.getD []))
    (columns : Value) :
    Agree (fun f g => Fuller (2 * Condition.hollowsAll (s.wheres.getD [])) [f] [g])
      (a.delete s columns) (a.delete s.pruned columns) := by
  rw [Statements.pruned_eq]
  simp only [delete]
  refine (Agree.self (targetTable s "DELETE")).bind fun table _ htable => htable ▸ ?_
  refine (Agree.self (a.deleteColumns columns)).bind fun columns _ hcolumns => hcolumns ▸ ?_
  refine (Agree.self (a.joinList s)).bind fun joins _ hjoins => hjoins ▸ ?_
  refine (a.conditionClause_pruned h "WHERE" .null).bind fun wheres wheres' hwheres => ?_
  refine (Agree.self (a.groupClause s)).bind fun groups _ hgroups => hgroups ▸ ?_
  refine (Agree.self (a.pagingClauses s)).bind fun paging _ hpaging => hpaging ▸ .ok ?_
  have hclauses := hwheres.around
    [ofText "DELETE", columns, ofText "FROM", ofText (a.wrap table), joins] (groups :: paging)
  exact hclauses.concatenate

/-! ## Queries -/

/-- What is written for statements is what is written for them without the groups that come to
nothing if and only if no group that the operation writes is without conditions. -/
theorem compile_pruned {op : Operation} (hop : op = .select ∨ op = .update ∨ op = .delete)
    {s : Statements} (h : s.Linked) (payload : List Value) :
    Agree (fun q q' => q.bindings = q'.bindings ∧ (q.sql = q'.sql ↔ s.hollowsIn op = 0))
      (a.compile op s payload) (a.compile op s.pruned payload) := by
  suffices hfragment : Agree (fun f g => Fuller (2 * s.hollowsIn op) [f] [g])
      (a.fragment op s payload) (a.fragment op s.pruned payload) by
    refine hfragment.bind fun f g hmore => .ok ?_
    obtain ⟨hbindings, hsql⟩ := hmore.sql_eq_iff
    refine ⟨by rw [hbindings], ?_⟩
    rw [Value.text.injEq, hsql]
    omega
  obtain ⟨hwheres, -, -⟩ := Statements.linked_iff.1 h
  rcases hop with rfl | rfl | rfl
  · rcases payload with _ | _
    · exact a.select_pruned s h
    · exact .error _
  · rcases payload with _ | ⟨data, _ | _⟩
    · exact .error _
    · exact a.update_pruned s hwheres data
    · exact .error _
  · rcases payload with _ | ⟨columns, _ | _⟩
    · exact a.delete_pruned s hwheres .null
    · exact a.delete_pruned s hwheres columns
    · exact .error _

end Adapter

end SqlBuilder
