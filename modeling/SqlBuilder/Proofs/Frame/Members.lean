import SqlBuilder.Session

/-!
# Members of unions in a session

`Session.Holds s n m`: the statements of record `n` are those of record `m`, or have them as a
member of a union, at some depth. Settling a record changes the records that hold it, and no others
(`Session.getElem?_settled`).
-/

set_option autoImplicit false

namespace SqlBuilder

/-! ## Members of statements -/

namespace Statements

mutual

/-- The identities of all members, at any depth. -/
def identities : Statements → List (List Nat)
  | { unions, .. } => identitiesUnions unions

/-- Those of the members of a union. -/
def identitiesUnions : Option (List UnionEntry) → List (List Nat)
  | none => []
  | some entries => identitiesMembers entries

/-- Those of members of a union. -/
def identitiesMembers : List UnionEntry → List (List Nat)
  | [] => []
  | { statements, identity, .. } :: entries =>
    identity :: (identities statements ++ identitiesMembers entries)

end

mutual

/-- Statements without any of the members stay as they are. -/
theorem mirrored_eq_self {shown : List (List Nat)} (st s : Statements)
    (h : ∀ i ∈ shown, i ∉ s.identities) : s.mirrored shown st = s := by
  match s with
  | { unions, .. } =>
    rw [mirrored, mirroredUnions_eq_self st unions fun i hi => by simpa [identities] using h i hi]

theorem mirroredUnions_eq_self {shown : List (List Nat)} (st : Statements)
    (unions : Option (List UnionEntry)) (h : ∀ i ∈ shown, i ∉ identitiesUnions unions) :
    mirroredUnions unions shown st = unions := by
  match unions with
  | none => rfl
  | some entries =>
    rw [mirroredUnions,
      mirroredMembers_eq_self st entries fun i hi => by simpa [identitiesUnions] using h i hi]

theorem mirroredMembers_eq_self {shown : List (List Nat)} (st : Statements)
    (entries : List UnionEntry) (h : ∀ i ∈ shown, i ∉ identitiesMembers entries) :
    mirroredMembers entries shown st = entries := by
  match entries with
  | [] => rfl
  | { statements, identity, .. } :: entries =>
    have hother : shown.contains identity = false := by
      rw [← Bool.not_eq_true, List.contains_iff_mem]
      intro hmem
      exact h identity hmem (by simp [identitiesMembers])
    have hinner : ∀ i ∈ shown, i ∉ statements.identities := fun i hi hmem =>
      h i hi (by simp [identitiesMembers, hmem])
    have hrest : ∀ i ∈ shown, i ∉ identitiesMembers entries := fun i hi hmem =>
      h i hi (by simp [identitiesMembers, hmem])
    rw [mirroredMembers, hother, if_neg Bool.false_ne_true, mirrored_eq_self st statements hinner,
      mirroredMembers_eq_self st entries hrest]

end

/-- Without members to look for statements stay as they are. -/
@[simp]
theorem mirrored_nil (st s : Statements) : s.mirrored [] st = s :=
  mirrored_eq_self st s (List.forall_mem_nil _)

end Statements

/-! ## Settled records -/

namespace Session

/-- The statements of record `n` are those of record `m`, or have them as a member. -/
def Holds (s : Session) (n m : Nat) : Prop :=
  n = m ∨ ∃ st identity, s.records[n]? = some st ∧ (identity, m) ∈ s.members ∧
    identity ∈ st.identities

variable {s : Session} {n m : Nat} {st : Statements}

/-- What holds a record holds it as long as it is as it was and no union gets that as a member. -/
theorem Holds.of_kept {s' : Session} (h : s'.Holds n m) (hst : s.records[n]? = s'.records[n]?)
    (hmembers : ∀ identity, (identity, m) ∈ s'.members → (identity, m) ∈ s.members) :
    s.Holds n m := by
  obtain heq | ⟨st, identity, hst', hmember, hidentity⟩ := h
  · exact .inl heq
  · exact .inr ⟨st, identity, hst.trans hst', hmembers _ hmember, hidentity⟩

@[simp]
theorem settled_builders (s : Session) (n : Nat) : (s.settled n).builders = s.builders := by
  unfold settled
  split <;> rfl

@[simp]
theorem settled_members (s : Session) (n : Nat) : (s.settled n).members = s.members := by
  unfold settled
  split <;> rfl

@[simp]
theorem settled_functions (s : Session) (n : Nat) : (s.settled n).functions = s.functions := by
  unfold settled
  split <;> rfl

@[simp]
theorem settled_named (s : Session) (n : Nat) :
    (s.settled n).first = s.first ∧ (s.settled n).second = s.second ∧
      (s.settled n).standing = s.standing := by
  unfold settled
  split <;> exact ⟨rfl, rfl, rfl⟩

@[simp]
theorem size_settled (s : Session) (n : Nat) : (s.settled n).records.size = s.records.size := by
  unfold settled
  split
  · rfl
  · simp

/-- What settling a record makes of the statements of any record. -/
theorem getElem?_settled (hst : s.records[n]? = some st) (m : Nat) :
    ∃ path shown, (∀ i ∈ shown, (i, n) ∈ s.members) ∧ (s.settled n).records[m]? =
      if n = m then some (st.toldApart path)
      else s.records[m]?.map (·.mirrored shown (st.toldApart path)) := by
  refine ⟨[s.objects + 1], (s.members.filter (·.2 == n)).map (·.1), fun i hi => ?_, ?_⟩
  · obtain ⟨⟨i', n'⟩, hmem, rfl⟩ := List.mem_map.1 hi
    obtain ⟨hmem, hn⟩ := List.mem_filter.1 hmem
    rwa [show n' = n from beq_iff_eq.1 hn] at hmem
  · have hlt := (Array.getElem?_eq_some_iff.1 hst).1
    rw [settled, hst]
    dsimp only
    rw [Array.getElem?_setIfInBounds, Array.getElem?_map, Array.size_map]
    split <;> simp_all

/-- A record that does not hold the one that is settled stays as it is. -/
theorem settled_of_not_holds (hholds : ¬ s.Holds m n) (hst : s.records[m]? = some st) :
    (s.settled n).records[m]? = some st := by
  have hne : n ≠ m := fun heq => hholds (.inl heq.symm)
  cases hn : s.records[n]? with
  | none =>
    rw [settled, hn]
    exact hst
  | some st' =>
    obtain ⟨path, shown, hshown, hsettled⟩ := getElem?_settled hn m
    rw [hsettled, if_neg hne, hst, Option.map_some]
    rw [Statements.mirrored_eq_self _ st fun i hi hmem =>
      hholds (.inr ⟨st, i, hst, hshown i hi, hmem⟩)]

end Session

end SqlBuilder
