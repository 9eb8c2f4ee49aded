import Mathlib.Data.List.Forall2
import SqlBuilder.Builder.Fetching

/-!
# Rows by their first value

Values are the same key of a map if they are one object, equal numbers, moments that fall together,
or made of parts that are the same (`Value.Matches`). So keys that are the same as one key are the
same as each other (`Value.same_trans`, `Value.same_symm`): a key that is among all first values so
far is the same as one that was kept.

`keyedRows_eq`: rows by their first value are the rows whose first value no row before them has, in
their order.
-/

set_option autoImplicit false

namespace SqlBuilder

open Number

namespace Value

/-! ## What makes values the same key -/

/-- A value that is compared as a key of its own kind, whatever its parts are. -/
def isHashed : Value → Bool
  | .list _ | .map _ | .record _ _ | .column _ => false
  | _ => true

/-- Item by item the same. -/
abbrev SameItems (xs ys : List Value) : Prop := List.Forall₂ (fun x y => x.same y = true) xs ys

/-- Part by part the same. -/
structure SameParts (c d : Condition) : Prop where
  key : c.key.same d.key = true
  operator : c.operator.same d.operator = true
  value : c.value.same d.value = true
  joiner : c.joiner.same d.joiner = true
  leading : c.leading.same d.leading = true
  columns : SameItems c.columns d.columns

/-- What makes two values the same key. -/
inductive Matches : Value → Value → Prop
  | identical {a b : Value} : a.identical b = true → Matches a b
  | number {a b : Value} {x : Exact} : a.number? = some x → b.number? = some x → x ≠ .notANumber →
      a.isSignalling = false → b.isSignalling = false → Matches a b
  | null : Matches .null .null
  | text (s : String) : Matches (.text s) (.text s)
  | bytes (octets : List UInt8) : Matches (.bytes octets) (.bytes octets)
  | moment {k k' : MomentKind} {s s' : String} : (Moment.read k s).same (Moment.read k' s') = true →
      samePlace (.moment k s) (.moment k' s') = true → Matches (.moment k s) (.moment k' s')
  | builder (id : Nat) (kind kind' : BuilderKind) : Matches (.builder id kind) (.builder id kind')
  | tuple {xs ys : List Value} : SameItems xs ys → Matches (.tuple xs) (.tuple ys)
  | raw (sql : String) {xs ys : List Value} : SameItems xs ys → Matches (.raw sql xs) (.raw sql ys)
  | aliased {x y n m : Value} : x.same y = true → n.same m = true →
      Matches (.aliased x n) (.aliased y m)
  | group {cs ds : List Condition} : List.Forall₂ SameParts cs ds → Matches (.group cs) (.group ds)

theorem allMet_cons_eq {x : Option Bool} {rest : List (Option Bool)} :
    allMet (x :: rest) = some true ↔ x = some true ∧ allMet rest = some true := by
  rcases x with _ | _ | _ <;> simp [allMet]

theorem same_iff {a b : Value} :
    a.same b = true ↔ alike a b (equal? a b) = some true ∧ samePlace a b = true := by
  simp [same]

theorem sameItems_iff {xs ys : List Value} :
    SameItems xs ys ↔ equalAll? xs ys = some true ∧ samePlaces xs ys = true := by
  induction xs generalizing ys with
  | nil =>
    cases ys <;> simp [SameItems, equalAll?, samePlaces]
  | cons x xs ih =>
    cases ys with
    | nil => simp [SameItems, equalAll?]
    | cons y ys =>
      rw [SameItems, List.forall₂_cons, ← SameItems, ih, same_iff, equalAll?, samePlaces]
      simp only [allMet_cons_eq, Bool.and_eq_true]
      simp only [allMet]
      tauto

theorem sameParts_iff {c d : Condition} :
    SameParts c d ↔ equalCondition? c d = some true ∧ sameConditionPlace c d = true := by
  obtain ⟨key, operator, value, joiner, leading, columns⟩ := c
  obtain ⟨key', operator', value', joiner', leading', columns'⟩ := d
  have hparts : SameParts ⟨key, operator, value, joiner, leading, columns⟩
      ⟨key', operator', value', joiner', leading', columns'⟩ ↔
      key.same key' = true ∧ operator.same operator' = true ∧ value.same value' = true ∧
        joiner.same joiner' = true ∧ leading.same leading' = true ∧ SameItems columns columns' :=
    ⟨fun h => ⟨h.key, h.operator, h.value, h.joiner, h.leading, h.columns⟩,
      fun ⟨h₁, h₂, h₃, h₄, h₅, h₆⟩ => ⟨h₁, h₂, h₃, h₄, h₅, h₆⟩⟩
  rw [hparts, sameItems_iff, equalCondition?, sameConditionPlace]
  simp only [same_iff, allMet_cons_eq, Bool.and_eq_true]
  simp only [allMet]
  tauto

theorem forall₂_sameParts_iff {cs ds : List Condition} :
    List.Forall₂ SameParts cs ds ↔
      equalConditions? cs ds = some true ∧ sameConditionPlaces cs ds = true := by
  induction cs generalizing ds with
  | nil =>
    cases ds <;> simp [equalConditions?, sameConditionPlaces]
  | cons c cs ih =>
    cases ds with
    | nil => simp [equalConditions?]
    | cons d ds =>
      rw [List.forall₂_cons, ih, sameParts_iff, equalConditions?, sameConditionPlaces]
      simp only [allMet_cons_eq, Bool.and_eq_true]
      simp only [allMet]
      tauto

theorem matches_of_equalScalar {a b : Value} (h : equalScalar? a b = some true)
    (hplace : samePlace a b = true) : Matches a b := by
  unfold equalScalar? at h
  split at h
  · exact .null
  · rename_i s s'
    obtain rfl : s = s' := by simpa using h
    exact .text s
  · rename_i o o'
    obtain rfl : o = o' := by simpa using h
    exact .bytes o
  · exact .moment (by simpa using h) hplace
  · rename_i id kind id' kind'
    obtain rfl : id = id' := by simpa using h
    exact .builder id kind kind'
  · split at h
    · rename_i x y hx hy
      split at h
      · cases h
      · rename_i hsignalling
        have hsame : x.same y = true := by simpa using h
        have hne : x ≠ .notANumber := by
          simp only [Exact.same, Bool.and_eq_true, bne_iff_ne] at hsame
          exact hsame.2
        have hboth : a.isSignalling = false ∧ b.isSignalling = false := by simpa using hsignalling
        exact .number hx (Exact.eq_of_same hsame ▸ hy) hne hboth.1 hboth.2
    · exact .identical (by simpa using h)

theorem matches_of_same {a b : Value} (ha : a.isHashed = true) (h : a.same b = true) :
    Matches a b := by
  obtain ⟨hequal, hplace⟩ := same_iff.1 h
  rw [alike] at hequal
  split at hequal
  · rename_i hid
    exact .identical hid
  · rw [equal?.eq_def] at hequal
    split at hequal
    · cases ha
    · rw [samePlace] at hplace
      exact .tuple (sameItems_iff.2 ⟨hequal, hplace⟩)
    · rename_i sql xs sql' ys _
      split at hequal
      · rename_i hsql
        obtain rfl : sql = sql' := by simpa using hsql
        rw [samePlace] at hplace
        exact .raw sql (sameItems_iff.2 ⟨hequal, hplace⟩)
      · cases hequal
    · cases ha
    · cases ha
    · rename_i x n y m
      rw [samePlace, Bool.and_eq_true] at hplace
      rw [allMet_cons_eq, allMet_cons_eq] at hequal
      exact .aliased (same_iff.2 ⟨hequal.1, hplace.1⟩) (same_iff.2 ⟨hequal.2.1, hplace.2⟩)
    · rw [samePlace] at hplace
      exact .group (forall₂_sameParts_iff.2 ⟨hequal, hplace⟩)
    · cases ha
    · exact matches_of_equalScalar hequal hplace

theorem samePlace_of_identical {a b : Value} (h : a.identical b = true) : samePlace a b = true := by
  unfold identical at h
  split at h
  case h_6 => cases h
  all_goals simp [samePlace]

theorem samePlace_of_number {a b : Value} {x : Exact} (h : a.number? = some x) :
    samePlace a b = true := by
  unfold number? at h
  split at h
  case h_5 => cases h
  all_goals simp [samePlace]

theorem equal?_of_number {a b : Value} {x : Exact} (ha : a.number? = some x)
    (hb : b.number? = some x) (hx : x ≠ .notANumber) (ha' : a.isSignalling = false)
    (hb' : b.isSignalling = false) : equal? a b = some true := by
  have hscalar : equal? a b = equalScalar? a b := by
    unfold number? at ha
    split at ha
    case h_5 => cases ha
    all_goals simp [equal?]
  have hnumbers : equalScalar? a b = some (x.same x) := by
    unfold equalScalar?
    split
    case h_6 => simp [ha, hb, ha', hb']
    all_goals cases ha
  rw [hscalar, hnumbers]
  simp [Exact.same, hx]

theorem same_of_matches {a b : Value} (h : Matches a b) : a.same b = true := by
  have of_equal {a b : Value} (hequal : equal? a b = some true) (hplace : samePlace a b = true) :
      a.same b = true := by
    refine same_iff.2 ⟨?_, hplace⟩
    rw [alike, hequal, ite_self]
  cases h with
  | identical h => exact same_iff.2 ⟨if_pos h, samePlace_of_identical h⟩
  | number ha hb hx ha' hb' =>
    exact of_equal (equal?_of_number ha hb hx ha' hb') (samePlace_of_number ha)
  | null => simp [same, alike, equal?, equalScalar?, samePlace]
  | text s => simp [same, alike, equal?, equalScalar?, samePlace]
  | bytes o => simp [same, alike, equal?, equalScalar?, samePlace]
  | moment h hplace => exact of_equal (by simp [equal?, equalScalar?, h]) hplace
  | builder id kind kind' => simp [same, alike, equal?, equalScalar?, samePlace]
  | tuple h =>
    obtain ⟨hequal, hplace⟩ := sameItems_iff.1 h
    exact of_equal (by rw [equal?, hequal]) (by rw [samePlace, hplace])
  | raw sql h =>
    obtain ⟨hequal, hplace⟩ := sameItems_iff.1 h
    exact of_equal (by rw [equal?, if_pos (by simp), hequal]) (by rw [samePlace, hplace])
  | aliased hx hn =>
    obtain ⟨hxequal, hxplace⟩ := same_iff.1 hx
    obtain ⟨hnequal, hnplace⟩ := same_iff.1 hn
    exact of_equal (by rw [equal?, hxequal, hnequal]; rfl)
      (by rw [samePlace, hxplace, hnplace]; rfl)
  | group h =>
    obtain ⟨hequal, hplace⟩ := forall₂_sameParts_iff.1 h
    exact of_equal (by rw [equal?, hequal]) (by rw [samePlace, hplace])

/-! ## Keys that are the same as one key -/

theorem identical_trans {a b c : Value} (hab : a.identical b = true) (hbc : b.identical c = true) :
    a.identical c = true := by
  unfold identical at hab
  split at hab
  case h_6 => cases hab
  all_goals
    unfold identical at hbc
    split at hbc
    all_goals simp_all [identical]

theorem number_of_identical {a b : Value} {x : Exact} (h : a.identical b = true)
    (hx : a.number? = some x ∨ b.number? = some x) : a = b := by
  unfold identical at h
  split at h
  case h_6 => cases h
  all_goals simp_all [number?]

theorem isHashed_of_isKey {a : Value} (h : a.isKey = true) : a.isHashed = true := by
  cases a <;> first | rfl | cases h

theorem isKey_of_mem {xs : List Value} (h : allKeys xs = true) : ∀ x ∈ xs, x.isKey = true := by
  induction xs with
  | nil => simp
  | cons x xs ih =>
    rw [allKeys, Bool.and_eq_true] at h
    exact List.forall_mem_cons.2 ⟨h.1, ih h.2⟩

theorem isConditionKey_of_mem {cs : List Condition} (h : allConditionKeys cs = true) :
    ∀ c ∈ cs, isConditionKey c = true := by
  induction cs with
  | nil => simp
  | cons c cs ih =>
    rw [allConditionKeys, Bool.and_eq_true] at h
    exact List.forall_mem_cons.2 ⟨h.1, ih h.2⟩

theorem Matches.isHashed {a b : Value} (h : Matches a b) : b.isHashed = true := by
  cases h with
  | identical h =>
    unfold Value.identical at h
    split at h
    case h_6 => cases h
    all_goals rfl
  | number _ hb =>
    unfold number? at hb
    split at hb
    case h_5 => cases hb
    all_goals rfl
  | _ => rfl

theorem forall₂_trans {α : Type} {R : α → α → Prop} {xs ys zs : List α}
    (h : ∀ x ∈ xs, ∀ y z, R x y → R y z → R x z) (hxy : List.Forall₂ R xs ys)
    (hyz : List.Forall₂ R ys zs) : List.Forall₂ R xs zs := by
  induction hxy generalizing zs with
  | nil => exact hyz
  | cons hx _ ih =>
    cases hyz with
    | cons hy hyz =>
      obtain ⟨hhead, htail⟩ := List.forall_mem_cons.1 h
      exact .cons (hhead _ _ hx hy) (ih htail hyz)

theorem moment_same_trans {l m n : Moment} (hlm : l.same m = true) (hmn : m.same n = true) :
    l.same n = true := by
  simp_all [Moment.same, Moment.isComparable]

theorem kind_of_same {k k' : MomentKind} {s s' : String}
    (h : (Moment.read k s).same (Moment.read k' s') = true) : k = k' := by
  have hkind : ∀ k s, (Moment.read k s).kind = k := by
    intro k s
    cases k <;> rfl
  simp only [Moment.same, Moment.isComparable, Bool.and_eq_true, beq_iff_eq, hkind] at h
  exact h.1.1

/-- What is the same as the value is the same as what that is the same as. -/
abbrev Linking (x : Value) : Prop :=
  ∀ y z : Value, x.same y = true → y.same z = true → x.same z = true

theorem SameParts.trans {c d e : Condition} (hc : isConditionKey c = true)
    (ih : ∀ x : Value, sizeOf x < sizeOf c → x.isKey = true → Linking x) (hcd : SameParts c d)
    (hde : SameParts d e) : SameParts c e := by
  obtain ⟨key, operator, value, joiner, leading, columns⟩ := c
  simp only [isConditionKey, Bool.and_eq_true] at hc
  obtain ⟨⟨⟨⟨⟨hkey, hoperator⟩, hvalue⟩, hjoiner⟩, hleading⟩, hcolumns⟩ := hc
  refine ⟨ih _ (by simp; omega) hkey _ _ hcd.key hde.key,
    ih _ (by simp; omega) hoperator _ _ hcd.operator hde.operator,
    ih _ (by simp; omega) hvalue _ _ hcd.value hde.value,
    ih _ (by simp; omega) hjoiner _ _ hcd.joiner hde.joiner,
    ih _ (by simp; omega) hleading _ _ hcd.leading hde.leading,
    forall₂_trans (fun x hx => ih x ?_ (isKey_of_mem hcolumns x hx)) hcd.columns hde.columns⟩
  have hlt : sizeOf x < sizeOf columns := List.sizeOf_lt_of_mem hx
  simp
  omega

theorem Matches.trans {a b c : Value} (ha : a.isKey = true)
    (ih : ∀ x : Value, sizeOf x < sizeOf a → x.isKey = true → Linking x) (hab : Matches a b)
    (hbc : Matches b c) : Matches a c := by
  cases hab with
  | identical h =>
    cases hbc with
    | identical h' => exact .identical (identical_trans h h')
    | number hb hc hx hb' hc' =>
      obtain rfl := number_of_identical h (.inr hb)
      exact .number hb hc hx hb' hc'
    | _ => simp [Value.identical] at h
  | number hx hy hne hx' hy' =>
    cases hbc with
    | identical h' =>
      obtain rfl := number_of_identical h' (.inl hy)
      exact .number hx hy hne hx' hy'
    | number hy₂ hz _ _ hz' =>
      cases hy.symm.trans hy₂
      exact .number hx hz hne hx' hz'
    | _ => cases hy
  | null => exact hbc
  | text s => exact hbc
  | bytes o => exact hbc
  | moment h hplace =>
    cases hbc with
    | moment h' hplace' =>
      obtain rfl := kind_of_same h
      obtain rfl := kind_of_same h'
      refine .moment (moment_same_trans h h') ?_
      rename_i k _ _ _
      cases k with
      | time => simp_all [samePlace]
      | date | dateTime => simp [samePlace]
    | identical h' => cases h'
    | number h' => cases h'
  | builder id kind kind' =>
    cases hbc with
    | builder => exact .builder _ _ _
    | identical h' => cases h'
    | number h' => cases h'
  | tuple h =>
    rw [isKey] at ha
    cases hbc with
    | tuple h' =>
      refine .tuple (forall₂_trans (fun x hx => ih x ?_ (isKey_of_mem ha x hx)) h h')
      have := List.sizeOf_lt_of_mem hx
      simp
      omega
    | identical h' => cases h'
    | number h' => cases h'
  | raw sql h =>
    rw [isKey] at ha
    cases hbc with
    | raw _ h' =>
      refine .raw sql (forall₂_trans (fun x hx => ih x ?_ (isKey_of_mem ha x hx)) h h')
      have := List.sizeOf_lt_of_mem hx
      simp
      omega
    | identical h' => cases h'
    | number h' => cases h'
  | aliased hx hn =>
    rw [isKey, Bool.and_eq_true] at ha
    cases hbc with
    | aliased hx' hn' =>
      exact .aliased (ih _ (by rw [aliased.sizeOf_spec]; omega) ha.1 _ _ hx hx')
        (ih _ (by rw [aliased.sizeOf_spec]; omega) ha.2 _ _ hn hn')
    | identical h' => cases h'
    | number h' => cases h'
  | group h =>
    rw [isKey] at ha
    cases hbc with
    | group h' =>
      refine .group (forall₂_trans (fun c hc d e => SameParts.trans
        (isConditionKey_of_mem ha c hc) fun x hx => ih x ?_) h h')
      have := List.sizeOf_lt_of_mem hc
      simp
      omega
    | identical h' => cases h'
    | number h' => cases h'

/-- Keys that are the same as one key are the same as each other. The induction is on the size of
the first, since its parts are compared in the same way. -/
theorem same_trans {a b c : Value} (ha : a.isKey = true) (hab : a.same b = true)
    (hbc : b.same c = true) : a.same c = true := by
  have hmatches := matches_of_same (isHashed_of_isKey ha) hab
  have hmatches' := matches_of_same hmatches.isHashed hbc
  exact same_of_matches (hmatches.trans ha (fun _ _ hx _ _ => same_trans hx) hmatches')
termination_by sizeOf a

theorem identical_symm {a b : Value} (h : a.identical b = true) : b.identical a = true := by
  unfold identical at h
  split at h
  case h_6 => cases h
  all_goals simp_all [identical]

theorem forall₂_symm {α : Type} {R : α → α → Prop} {xs ys : List α}
    (h : ∀ x ∈ xs, ∀ y, R x y → R y x) (hxy : List.Forall₂ R xs ys) : List.Forall₂ R ys xs := by
  induction hxy with
  | nil => exact .nil
  | cons hx _ ih =>
    obtain ⟨hhead, htail⟩ := List.forall_mem_cons.1 h
    exact .cons (hhead _ hx) (ih htail)

/-- What the value is the same as is the same as the value. -/
abbrev Returning (x : Value) : Prop := ∀ y : Value, x.same y = true → y.same x = true

theorem SameParts.symm {c d : Condition} (hc : isConditionKey c = true)
    (ih : ∀ x : Value, sizeOf x < sizeOf c → x.isKey = true → Returning x) (hcd : SameParts c d) :
    SameParts d c := by
  obtain ⟨key, operator, value, joiner, leading, columns⟩ := c
  simp only [isConditionKey, Bool.and_eq_true] at hc
  obtain ⟨⟨⟨⟨⟨hkey, hoperator⟩, hvalue⟩, hjoiner⟩, hleading⟩, hcolumns⟩ := hc
  refine ⟨ih _ (by simp; omega) hkey _ hcd.key, ih _ (by simp; omega) hoperator _ hcd.operator,
    ih _ (by simp; omega) hvalue _ hcd.value, ih _ (by simp; omega) hjoiner _ hcd.joiner,
    ih _ (by simp; omega) hleading _ hcd.leading,
    forall₂_symm (fun x hx => ih x ?_ (isKey_of_mem hcolumns x hx)) hcd.columns⟩
  have hlt : sizeOf x < sizeOf columns := List.sizeOf_lt_of_mem hx
  simp
  omega

theorem Matches.symm {a b : Value} (ha : a.isKey = true)
    (ih : ∀ x : Value, sizeOf x < sizeOf a → x.isKey = true → Returning x) (hab : Matches a b) :
    Matches b a := by
  cases hab with
  | identical h => exact .identical (identical_symm h)
  | number hx hy hne hx' hy' => exact .number hy hx hne hy' hx'
  | null => exact .null
  | text s => exact .text s
  | bytes o => exact .bytes o
  | moment h hplace =>
    obtain rfl := kind_of_same h
    refine .moment (by simp_all [Moment.same, Moment.isComparable]) ?_
    rename_i k _ _
    cases k with
    | time => simp_all [samePlace]
    | date | dateTime => simp [samePlace]
  | builder id kind kind' => exact .builder id kind' kind
  | tuple h =>
    rw [isKey] at ha
    refine .tuple (forall₂_symm (fun x hx => ih x ?_ (isKey_of_mem ha x hx)) h)
    have := List.sizeOf_lt_of_mem hx
    simp
    omega
  | raw sql h =>
    rw [isKey] at ha
    refine .raw sql (forall₂_symm (fun x hx => ih x ?_ (isKey_of_mem ha x hx)) h)
    have := List.sizeOf_lt_of_mem hx
    simp
    omega
  | aliased hx hn =>
    rw [isKey, Bool.and_eq_true] at ha
    exact .aliased (ih _ (by rw [aliased.sizeOf_spec]; omega) ha.1 _ hx)
      (ih _ (by rw [aliased.sizeOf_spec]; omega) ha.2 _ hn)
  | group h =>
    rw [isKey] at ha
    refine .group (forall₂_symm (fun c hc d => SameParts.symm (isConditionKey_of_mem ha c hc)
      fun x hx => ih x ?_) h)
    have := List.sizeOf_lt_of_mem hc
    simp
    omega

/-- Keys are the same as each other. -/
theorem same_symm {a b : Value} (ha : a.isKey = true) (h : a.same b = true) : b.same a = true := by
  have hmatches := matches_of_same (isHashed_of_isKey ha) h
  exact same_of_matches (hmatches.symm ha fun _ _ hx _ => same_symm hx)
termination_by sizeOf a

theorem isSome_lookup_append {α : Type} (entries : List (Value × α)) (k : Value) (v : α)
    (key : Value) :
    (lookup (entries ++ [(k, v)]) key).isSome = ((lookup entries key).isSome || k.same key) := by
  induction entries with
  | nil =>
    simp only [List.nil_append, lookup]
    split <;> simp_all
  | cons entry entries ih =>
    simp only [List.cons_append, lookup]
    split
    · rfl
    · exact ih

end Value

namespace Builder

open Value

/-! ## The first rows -/

/-- The rows whose first value no row before them has; `seen` are the first values so far. -/
def firstRows (seen : List Value) : List Row → List Row
  | [] => []
  | row :: rows =>
    let key := Driver.firstValue row
    if seen.any (·.same key) then firstRows (seen ++ [key]) rows
    else row :: firstRows (seen ++ [key]) rows

/-- A row as an object, under its first value. -/
def keyedRow (row : Row) : Value × Value := (Driver.firstValue row, .record .row row)

/-- The columns of the row have names. -/
def IsNamed (row : Row) : Prop := ∀ entry ∈ row, entry.1.isText = true

theorem asRecord_of_isNamed {row : Row} (h : IsNamed row) : asRecord row = .ok (.record .row row) :=
  if_pos (List.all_eq_true.2 h)

/-- What one more row adds. -/
def keyedStep (keyed : List (Value × Value)) (row : Row) : Result (List (Value × Value)) := do
  let key := Driver.firstValue row
  let object ← asRecord row
  if !key.isKey then misuse .wrongType
  else match Value.lookup keyed key with
    | some _ => pure keyed
    | none => pure (keyed ++ [(key, object)])

theorem keyedStep_of_isKey {keyed : List (Value × Value)} {row : Row} (hnamed : IsNamed row)
    (hkey : (Driver.firstValue row).isKey = true) :
    keyedStep keyed row = .ok (if (Value.lookup keyed (Driver.firstValue row)).isSome then keyed
      else keyed ++ [keyedRow row]) := by
  simp only [keyedStep, asRecord_of_isNamed hnamed, hkey]
  cases Value.lookup keyed (Driver.firstValue row) <;> rfl

theorem foldlM_keyedStep {rows : List Row} {seen : List Value} {keyed : List (Value × Value)}
    (hnamed : ∀ row ∈ rows, IsNamed row)
    (hkeys : ∀ row ∈ rows, (Driver.firstValue row).isKey = true)
    (hseen : ∀ key ∈ seen, key.isKey = true)
    (hfound : ∀ key, (Value.lookup keyed key).isSome = seen.any (·.same key)) :
    rows.foldlM keyedStep keyed = .ok (keyed ++ (firstRows seen rows).map keyedRow) := by
  induction rows generalizing seen keyed with
  | nil => simp [firstRows, pure, Except.pure]
  | cons row rows ih =>
    obtain ⟨hrow, hnamed⟩ := List.forall_mem_cons.1 hnamed
    obtain ⟨hkey, hkeys⟩ := List.forall_mem_cons.1 hkeys
    have hseen' : ∀ key ∈ seen ++ [Driver.firstValue row], key.isKey = true :=
      List.forall_mem_append.2 ⟨hseen, by simpa using hkey⟩
    rw [List.foldlM_cons, keyedStep_of_isKey hrow hkey, hfound, firstRows]
    dsimp only [bind, Except.bind]
    cases hany : seen.any (·.same (Driver.firstValue row)) with
    | true =>
      refine ih hnamed hkeys hseen' fun key => ?_
      -- What the row could add to the keys is the same as a key that is there.
      obtain ⟨k, hk, hsame⟩ := List.any_eq_true.1 hany
      rw [if_pos rfl, hfound, List.any_append, List.any_cons, List.any_nil, Bool.or_false]
      refine (Bool.or_eq_left_iff_imp.2 ?_).symm
      exact fun h => List.any_eq_true.2 ⟨k, hk, same_trans (hseen k hk) hsame h⟩
    | false =>
      have hfound' : ∀ key, (Value.lookup (keyed ++ [keyedRow row]) key).isSome =
          (seen ++ [Driver.firstValue row]).any (·.same key) := by
        intro key
        rw [keyedRow, isSome_lookup_append, hfound, List.any_append, List.any_cons, List.any_nil,
          Bool.or_false]
      have hnext := ih hnamed hkeys hseen' hfound'
      simpa using hnext

/-- Rows by their first value are the first rows, in their order. -/
theorem keyedRows_eq {rows : List Row} (hnamed : ∀ row ∈ rows, IsNamed row)
    (hkeys : ∀ row ∈ rows, (Driver.firstValue row).isKey = true) :
    keyedRows rows = .ok ((firstRows [] rows).map keyedRow) :=
  foldlM_keyedStep hnamed hkeys (by simp) fun _ => rfl

theorem foldlM_keyedStep_of_not_isKey {rows : List Row} (hnamed : ∀ row ∈ rows, IsNamed row)
    (hkeys : ¬ ∀ row ∈ rows, (Driver.firstValue row).isKey = true) (keyed : List (Value × Value)) :
    rows.foldlM keyedStep keyed = misuse .wrongType := by
  induction rows generalizing keyed with
  | nil => exact absurd (fun _ h => absurd h List.not_mem_nil) hkeys
  | cons row rows ih =>
    obtain ⟨hrow, hnamed⟩ := List.forall_mem_cons.1 hnamed
    rw [List.foldlM_cons]
    cases hkey : (Driver.firstValue row).isKey with
    | true =>
      rw [keyedStep_of_isKey hrow hkey]
      exact ih hnamed (fun hall => hkeys (List.forall_mem_cons.2 ⟨hkey, hall⟩)) _
    | false =>
      simp only [keyedStep, asRecord_of_isNamed hrow, hkey]
      rfl

/-- A first value that cannot be a key stops it. -/
theorem keyedRows_of_not_isKey {rows : List Row} (hnamed : ∀ row ∈ rows, IsNamed row)
    (hkeys : ¬ ∀ row ∈ rows, (Driver.firstValue row).isKey = true) :
    keyedRows rows = misuse .wrongType :=
  foldlM_keyedStep_of_not_isKey hnamed hkeys []

end Builder

end SqlBuilder
