import SqlBuilder.Proofs.Splicing.Tables

/-!
# Raw fragments as values

An `OperandPlace` is a place for a value that the compiler binds or writes: what a condition
compares with, an item of the list it compares with, a datum of a row. `written` is what is written
for the value, in one context whatever the value is (`uniform_operand`).

A raw fragment is written as it stands, with its bindings, where a single value may stand. Among the
items of a list, and so as either end of a range, it is bound as a text.
-/

set_option autoImplicit false

namespace SqlBuilder

open Fragment Text

/-! ## Conditions with a hole -/

/-- Where a value stands in what a condition compares with. -/
inductive OperandHole where
  /-- It is what is compared with. -/
  | whole
  /-- It is an item of a list. -/
  | item (inTuple : Bool) (front back : List Value)

/-- A condition with a place for a value, itself in groups or not. -/
inductive ConditionHole where
  | compared (c : Condition) (operand : OperandHole)
  | grouped (c : Condition) (front : List Condition) (inner : ConditionHole)
      (back : List Condition)

namespace OperandHole

/-- What is compared with, with a value in the place. -/
def fill : OperandHole → Value → Value
  | whole, v => v
  | item inTuple front back, v => Value.sequence inTuple (front ++ v :: back)

/-- The value is read: of a range only the first two items are. -/
def Reads (operator : Value) : OperandHole → Prop
  | whole => True
  | item _ front _ => isBetween operator = true → front.length < 2

/-- The value may stand in the place: a single value that is compared with, or any item. -/
def Fits (bindValues : Bool) (key operator : Value) : OperandHole → Value → Prop
  | whole, v => v.items? = none ∧ Adapter.standsAlone bindValues key operator v = false
  | item .., _ => True

/-- What is written for the value. -/
def written (a : Adapter) (bindValues : Bool) : OperandHole → Value → Fragment
  | whole, v => a.scalarSide bindValues v
  | item .., v => Fragment.bound v.normalize

/-- The place is in a list. -/
def isItem : OperandHole → Bool
  | whole => false
  | item .. => true

end OperandHole

namespace ConditionHole

/-- The condition with a value in the place. -/
def fill : ConditionHole → Value → Condition
  | compared c operand, v => { c with value := operand.fill v }
  | grouped c front inner back, v => { c with key := .group (front ++ inner.fill v :: back) }

/-- The value is read: the condition is a comparison, or a group in which one is. -/
def Reads : ConditionHole → Prop
  | compared c operand => c.columns = [] ∧ (∀ gs, c.key ≠ .group gs) ∧ operand.Reads c.operator
  | grouped c _ inner _ => c.columns = [] ∧ inner.Reads

/-- The value may stand in the place. -/
def Fits (bindValues : Bool) : ConditionHole → Value → Prop
  | compared c operand, v => operand.Fits bindValues c.key c.operator v
  | grouped _ _ inner _, v => inner.Fits true v

/-- What is written for the value; in groups all values are bound. -/
def written (a : Adapter) (bindValues : Bool) : ConditionHole → Value → Fragment
  | compared _ operand, v => operand.written a bindValues v
  | grouped _ _ inner _, v => inner.written a true v

theorem fill_joiner (hole : ConditionHole) (v : Value) :
    (hole.fill v).joiner = (hole.fill .null).joiner := by
  cases hole <;> rfl

theorem fill_leading (hole : ConditionHole) (v : Value) :
    (hole.fill v).leading = (hole.fill .null).leading := by
  cases hole <;> rfl

/-- The place is in a list. -/
def isItem : ConditionHole → Bool
  | compared _ operand => operand.isItem
  | grouped _ _ inner _ => inner.isItem

end ConditionHole

namespace Adapter

variable {α : Type} {w : α → Fragment} {v : α → Value} (a : Adapter)

/-! ## Comparisons -/

/-- What is written for the items of a list. -/
theorem framed_listSide {operator : Value} {inTuple : Bool} {front back : List Value}
    (h : (OperandHole.item inTuple front back).Reads operator) :
    Framed (fun x => Fragment.bound (v x).normalize)
      fun x => listSide operator (front ++ v x :: back) := by
  cases hbetween : isBetween operator with
  | false =>
    simp only [listSide, hbetween, Bool.false_eq_true, if_false, placeholders, List.map_append,
      List.map_cons]
    exact (Framed.intercalate ⟨_, _, _, .self _, fun _ => rfl⟩ ", ").parenthesized
  | true =>
    simp only [listSide, hbetween, if_true]
    rcases front with _ | ⟨least, _ | ⟨_, _⟩⟩
    · exact ((Framed.self _).append_const ⟨" AND ?", (back.take 1).map Value.normalize⟩).congr
        fun _ => rfl
    · exact ((Framed.self _).const_append ⟨"? AND ", [least.normalize]⟩).congr fun _ => rfl
    · exact absurd (h hbetween) (by simp)

/-- A comparison with a value in the place. -/
theorem uniform_comparison (style : CriteriaStyle) (key : Value) {operator : Value}
    {operand : OperandHole} (h : operand.Reads operator)
    (hv : ∀ x, operand.Fits style.bindValues key operator (v x)) :
    Uniform (Among (Framed fun x => operand.written a style.bindValues (v x)))
      fun x => a.comparison style key operator (operand.fill (v x)) := by
  cases operand with
  | whole =>
    have hcomparison (x : α) : a.comparison style key operator (v x) = (do
        let _ ← operatorWord operator
        pure [compared (a.conditionKey style key) operator
          (a.scalarSide style.bindValues (v x))]) := by
      rw [comparison_scalar a style key operator (hv x).1, (hv x).2]
      rfl
    simp only [OperandHole.fill, hcomparison]
    exact .read _ fun _ => .ok ⟨[], _, [], (Framed.self _).const_append _, fun _ => rfl⟩
  | item inTuple front back =>
    have hcomparison (x : α) :
        a.comparison style key operator (Value.sequence inTuple (front ++ v x :: back)) = (do
          let _ ← operatorWord operator
          listComparison (a.conditionKey style key) operator (front ++ v x :: back)) := by
      rw [comparison_list a style key operator (Value.items?_sequence inTuple _)]
      refine congrArg (bind (operatorWord operator)) (funext fun word => ?_)
      cases emptySetPredicate? word <;> cases front <;> rfl
    have hlist (x : α) :
        listComparison (a.conditionKey style key) operator (front ++ v x :: back) =
          if !operator.isKey then misuse .wrongType
          else .ok [a.conditionKey style key ++ ofText (" " ++ operator.toText),
            listSide operator (front ++ v x :: back)] := by
      unfold listComparison listSide
      split
      · rfl
      · split <;> rfl
    simp only [OperandHole.fill, hcomparison, hlist]
    refine .read _ fun _ => ?_
    cases operator.isKey with
    | false => exact .error _
    | true => exact .ok ⟨[_], _, [], framed_listSide h, fun _ => rfl⟩

/-! ## Lists of conditions -/

/-- A piece that can be written, in a context. -/
def FramedPiece (w : α → Fragment) (p : α → Piece) : Prop :=
  ∃ g, Framed w g ∧ ∀ x, p x = some (g x)

/-- Pieces that can be written, or one that cannot. -/
theorem written_or_not (ps : List Piece) :
    (∃ fs : List Fragment, ps = fs.map some) ∨ none ∈ ps := by
  induction ps with
  | nil => exact .inl ⟨[], rfl⟩
  | cons p ps ih =>
    cases p with
    | none => exact .inr List.mem_cons_self
    | some f =>
      rcases ih with ⟨fs, rfl⟩ | h
      · exact .inl ⟨f :: fs, rfl⟩
      · exact .inr (List.mem_cons_of_mem _ h)

theorem uniform_joinPieces {ps : α → List Piece} (h : Among (FramedPiece w) ps) :
    Uniform (Framed w) fun x => joinPieces (ps x) := by
  obtain ⟨front, p, back, ⟨g, hg, hp⟩, hps⟩ := h
  rcases written_or_not front with ⟨fs, rfl⟩ | hfront
  · rcases written_or_not back with ⟨gs, rfl⟩ | hback
    · refine Uniform.congr (.ok (Framed.intercalate ⟨fs, g, gs, hg, fun _ => rfl⟩ " ")) fun x => ?_
      rw [hps, hp, ← List.map_cons, ← List.map_append, joinPieces_some]
    · refine Uniform.congr (.error _) fun x => joinPieces_none ?_
      rw [hps]
      exact List.mem_append_right _ (List.mem_cons_of_mem _ hback)
  · refine Uniform.congr (.error _) fun x => joinPieces_none ?_
    rw [hps]
    exact List.mem_append_left _ hfront

/-- The pieces of a list of conditions, one of which varies behind its joiner. -/
theorem uniform_criteriaPieces {style : CriteriaStyle} {c : α → Condition} {joiner leading : Value}
    (hjoiner : ∀ x, (c x).joiner = joiner) (hleading : ∀ x, (c x).leading = leading)
    (h : Uniform (Among (Framed w)) fun x => conditionBody a style (c x))
    (front back : List Condition) (first : Bool) :
    Uniform (Among (FramedPiece w)) fun x =>
      criteriaPieces a style first (front ++ c x :: back) := by
  induction front generalizing first with
  | nil =>
    simp only [List.nil_append, criteriaPieces, hjoiner, hleading]
    refine .read _ fun word => h.bind ?_
    rintro gs ⟨before, g, after, hg, hgs⟩
    refine .read _ fun rest => .ok ⟨(if first then wordPieces leading else []) ++
      wordPieces word ++ before.map some, _, after.map some ++ rest, ⟨g, hg, fun _ => rfl⟩,
      fun x => by simp [hgs]⟩
  | cons d front ih =>
    simp only [List.cons_append, criteriaPieces]
    refine .read _ fun word => .read _ fun body => (ih false).bind ?_
    rintro ps ⟨before, p, after, hp, hps⟩
    refine .ok ⟨(if first then wordPieces d.leading else []) ++ wordPieces word ++
      body.map some ++ before, p, after, hp, fun x => by simp [hps]⟩

theorem uniform_conditionBody (hole : ConditionHole) (h : hole.Reads) (style : CriteriaStyle)
    (hv : ∀ x, hole.Fits style.bindValues (v x)) :
    Uniform (Among (Framed fun x => hole.written a style.bindValues (v x)))
      fun x => conditionBody a style (hole.fill (v x)) := by
  induction hole generalizing style with
  | compared c operand =>
    obtain ⟨hcolumns, hkey, hread⟩ := h
    simp only [ConditionHole.fill, conditionBody, hcolumns, List.isEmpty_nil, if_true,
      keyBody_of_not_group _ _ hkey]
    exact a.uniform_comparison style c.key hread hv
  | grouped c front inner back ih =>
    obtain ⟨hcolumns, hread⟩ := h
    have hpieces := a.uniform_criteriaPieces (fun x => inner.fill_joiner (v x))
      (fun x => inner.fill_leading (v x)) (ih hread {} hv) front back true
    simp only [ConditionHole.fill, conditionBody, hcolumns, List.isEmpty_nil, if_true, keyBody]
    exact hpieces.bind fun ps hps => (uniform_joinPieces hps).bind fun g hg =>
      .ok ⟨[], _, [], hg.parenthesized, fun _ => rfl⟩

/-- A list of conditions with a value in the place. -/
theorem uniform_criteria {hole : ConditionHole} (h : hole.Reads) (style : CriteriaStyle)
    (hv : ∀ x, hole.Fits style.bindValues (v x)) (front back : List Condition) :
    Uniform (Framed fun x => hole.written a style.bindValues (v x))
      fun x => a.criteria style (front ++ hole.fill (v x) :: back) := by
  have hpieces := a.uniform_criteriaPieces (fun x => hole.fill_joiner (v x))
    (fun x => hole.fill_leading (v x)) (a.uniform_conditionBody hole h style hv) front back true
  exact hpieces.bind fun ps hps => uniform_joinPieces hps

/-! ## Data -/

/-- Assignments, one of them of the value. -/
theorem framed_assignments (front back : List (Value × Value)) (column : Value) :
    Framed (fun x => dataValue (v x)) fun x => a.assignments (front ++ (column, v x) :: back) := by
  simp only [assignments, List.map_append, List.map_cons]
  exact .intercalate ⟨_, _, _, (Framed.self _).const_append _, fun _ => rfl⟩ ", "

theorem isTrue_row (front back : List (Value × Value)) (entry : Value × Value) :
    (Value.map (front ++ entry :: back)).isTrue = true := by
  cases front <;> rfl

section Rows

variable (hw : ∀ x, Visible (dataValue (v x)).sql.toList) (front back : List (Value × Value))
  (column : Value)
include hw

/-- An insert of a row with the value. -/
theorem uniform_insert_datum (op : Operation) (s : Statements) :
    Uniform (Framed fun x => dataValue (v x))
      fun x => a.insert op s (.map (front ++ (column, v x) :: back)) := by
  simp only [insert, isTrue_row, rowEntries]
  refine .read _ fun table => .given (g := fun x => front ++ (column, v x) :: back)
    (fun _ => rfl) ?_
  simp only [List.map_append, List.map_cons]
  refine .read _ fun verb => .read _ fun update => .ok (.concatenate
    ⟨[_, _, _], _, [update, _], ?_, fun _ => rfl⟩ hw)
  exact (Framed.intercalate ⟨_, _, _, .self _, fun _ => rfl⟩ ", ").parenthesized.const_append _

/-- An insert that assigns the value to a row that is already there. -/
theorem uniform_insert_upsert (op : Operation) (s : Statements) (data : Value) :
    Uniform (Framed fun x => dataValue (v x)) fun x =>
      a.insert op { s with onDuplicate := .map (front ++ (column, v x) :: back) } data := by
  have hupsert : Uniform (Framed fun x => dataValue (v x)) fun x =>
      a.upsert { s with onDuplicate := .map (front ++ (column, v x) :: back) } := by
    have hassigned := a.framed_assignments (v := v) front back column
    simp only [upsert, isTrue_row, rowEntries]
    refine .given (g := fun x => front ++ (column, v x) :: back) (fun _ => rfl) ?_
    cases a.dialect with
    | mysql => exact .ok ((hassigned.const_append (ofText (Dialect.upsertClause ++ " "))))
    | sqlite | postgres => exact .error _
  simp only [insert]
  refine .read (targetTable s "INSERT") fun table => ?_
  cases data.isTrue with
  | false => exact .error _
  | true =>
    exact .read _ fun row => .read _ fun verb => hupsert.bind fun f hf =>
      .ok (.concatenate ⟨[_, _, _, _], f, [_], hf, fun _ => rfl⟩ hw)

/-- An update that assigns the value. -/
theorem uniform_update_datum (s : Statements) :
    Uniform (Framed fun x => dataValue (v x))
      fun x => a.update s (.map (front ++ (column, v x) :: back)) := by
  simp only [update, isTrue_row, rowEntries]
  refine .read _ fun table => .read _ fun named => .read _ fun joins =>
    .given (g := fun x => front ++ (column, v x) :: back) (fun _ => rfl) ?_
  have hassigned := (a.framed_assignments (v := v) front back column).const_append (ofText "SET ")
  exact .read _ fun wheres => .read _ fun groups => .read _ fun paging =>
    .ok (.concatenate ⟨[_, _, _], _, [_, _] ++ paging, hassigned, fun _ => rfl⟩ hw)

end Rows

end Adapter

/-! ## Places for a value -/

/-- A place for a value in a request. -/
inductive OperandPlace where
  | wheres (s : Statements) (front : List Condition) (hole : ConditionHole)
      (back : List Condition)
  | havings (s : Statements) (front : List Condition) (hole : ConditionHole)
      (back : List Condition)
  /-- In the conditions of a join. -/
  | joined (s : Statements) (before : List JoinEntry) (kind table : Value)
      (front : List Condition) (hole : ConditionHole) (back : List Condition)
      (after : List JoinEntry)
  /-- In a further member of a union. -/
  | member (s : Statements) (front : List UnionEntry) (inner : OperandPlace) (type : Value)
      (identity : List Nat) (back : List UnionEntry)
  /-- In the row to insert, or the assignments of an update. -/
  | datum (s : Statements) (front : List (Value × Value)) (column : Value)
      (back : List (Value × Value))
  /-- In the update of a row that is already there. -/
  | upsert (s : Statements) (front : List (Value × Value)) (column : Value)
      (back : List (Value × Value))

namespace OperandPlace

/-- The statements with a value in the place. -/
def fill : OperandPlace → Value → Statements
  | wheres s front hole back, v => { s with wheres := some (front ++ hole.fill v :: back) }
  | havings s front hole back, v => { s with havings := some (front ++ hole.fill v :: back) }
  | joined s before kind table front hole back after, v =>
    { s with joins := some (before ++ ⟨kind, table, front ++ hole.fill v :: back⟩ :: after) }
  | member s front inner type identity back, v =>
    { s with unions := some (front ++ ⟨inner.fill v, type, identity⟩ :: back) }
  | datum s .., _ => s
  | upsert s front column back, v =>
    { s with onDuplicate := .map (front ++ (column, v) :: back) }

/-- What the operation takes besides the statements: a row with the value, if the place is there. -/
def payload (given : List Value) : OperandPlace → Value → List Value
  | datum _ front column back, v => [.map (front ++ (column, v) :: back)]
  | _, _ => given

/-- The operation reads the place. -/
def Reads (op : Operation) : OperandPlace → Prop
  | wheres _ _ hole _ => (op = .select ∨ op = .update ∨ op = .delete) ∧ hole.Reads
  | havings _ _ hole _ => op = .select ∧ hole.Reads
  | joined _ _ _ _ _ hole _ _ => (op = .select ∨ op = .update ∨ op = .delete) ∧ hole.Reads
  | member _ _ inner _ _ _ => op = .select ∧ inner.Reads .select
  | datum .. => op = .insert ∨ op = .insertIgnore ∨ op = .replace ∨ op = .update
  | upsert .. => op = .insert ∨ op = .insertIgnore ∨ op = .replace

/-- What is written for the value. The right-hand sides of the conditions of a join are names. -/
def written (a : Adapter) : OperandPlace → Value → Fragment
  | wheres _ _ hole _, v | havings _ _ hole _, v => hole.written a true v
  | joined _ _ _ _ _ hole _ _, v => hole.written a false v
  | member _ _ inner _ _ _, v => inner.written a v
  | datum .., v | upsert .., v => Adapter.dataValue v

/-- The value may stand in the place. -/
def Stands : OperandPlace → Value → Prop
  | wheres _ _ hole _, v | havings _ _ hole _, v => hole.Fits true v
  | joined _ _ _ _ _ hole _ _, v => hole.Fits false v
  | member _ _ inner _ _ _, v => inner.Stands v
  | datum .., _ | upsert .., _ => True

/-- The place is in a list. -/
def isItem : OperandPlace → Bool
  | wheres _ _ hole _ | havings _ _ hole _ | joined _ _ _ _ _ hole _ _ => hole.isItem
  | member _ _ inner _ _ _ => inner.isItem
  | datum .. | upsert .. => false

/-- The value may stand in the place, and something is written for it. -/
structure Fits (a : Adapter) (p : OperandPlace) (v : Value) : Prop where
  stands : p.Stands v
  visible : Visible (p.written a v).sql.toList

end OperandPlace

namespace Adapter

open OperandPlace

variable {α : Type} {v : α → Value} (a : Adapter)

/-- One of the joins has the place in its conditions. -/
theorem uniform_joined_operand {s : Statements} {before : List JoinEntry} {kind table : Value}
    {front : List Condition} {hole : ConditionHole} {back : List Condition}
    {after : List JoinEntry} (h : hole.Reads)
    (hv : ∀ x, (joined s before kind table front hole back after).Fits a (v x)) :
    Uniform (Framed fun x => hole.written a false (v x)) fun x =>
      a.joinList ((joined s before kind table front hole back after).fill (v x)) := by
  refine a.uniform_joinList s (fun _ => rfl) ?_
  have hne : ∀ c : Condition, (front ++ c :: back).isEmpty = false := by simp
  simp only [joinClause_eq, joinCriteria, hne, Bool.false_eq_true, if_false]
  exact .read _ fun table => (a.uniform_criteria h { bindValues := false }
    (fun x => (hv x).stands) front back).bind fun f hf => .read _ fun word =>
      .ok (.concatenate ⟨[_, _, _], f, [], hf, fun _ => rfl⟩ fun x => (hv x).visible)

/-- A select that reads the place. -/
theorem uniform_select_operand {p : OperandPlace} (h : p.Reads .select)
    (hv : ∀ x, p.Fits a (v x)) :
    Uniform (Framed fun x => p.written a (v x)) fun x => a.select (p.fill (v x)) := by
  induction p with
  | wheres s front hole back =>
    refine a.uniform_select s (fun _ => rfl) (fun _ => rfl) (a.uniform_selectMember_wheres s
      (fun x => (hv x).visible) fun qualifier => a.uniform_conditionClause (by simp) ?_)
    exact a.uniform_criteria h.2 { qualifier } (fun x => (hv x).stands) front back
  | havings s front hole back =>
    refine a.uniform_select s (fun _ => rfl) (fun _ => rfl) (a.uniform_selectMember_havings s
      (fun x => (hv x).visible) fun qualifier => a.uniform_conditionClause (by simp) ?_)
    exact a.uniform_criteria h.2 { qualifier } (fun x => (hv x).stands) front back
  | joined s before kind table front hole back after =>
    exact a.uniform_select s (fun _ => rfl) (fun _ => rfl) (a.uniform_selectMember_joins s
      (fun x => (hv x).visible) (a.uniform_joined_operand h.2 hv))
  | member s front inner type identity back ih =>
    have hframe : ∀ v, a.dialect.memberFrame (inner.fill v) =
        a.dialect.memberFrame (inner.fill .null) := by
      cases inner <;> exact fun _ => rfl
    have hinner := ih h.2 fun x => ⟨(hv x).stands, (hv x).visible⟩
    exact a.uniform_select_unions s
      (a.uniform_unionList (fun x => hframe (v x)) hinner front back type
        identity)
  | datum | upsert => simp [Reads] at h

/-- An update that reads the place. -/
theorem uniform_update_operand {p : OperandPlace} (h : p.Reads .update)
    (hv : ∀ x, p.Fits a (v x)) (data : Value) :
    Uniform (Framed fun x => p.written a (v x))
      fun x => a.fragment .update (p.fill (v x)) (p.payload [data] (v x)) := by
  cases p with
  | wheres s front hole back =>
    exact a.uniform_update_wheres s (fun x => (hv x).visible) data fun qualifier =>
      a.uniform_conditionClause (by simp)
        (a.uniform_criteria h.2 { qualifier } (fun x => (hv x).stands) front back)
  | joined s before kind table front hole back after =>
    exact a.uniform_update_joins s (fun x => (hv x).visible) data (a.uniform_joined_operand h.2 hv)
  | datum s front column back =>
    exact a.uniform_update_datum (fun x => (hv x).visible) front back column s
  | havings | member | upsert => simp [Reads] at h

/-- A delete that reads the place. -/
theorem uniform_delete_operand {p : OperandPlace} (h : p.Reads .delete)
    (hv : ∀ x, p.Fits a (v x)) (columns : Value) :
    Uniform (Framed fun x => p.written a (v x)) fun x => a.delete (p.fill (v x)) columns := by
  cases p with
  | wheres s front hole back =>
    exact a.uniform_delete_wheres s (fun x => (hv x).visible) columns fun qualifier =>
      a.uniform_conditionClause (by simp)
        (a.uniform_criteria h.2 { qualifier } (fun x => (hv x).stands) front back)
  | joined s before kind table front hole back after =>
    exact a.uniform_delete_joins s (fun x => (hv x).visible) columns
      (a.uniform_joined_operand h.2 hv)
  | havings | member | datum | upsert => simp [Reads] at h

/-- An insert that reads the place. -/
theorem uniform_insert_operand {op : Operation}
    (hop : op = .insert ∨ op = .insertIgnore ∨ op = .replace) {p : OperandPlace} (h : p.Reads op)
    (hv : ∀ x, p.Fits a (v x)) (data : Value) :
    Uniform (Framed fun x => p.written a (v x))
      fun x => a.fragment op (p.fill (v x)) (p.payload [data] (v x)) := by
  have hinsert : ∀ s data, a.fragment op s [data] = a.insert op s data := by
    rcases hop with rfl | rfl | rfl <;> exact fun _ _ => rfl
  cases p with
  | datum s front column back =>
    simp only [payload, hinsert]
    exact a.uniform_insert_datum (fun x => (hv x).visible) front back column op s
  | upsert s front column back =>
    simp only [payload, hinsert]
    exact a.uniform_insert_upsert (fun x => (hv x).visible) front back column op s data
  | wheres | havings | joined | member => rcases hop with rfl | rfl | rfl <;> simp [Reads] at h

/-- The operations that take a row take nothing else. -/
theorem row_or_refused {op : Operation}
    (hop : op = .insert ∨ op = .insertIgnore ∨ op = .replace ∨ op = .update) (p : OperandPlace)
    (payload : List Value) :
    (∃ data, ∀ v, p.payload payload v = p.payload [data] v) ∨
      ∀ s v, a.fragment op s (p.payload payload v) = misuse .wrongType := by
  have hrefused :
      (∃ data, payload = [data]) ∨ ∀ s, a.fragment op s payload = misuse .wrongType := by
    rcases payload with _ | ⟨data, _ | _⟩
    · rcases hop with rfl | rfl | rfl | rfl <;> exact .inr fun _ => rfl
    · exact .inl ⟨data, rfl⟩
    · rcases hop with rfl | rfl | rfl | rfl <;> exact .inr fun _ => rfl
  cases p with
  | datum => exact .inl ⟨.null, fun _ => rfl⟩
  | wheres | havings | joined | member | upsert =>
    rcases hrefused with ⟨data, rfl⟩ | h
    · exact .inl ⟨data, fun _ => rfl⟩
    · exact .inr fun s _ => h s

/-- A request that reads the place. -/
theorem uniform_operand {op : Operation} {p : OperandPlace} (h : p.Reads op)
    (hv : ∀ x, p.Fits a (v x)) (payload : List Value) :
    Uniform (Framed fun x => p.written a (v x))
      fun x => a.fragment op (p.fill (v x)) (p.payload payload (v x)) := by
  have hinsert (hop : op = .insert ∨ op = .insertIgnore ∨ op = .replace) :
      Uniform (Framed fun x => p.written a (v x))
        fun x => a.fragment op (p.fill (v x)) (p.payload payload (v x)) := by
    rcases a.row_or_refused (by tauto) p payload with ⟨data, hdata⟩ | hrefused
    · simp only [hdata]
      exact a.uniform_insert_operand hop h hv data
    · exact Uniform.congr (.error _) fun x => hrefused _ _
  cases op with
  | criteria => cases p <;> simp [Reads] at h
  | select =>
    have hgiven : ∀ v, p.payload payload v = payload := by
      cases p <;> first | exact fun _ => rfl | simp [Reads] at h
    simp only [hgiven]
    cases payload with
    | nil => exact a.uniform_select_operand h hv
    | cons => exact .error _
  | delete =>
    have hgiven : ∀ v, p.payload payload v = payload := by
      cases p <;> first | exact fun _ => rfl | simp [Reads] at h
    simp only [hgiven]
    rcases payload with _ | ⟨columns, _ | _⟩
    · exact a.uniform_delete_operand h hv .null
    · exact a.uniform_delete_operand h hv columns
    · exact .error _
  | update =>
    have hop : Operation.update = .insert ∨ Operation.update = .insertIgnore ∨
        Operation.update = .replace ∨ Operation.update = .update := by simp
    rcases a.row_or_refused hop p payload with ⟨data, hdata⟩ | hrefused
    · simp only [hdata]
      exact a.uniform_update_operand h hv data
    · exact Uniform.congr (.error _) fun x => hrefused _ _
  | insert | insertIgnore | replace => exact hinsert (by decide)

/-! ## Raw fragments -/

theorem stands_raw (p : OperandPlace) (sql : String) (bindings : List Value) :
    p.Stands (.raw sql bindings) := by
  have hoperand (bindValues : Bool) (key operator : Value) (operand : OperandHole) :
      operand.Fits bindValues key operator (.raw sql bindings) := by
    cases operand <;> simp [OperandHole.Fits, standsAlone, Value.items?, Value.isRaw]
  have hcondition (bindValues : Bool) (hole : ConditionHole) :
      hole.Fits bindValues (.raw sql bindings) := by
    induction hole generalizing bindValues with
    | compared c operand => exact hoperand _ _ _ operand
    | grouped _ _ _ _ ih => exact ih true
  induction p with
  | wheres | havings | joined => exact hcondition _ _
  | member _ _ _ _ _ _ ih => exact ih
  | datum | upsert => trivial

theorem written_raw (p : OperandPlace) (sql : String) (bindings : List Value) :
    p.written a (.raw sql bindings) =
      if p.isItem then Fragment.bound (.text sql) else ⟨sql, bindings⟩ := by
  have hcondition (bindValues : Bool) (hole : ConditionHole) :
      hole.written a bindValues (.raw sql bindings) =
        if hole.isItem then Fragment.bound (.text sql) else ⟨sql, bindings⟩ := by
    induction hole generalizing bindValues with
    | compared c operand => cases operand <;> rfl
    | grouped _ _ _ _ ih => exact ih true
  induction p with
  | wheres | havings | joined => exact hcondition _ _
  | member _ _ _ _ _ _ ih => exact ih
  | datum | upsert => rfl

/-- A value is written in one place of the query, whatever it is: what comes before and after does
not depend on it, nor do the values that are bound before and after its own. A raw fragment is one
of the values. It is written as it stands, with its own bindings, except among the items of a list,
and so at either end of a range, where its text is bound. -/
theorem compile_operand {op : Operation} {p : OperandPlace} (h : p.Reads op)
    (payload : List Value) :
    a.InContext (fun v : { v // p.Fits a v } => p.written a v)
      (fun v => a.compile op (p.fill v) (p.payload payload v)) ∧
    ∀ sql bindings, Visible sql.toList → p.Fits a (.raw sql bindings) ∧
      p.written a (.raw sql bindings) =
        if p.isItem then Fragment.bound (.text sql) else ⟨sql, bindings⟩ := by
  refine ⟨a.compile_inContext (a.uniform_operand h (fun v => v.2) payload),
    fun sql bindings hsql => ⟨⟨stands_raw p sql bindings, ?_⟩, a.written_raw p sql bindings⟩⟩
  rw [a.written_raw]
  split
  · exact ⟨'?', by simp [Fragment.bound], by decide⟩
  · exact hsql

/-- A range from now on: the call is compared as a text. -/
theorem compile_operand_of_range :
    let a : Adapter := ⟨.mysql, false⟩
    let p : OperandPlace := .wheres { Statements.empty with tables := .list [.text "t"] } []
      (.compared (.plain (.text "d") (.text "BETWEEN") .null (.text "AND"))
        (.item false [] [.text "2024-12-31"])) []
    p.Reads .select ∧ Visible "NOW()".toList ∧
    p.written a (.raw "NOW()" []) ≠ ⟨"NOW()", []⟩ ∧
    a.InContext (fun v : { v // p.Fits a v } => p.written a v)
      (fun v => a.compile .select (p.fill v) (p.payload [] v)) ∧
    a.compile .select (p.fill (.raw "NOW()" [])) [] = .ok
      { sql := .text "SELECT * FROM t WHERE d BETWEEN ? AND ?"
        bindings := .positional [.text "NOW()", .text "2024-12-31"]
        adapter := some a } := by
  intro a p
  have hread : p.Reads .select := by
    refine ⟨.inl rfl, rfl, fun gs hgs => ?_, fun _ => by decide⟩
    cases hgs
  have hvisible : Visible "NOW()".toList := ⟨'N', by decide, by decide⟩
  obtain ⟨hcontext, hraw⟩ := compile_operand a hread []
  refine ⟨hread, hvisible, ?_, hcontext, by cbv⟩
  rw [(hraw "NOW()" [] hvisible).2]
  simp [p, isItem, ConditionHole.isItem, OperandHole.isItem, Fragment.bound]

end Adapter

end SqlBuilder
