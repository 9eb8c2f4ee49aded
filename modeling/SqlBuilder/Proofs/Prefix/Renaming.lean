import SqlBuilder.Proofs.Twins.Calls
import SqlBuilder.Proofs.Prefix.TableNames

/-!
# Prefixes as a renaming

On a connection with a prefix a program does what it does on one without, given other names. Which,
is decided by the call a name is given to (`Renaming.byCall`): a table gets the prefix, a column if
there is a dot in it, and a column that is compared with a column or by a part of its date never.

Whether a name is of a table or an alias makes no difference to that. So this is the renaming of
the tables (`Renaming.byOwner`), if columns of tables are given to the calls that put the prefix in
front and columns of aliases to those that do not (`prefix_renames_tables`).
-/

set_option autoImplicit false

namespace SqlBuilder

open Session Builder

/-! ## Names in a value -/

namespace Value

variable (f : String → String)

/-- The value, renamed if it is a name. -/
def mapName : Value → Value
  | .text s => .text (f s)
  | v => v

/-- The names in a value, renamed. They are in a list from then on, as they are with a prefix. -/
def mapNames : Value → Value
  | .map entries => .map (Value.ofPairs (entries.map fun e => (e.1.mapName f, e.2)))
  | .list vs | .tuple vs => .list (vs.map (mapName f))
  | v => v.mapName f

/-- The parts of a value changed: the keys of a map, the items of a list, or the whole. -/
def mapParts (onKey onItem : Value → Value) : Value → Value
  | .map entries => .map (entries.map fun e => (onKey e.1, e.2))
  | .list vs => .list (vs.map onItem)
  | .tuple vs => .tuple (vs.map onItem)
  | v => onItem v

mutual

/-- A selected expression, renamed. -/
def mapField : Value → Value
  | .map entries => .map (entries.map fun e => (e.1.mapNames f, e.2))
  | .list vs => .list (mapFields vs)
  | .tuple vs => .tuple (mapFields vs)
  | v => v.mapName f

/-- Several selected expressions, renamed. -/
def mapFields : List Value → List Value
  | [] => []
  | v :: vs => mapField v :: mapFields vs

end

/-- A table and its alias, with the table renamed. -/
def mapPair : List Value → List Value
  | [table, name] => [table.mapNames f, name]
  | vs => vs

/-- The table of a join, renamed. -/
def mapJoined : Value → Value
  | .list vs => .list (mapPair f vs)
  | .tuple vs => .tuple (mapPair f vs)
  | v => v.mapNames f

/-- The name that a value is, if it is one. -/
def nameIn : Value → List String
  | .text s => [s]
  | _ => []

/-- The names in a value. -/
def namesIn : Value → List String
  | .map entries => entries.flatMap fun e => e.1.nameIn
  | .list vs | .tuple vs => vs.flatMap nameIn
  | v => v.nameIn

/-- The names in the parts of a value. -/
def partsIn (inKey inItem : Value → List String) : Value → List String
  | .map entries => entries.flatMap fun e => inKey e.1
  | .list vs | .tuple vs => vs.flatMap inItem
  | v => inItem v

mutual

/-- The names in a selected expression. -/
def fieldIn : Value → List String
  | .map entries => entries.flatMap fun e => e.1.namesIn
  | .list vs | .tuple vs => fieldsIn vs
  | v => v.nameIn

/-- The names in several selected expressions. -/
def fieldsIn : List Value → List String
  | [] => []
  | v :: vs => fieldIn v ++ fieldsIn vs

end

/-- The names in a table and its alias. -/
def pairIn : List Value → List String
  | [table, _] => table.namesIn
  | _ => []

/-- The names in the table of a join. -/
def joinedIn : Value → List String
  | .list vs | .tuple vs => pairIn vs
  | v => v.namesIn

variable {f} {g : String → String}

/-! ### A single name -/

section Single

variable {v : Value} (h : v.isMany = false)
include h

theorem mapNames_single : v.mapNames f = v.mapName f := by
  cases v <;> first | rfl | cases h

theorem mapParts_single (onKey onItem : Value → Value) : v.mapParts onKey onItem = onItem v := by
  cases v <;> first | rfl | cases h

end Single

/-! ### The names make the difference -/

theorem mapName_congr {v : Value} (h : ∀ s ∈ v.nameIn, f s = g s) : v.mapName f = v.mapName g := by
  cases v with
  | text s => exact congrArg Value.text (h s List.mem_cons_self)
  | _ => rfl

theorem map_congr_flatMap {α : Type} {names : α → List String} {x y : α → α} {as : List α}
    (hone : ∀ a, (∀ s ∈ names a, f s = g s) → x a = y a) (h : ∀ s ∈ as.flatMap names, f s = g s) :
    as.map x = as.map y :=
  List.map_congr_left fun a ha => hone a fun s hs => h s (List.mem_flatMap.2 ⟨a, ha, hs⟩)

theorem mapNames_congr {v : Value} (h : ∀ s ∈ v.namesIn, f s = g s) :
    v.mapNames f = v.mapNames g := by
  cases v with
  | map entries =>
    refine congrArg (fun es => Value.map (Value.ofPairs es)) (map_congr_flatMap (fun e he => ?_) h)
    rw [mapName_congr he]
  | list vs | tuple vs =>
    exact congrArg Value.list (map_congr_flatMap (fun v hv => mapName_congr hv) h)
  | _ =>
    rw [mapNames_single rfl, mapNames_single rfl]
    exact mapName_congr h

theorem mapParts_congr {onKey onItem onKey' onItem' : Value → Value}
    {inKey inItem : Value → List String}
    (hkey : ∀ v, (∀ s ∈ inKey v, f s = g s) → onKey v = onKey' v)
    (hitem : ∀ v, (∀ s ∈ inItem v, f s = g s) → onItem v = onItem' v) {v : Value}
    (h : ∀ s ∈ v.partsIn inKey inItem, f s = g s) :
    v.mapParts onKey onItem = v.mapParts onKey' onItem' := by
  cases v with
  | map entries =>
    refine congrArg Value.map (map_congr_flatMap (fun e he => ?_) h)
    rw [hkey e.1 he]
  | list vs => exact congrArg Value.list (map_congr_flatMap hitem h)
  | tuple vs => exact congrArg Value.tuple (map_congr_flatMap hitem h)
  | _ =>
    rw [mapParts_single rfl, mapParts_single rfl]
    exact hitem _ h

mutual

theorem mapField_congr (v : Value) (h : ∀ s ∈ v.fieldIn, f s = g s) :
    v.mapField f = v.mapField g := by
  cases v with
  | map entries =>
    refine congrArg Value.map (map_congr_flatMap (fun e he => ?_) h)
    rw [mapNames_congr he]
  | list vs => exact congrArg Value.list (mapFields_congr vs h)
  | tuple vs => exact congrArg Value.tuple (mapFields_congr vs h)
  | text s => exact congrArg Value.text (h s List.mem_cons_self)
  | _ => rfl

theorem mapFields_congr :
    ∀ vs : List Value, (∀ s ∈ fieldsIn vs, f s = g s) → mapFields f vs = mapFields g vs
  | [], _ => rfl
  | v :: vs, h => by
    rw [fieldsIn, List.forall_mem_append] at h
    rw [mapFields, mapFields, mapField_congr v h.1, mapFields_congr vs h.2]

end

theorem mapPair_congr {vs : List Value} (h : ∀ s ∈ pairIn vs, f s = g s) :
    mapPair f vs = mapPair g vs := by
  unfold pairIn at h
  unfold mapPair
  split at h
  · rw [mapNames_congr h]
  · rfl

theorem mapJoined_congr {v : Value} (h : ∀ s ∈ v.joinedIn, f s = g s) :
    v.mapJoined f = v.mapJoined g := by
  cases v with
  | list vs => exact congrArg Value.list (mapPair_congr h)
  | tuple vs => exact congrArg Value.tuple (mapPair_congr h)
  | map es => exact mapNames_congr (v := .map es) h
  | text s => exact congrArg Value.text (h s List.mem_cons_self)
  | _ => rfl

end Value

/-! ## Names in a program -/

/-- How a method reads a name it is given. -/
inductive NameKind where
  | table
  | column
  /-- A column that is written as it is given. -/
  | bareColumn

/-- A name and how it is read. -/
structure GivenName where
  kind : NameKind
  text : String

/-- A new name for every name, by how it is read. -/
abbrev Renaming := NameKind → String → String

/-- A name that is a column unless it is a table. -/
def NameKind.mixed (mixed : Bool) : NameKind := if mixed then .column else .table

namespace Role

open Value

/-- A value in a role, renamed. -/
def rename (ρ : Renaming) : Role → Value → Value
  | .plain, v | .subject, v => v
  | .bare, v => v.mapName (ρ .bareColumn)
  | .name mixed, v => v.mapNames (ρ (.mixed mixed))
  | .tables, v => v.mapParts (mapNames (ρ .table)) (mapName (ρ .table))
  | .field, v => v.mapField (ρ .column)
  | .orders, v => v.mapParts (mapNames (ρ .column)) (mapNames (ρ .column))
  | .groups, .map entries => (Value.map entries).mapNames (ρ .column)
  | .groups, v => v.mapParts (mapName (ρ .column)) (mapName (ρ .column))
  | .joined, v => v.mapJoined (ρ .table)

/-- The names in a value in a role. -/
def names : Role → Value → List GivenName
  | .plain, _ | .subject, _ => []
  | .bare, v => v.nameIn.map (⟨.bareColumn, ·⟩)
  | .name mixed, v => v.namesIn.map (⟨.mixed mixed, ·⟩)
  | .tables, v => (v.partsIn namesIn nameIn).map (⟨.table, ·⟩)
  | .field, v => v.fieldIn.map (⟨.column, ·⟩)
  | .orders, v => (v.partsIn namesIn namesIn).map (⟨.column, ·⟩)
  | .groups, v => (v.partsIn nameIn nameIn).map (⟨.column, ·⟩)
  | .joined, v => v.joinedIn.map (⟨.table, ·⟩)

variable {ρ ρ' : Renaming}

theorem rename_congr {role : Role} {v : Value}
    (h : ∀ n ∈ role.names v, ρ n.kind n.text = ρ' n.kind n.text) :
    role.rename ρ v = role.rename ρ' v := by
  have hkind {kind : NameKind} {texts : List String}
      (h : ∀ n ∈ texts.map (GivenName.mk kind), ρ n.kind n.text = ρ' n.kind n.text) :
      ∀ s ∈ texts, ρ kind s = ρ' kind s :=
    fun s hs => h _ (List.mem_map_of_mem hs)
  cases role with
  | plain => rfl
  | subject => rfl
  | bare => exact mapName_congr (hkind h)
  | name mixed => exact mapNames_congr (hkind h)
  | tables =>
    exact mapParts_congr (fun _ => mapNames_congr) (fun _ => mapName_congr) (hkind h)
  | field => exact mapField_congr v (hkind h)
  | orders =>
    exact mapParts_congr (fun _ => mapNames_congr) (fun _ => mapNames_congr) (hkind h)
  | groups =>
    cases v with
    | map entries => exact mapNames_congr (v := .map entries) (hkind h)
    | _ => exact mapParts_congr (fun _ => mapName_congr) (fun _ => mapName_congr) (hkind h)
  | joined => exact mapJoined_congr (hkind h)

end Role

mutual

/-- The names in an argument. -/
def FluentArg.names (role : Role) : FluentArg → List GivenName
  | .value v => role.names v
  | .callback _ calls | .query calls | .subQuery calls _ => namesAll calls

/-- The names in all arguments. -/
def namesArgs (roles : Nat → Role) : List FluentArg → List GivenName
  | [] => []
  | arg :: args => arg.names (roles 0) ++ namesArgs (fun i => roles (i + 1)) args

/-- The names in a call. -/
def FluentCall.names : FluentCall → List GivenName
  | .call m args => namesArgs (m.role args.length) args

/-- The names in calls. -/
def namesAll : List FluentCall → List GivenName
  | [] => []
  | call :: calls => call.names ++ namesAll calls

end

variable {ρ ρ' : Renaming}

mutual

theorem FluentArg.rename_congr (role : Role) : ∀ arg : FluentArg,
    (∀ n ∈ arg.names role, ρ n.kind n.text = ρ' n.kind n.text) →
      arg.map (Role.rename ρ) role = arg.map (Role.rename ρ') role
  | .value _, h => congrArg FluentArg.value (Role.rename_congr h)
  | .callback identity calls, h => congrArg (FluentArg.callback identity) (renameAll_congr calls h)
  | .query calls, h => congrArg FluentArg.query (renameAll_congr calls h)
  | .subQuery calls name, h => congrArg (FluentArg.subQuery · name) (renameAll_congr calls h)

theorem renameArgs_congr (roles : Nat → Role) : ∀ args : List FluentArg,
    (∀ n ∈ namesArgs roles args, ρ n.kind n.text = ρ' n.kind n.text) →
      mapArgs (Role.rename ρ) roles args = mapArgs (Role.rename ρ') roles args
  | [], _ => rfl
  | arg :: args, h => by
    rw [namesArgs, List.forall_mem_append] at h
    rw [mapArgs, mapArgs, FluentArg.rename_congr _ arg h.1, renameArgs_congr _ args h.2]

theorem FluentCall.rename_congr : ∀ call : FluentCall,
    (∀ n ∈ call.names, ρ n.kind n.text = ρ' n.kind n.text) →
      call.map (Role.rename ρ) = call.map (Role.rename ρ')
  | .call m args, h => congrArg (FluentCall.call m) (renameArgs_congr _ args h)

/-- Renamings that agree on the names in a program rename it alike. -/
theorem renameAll_congr : ∀ calls : List FluentCall,
    (∀ n ∈ namesAll calls, ρ n.kind n.text = ρ' n.kind n.text) →
      mapAll (Role.rename ρ) calls = mapAll (Role.rename ρ') calls
  | [], _ => rfl
  | call :: calls, h => by
    rw [namesAll, List.forall_mem_append] at h
    rw [mapAll, mapAll, FluentCall.rename_congr call h.1, renameAll_congr calls h.2]

end

/-! ## The renaming of the calls -/

/-- There is a dot in the name. -/
def isQualified (s : String) : Bool := s.toList.contains '.'

/-- What the calls of a program put a prefix in front of. -/
def Renaming.byCall (p : String) : Renaming
  | .table, s => p ++ s
  | .column, s => if isQualified s then p ++ s else s
  | .bareColumn, s => s

/-- The first connection has a prefix and the second has none. -/
structure Stage.Parted (S : Stage) (p : String) : Prop where
  truthy : p ≠ ""
  left : S.s.prefixOf S.conn = .ok (.text p)
  right : S.s'.prefixOf S.conn' = .ok .null

section

variable {S : Stage} {p : String}

theorem prefixedName_text (p : String) (mixed : Bool) (v : Value) :
    prefixedName (.text p) mixed v = .ok (v.mapName (Renaming.byCall p (.mixed mixed))) := by
  cases v with
  | text s =>
    cases mixed with
    | false => rfl
    | true =>
      show (if (true && !isQualified s) = true then .ok (.text s) else .ok (.text (p ++ s))) =
        (.ok (.text (if isQualified s then p ++ s else s)) : Result Value)
      cases isQualified s <;> rfl
  | _ => rfl

theorem prefixed_text (hp : p ≠ "") (mixed : Bool) (v : Value) :
    prefixed (.text p) mixed v = .ok (v.mapNames (Renaming.byCall p (.mixed mixed))) := by
  have htrue : (Value.text p).isTrue = true := bne_iff_ne.2 hp
  have hname : prefixedName (.text p) mixed =
      fun v => (pure (v.mapName (Renaming.byCall p (.mixed mixed))) : Result Value) :=
    funext (prefixedName_text p mixed)
  unfold prefixed
  rw [htrue, hname]
  cases v with
  | map entries =>
    simp only [pure_bind, List.mapM_pure]
    rfl
  | list vs | tuple vs =>
    simp only [List.mapM_pure]
    rfl
  | _ => rfl

namespace Stage.Parted

variable (h : S.Parted p)
include h

theorem named (mixed : Bool) (v : Value) :
    S.Named mixed v (v.mapNames (Renaming.byCall p (.mixed mixed))) where
  same := by
    rw [h.left, h.right]
    exact prefixed_text h.truthy mixed v
  null := by
    cases v <;> simp [Value.mapNames, Value.mapName]

theorem entries (mixed : Bool) (es : List (Value × Value)) :
    List.Forall₂ (S.Entry mixed) es
      (es.map fun e => (e.1.mapNames (Renaming.byCall p (.mixed mixed)), e.2)) := by
  rw [List.forall₂_map_right_iff]
  exact List.forall₂_same.2 fun e _ => ⟨h.named mixed e.1, rfl⟩

theorem single (mixed : Bool) {v : Value} (hv : v.isMany = false) :
    S.Named mixed v (v.mapName (Renaming.byCall p (.mixed mixed))) := by
  rw [← Value.mapNames_single hv]
  exact h.named mixed v

theorem tables (v : Value) : S.Tables v (Role.tables.rename (.byCall p) v) := by
  cases v with
  | map es => exact .map (h.entries false es)
  | list vs => exact .list (h.named false (.list vs))
  | tuple vs => exact .tuple (h.named false (.list vs))
  | _ => exact .name (h.single false rfl) rfl rfl

omit h in
mutual

theorem field (h : S.Parted p) (v : Value) :
    S.Field v (v.mapField (Renaming.byCall p .column)) := by
  cases v with
  | map es => exact .map (h.entries true es)
  | list vs => exact .list (fields h vs)
  | tuple vs => exact .tuple (fields h vs)
  | _ => exact .name (h.single true rfl) rfl rfl

theorem fields (h : S.Parted p) :
    ∀ vs : List Value, S.Fields vs (Value.mapFields (Renaming.byCall p .column) vs)
  | [] => .nil
  | v :: vs => .cons (field h v) (fields h vs)

end

theorem orders (v : Value) : S.Orders v (Role.orders.rename (.byCall p) v) := by
  intro direction
  cases v with
  | map es => exact h.entries true es
  | list vs | tuple vs =>
    show List.Forall₂ (S.Entry true) (vs.map (·, direction))
      ((vs.map (Value.mapNames (Renaming.byCall p .column))).map (·, direction))
    rw [List.map_map, List.forall₂_map_left_iff, List.forall₂_map_right_iff]
    exact List.forall₂_same.2 fun v _ => ⟨h.named true v, rfl⟩
  | _ => exact .cons ⟨h.single true rfl, rfl⟩ .nil

theorem groups (v : Value) : S.Groups v (Role.groups.rename (.byCall p) v) := by
  cases v with
  | map es => exact .name (h.named true (.map es)) rfl rfl
  | list vs => exact .list (h.named true (.list vs))
  | tuple vs => exact .tuple (h.named true (.list vs))
  | _ => exact .name (h.single true rfl) rfl rfl

theorem pair {v v' : Value} {vs : List Value} (hv : v.items? = some vs)
    (hv' : v'.items? = some (Value.mapPair (Renaming.byCall p .table) vs)) : S.Joined v v' := by
  unfold Value.mapPair at hv'
  split at hv'
  · next table name => exact .pair (h.named false table) hv hv'
  · next hne =>
    have hlength : vs.length ≠ 2 := fun hlength => by
      obtain ⟨table, name, rfl⟩ := List.length_eq_two.1 hlength
      exact hne table name rfl
    exact .malformed hv hv' hlength hlength

theorem joined (v : Value) : S.Joined v (v.mapJoined (Renaming.byCall p .table)) := by
  cases v with
  | list vs | tuple vs => exact h.pair rfl rfl
  | map es => exact .name (h.named false (.map es)) rfl rfl
  | _ => exact .name (h.single false rfl) rfl rfl

/-- Where the first connection has a prefix, it does not matter that the second has none, if the
calls on the second are given the names with it. -/
theorem harmless : Harmless S (Role.rename (.byCall p)) := by
  intro role v hv
  cases role with
  | plain => rfl
  | bare => cases v <;> rfl
  | name mixed => exact h.named mixed v
  | tables => exact h.tables v
  | field => exact h.field v
  | orders => exact h.orders v
  | groups => exact h.groups v
  | joined => exact h.joined v
  | subject => exact .same hv

end Stage.Parted

end

/-! ## The renaming of tables -/

/-- What a qualified name is a column of: a table or an alias. -/
def owner? (s : String) : Option String :=
  if isQualified s then some (String.ofList (s.toList.takeWhile (· ≠ '.'))) else none

/-- Tables get a prefix, and the columns of tables with them. -/
def Renaming.byOwner (p : String) (tables : List String) : Renaming
  | .table, s => if s ∈ tables then p ++ s else s
  | .column, s | .bareColumn, s => if (owner? s).any (· ∈ tables) then p ++ s else s

/-- The call that the name is given to does right by it: it puts the prefix in front where the name
is of a table. -/
def GivenName.Fits (tables : List String) (n : GivenName) : Prop :=
  match n.kind with
  | .table => n.text ∈ tables
  | .column => ∀ t ∈ owner? n.text, t ∈ tables
  | .bareColumn => ∀ t ∈ owner? n.text, t ∉ tables

instance (tables : List String) : DecidablePred (GivenName.Fits tables)
  | ⟨.table, s⟩ => inferInstanceAs (Decidable (s ∈ tables))
  | ⟨.column, s⟩ => inferInstanceAs (Decidable (∀ t ∈ owner? s, t ∈ tables))
  | ⟨.bareColumn, s⟩ => inferInstanceAs (Decidable (∀ t ∈ owner? s, t ∉ tables))

theorem GivenName.Fits.byOwner_eq {tables : List String} {n : GivenName} (h : n.Fits tables)
    (p : String) :
    Renaming.byOwner p tables n.kind n.text = Renaming.byCall p n.kind n.text := by
  obtain ⟨kind, s⟩ := n
  cases kind with
  | table => exact if_pos h
  | column =>
    have hmem : ∀ t ∈ owner? s, t ∈ tables := h
    show (if (owner? s).any (· ∈ tables) then p ++ s else s) = if isQualified s then p ++ s else s
    cases hq : isQualified s with
    | false => rw [owner?, hq]; rfl
    | true =>
      rw [owner?, hq] at hmem ⊢
      exact if_pos (decide_eq_true (hmem _ rfl))
  | bareColumn =>
    have hmem : ∀ t ∈ owner? s, t ∉ tables := h
    show (if (owner? s).any (· ∈ tables) then p ++ s else s) = s
    refine if_neg ?_
    cases hq : owner? s with
    | none => simp
    | some t => simpa using hmem t hq

/-- **Prefixing is a renaming of tables.** Let the columns of tables be given only to calls that put
the prefix in front, and those of aliases only to calls that do not. Then a program on a connection
with a prefix does what it does, with the tables renamed, on a connection without: it fails for the
same reason or not at all, and its builder compiles to the same queries. -/
theorem prefix_renames_tables {S : Stage} {p : String} (hS : S.Parted p) {own : Pair}
    (hown : own.Agrees S.c S.c' S.s S.s') {tables : List String} {calls : List FluentCall}
    (hproper : properAll calls = true) (hnames : ∀ n ∈ namesAll calls, n.Fits tables)
    (r r' : Reaction) :
    let ended := runIn r (performAll calls own.builder) S.s
    let ended' := runIn r'
      (performAll (mapAll (Role.rename (.byOwner p tables)) calls) own.builder') S.s'
    ended.1 = ended'.1 ∧ ∀ op payload,
      ended.2.queryOf own.builder op payload = ended'.2.queryOf own.builder' op payload := by
  intro ended ended'
  let stage : Stage := { S with apart := fun _ _ _ => False }
  have hstage : stage.Parted p := { hS with }
  have hrename : mapAll (Role.rename (.byOwner p tables)) calls =
      mapAll (Role.rename (.byCall p)) calls :=
    renameAll_congr calls fun n hn => (hnames n hn).byOwner_eq p
  have hheld : Coupled [own] own.builder own.builder' :=
    ⟨own, List.mem_singleton_self own, rfl, rfl⟩
  have hstart : Twins stage (some own).toList S.s S.s' := by
    refine .start (fun q hq => ?_) nofun
    cases hq
    exact hown
  obtain ⟨pairs, hsub, htwins, hagree⟩ :=
    match_performAll hstage.harmless hheld calls hproper r r' S.s S.s' hstart
  rw [← hrename] at htwins hagree
  refine ⟨hagree.eq, fun op payload => ?_⟩
  exact (htwins.queryOf_eq (hheld.mono hsub) op payload).symm

/-- A stage on which the first connection has a prefix. -/
def prefixedStage : Stage where
  s := prefixedSession "wp_"
  s' := prefixedSession ""
  c := 0
  c' := 0
  conn := prefixedConnection "wp_"
  conn' := prefixedConnection ""
  connected := rfl
  connected' := rfl
  adapter := rfl
  prefixes := .ok trivial

/-- Posts and their authors, whose table has an alias. -/
def authored (posts users : String) : List FluentCall :=
  [.call (.change .fromTables nofun) [.value (.text posts)],
    .call (.change .join nofun) [.value (.tuple [.text users, .text "u"]),
      .value (.text (posts ++ ".author")), .value (.text "="), .value (.text "author")],
    .call (.condition .column) [.value (.text "u.born"), .value (.text "<"),
      .value (.text "u.joined")],
    .call (.change .orderBy nofun) [.value (.text (posts ++ ".created"))]]

/-- The prefix `wp_` is a renaming of two tables. -/
theorem prefix_renames_tables_of_alias :
    let r : Reaction := fun _ _ => pure ()
    prefixedStage.Parted "wp_" ∧ properAll (authored "posts" "users") = true ∧
    (∀ n ∈ namesAll (authored "posts" "users"), n.Fits ["posts", "users"]) ∧
    ∀ op payload,
      (runIn r (performAll (authored "posts" "users") 0) (prefixedSession "wp_")).2.queryOf 0 op
          payload =
        (runIn r (performAll (authored "wp_posts" "wp_users") 0)
          (prefixedSession "")).2.queryOf 0 op payload := by
  intro r
  have hparted : prefixedStage.Parted "wp_" := ⟨by decide, rfl, rfl⟩
  have hagrees : Pair.Agrees ⟨0, 0, 0, 0⟩ 0 0 (prefixedSession "wp_") (prefixedSession "") :=
    ⟨⟨_, _, rfl, rfl, rfl, rfl, rfl, rfl, rfl, rfl⟩, ⟨_, rfl, rfl⟩⟩
  have hproper : properAll (authored "posts" "users") = true := by decide
  have hnames : ∀ n ∈ namesAll (authored "posts" "users"), n.Fits ["posts", "users"] := by decide
  have hrenamed :
      mapAll (Role.rename (.byOwner "wp_" ["posts", "users"])) (authored "posts" "users") =
      authored "wp_posts" "wp_users" := rfl
  obtain ⟨-, hquery⟩ := prefix_renames_tables hparted hagrees hproper hnames r r
  rw [hrenamed] at hquery
  exact ⟨hparted, hproper, hnames, hquery⟩

end SqlBuilder
