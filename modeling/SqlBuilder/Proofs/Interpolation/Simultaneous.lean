import Mathlib.Data.List.Chain
import SqlBuilder.Proofs.Interpolation.Named

/-!
# Named values put in at once

A text with named placeholders is cut at them (`Template`), so that putting all values in at once is
to write each literal in its place (`Template.substituted`). The values are put in one after
another, in the order of the mapping. `Template.interpolated_iff`: every order gives the text with
all values put in at once exactly if no placeholder has its own `:name` ahead of it, neither in the
text nor in the values that come there (`Template.Clear`).

Where nothing is ahead, each value finds its own placeholder, whichever values are in the text by
then (`Template.foldl_put`). Where something is, an order in which the values up to there are put in
first comes to a different text (`Template.astray`).
-/

set_option autoImplicit false

namespace SqlBuilder.CompiledQuery

open Text

variable {adapter : Option Adapter}

/-! ## Placeholders -/

/-- A placeholder by its name, the value for it, and the text up to the next placeholder. -/
structure Slot where
  name : List Char
  value : Value
  behind : List Char

namespace Slot

/-- The binding of the placeholder. -/
def entry (s : Slot) : Value × Value := (.text (String.ofList s.name), s.value)

def literal (adapter : Option Adapter) (s : Slot) : List Char := (literalOf adapter s.value).toList

/-- What stands in the place: the literal once the value is put in, the placeholder before. -/
def written (adapter : Option Adapter) (put : List Char → Bool) (s : Slot) : List Char :=
  if put s.name then s.literal adapter else ':' :: s.name

/-- The text with the value in place of the first `:name`. -/
def put (adapter : Option Adapter) (cs : List Char) (s : Slot) : List Char :=
  replaceFirst (':' :: s.name) (s.literal adapter) cs

end Slot

/-- The text in which the values are put in whose names are among `put`. -/
def written (adapter : Option Adapter) (put : List Char → Bool) (lead : List Char) :
    List Slot → List Char
  | [] => lead
  | s :: rest => lead ++ s.written adapter put ++ written adapter put s.behind rest

/-- Placeholders as they stand in a text: names are words and end where words end, values can be
bound, and a literal that follows without a text between does not prolong the name. -/
structure Placed (adapter : Option Adapter) (slots : List Slot) : Prop where
  named : ∀ s ∈ slots, IsName s.name
  bound : ∀ s ∈ slots, s.value.Bound
  ends : ∀ s ∈ slots, Breaks s.behind
  apart : slots.IsChain fun s next => s.behind = [] → Breaks (next.literal adapter)

/-- A text cut at its named placeholders, one for each name. -/
structure Template (adapter : Option Adapter) where
  lead : List Char
  slots : List Slot
  placed : Placed adapter slots
  once : (slots.map Slot.name).Nodup

namespace Template

/-- The text of the query. -/
def sql (t : Template adapter) : List Char := written adapter (fun _ => false) t.lead t.slots

/-- The text with every placeholder replaced by the literal of its value and nothing else
changed. -/
def substituted (t : Template adapter) : List Char := written adapter (fun _ => true) t.lead t.slots

/-- The query with its bindings in some order. -/
def query (t : Template adapter) (order : List Slot) : CompiledQuery :=
  ⟨.text (String.ofList t.sql), .named (order.map Slot.entry), adapter⟩

/-- No placeholder has its own `:name` ahead of it, neither in the text nor where the values are put
in. -/
def Clear (t : Template adapter) : Prop :=
  ∀ ahead s rest, t.slots = ahead ++ s :: rest →
    s.name ∉ colonWords (written adapter (fun _ => false) t.lead ahead) ∧
    s.name ∉ colonWords (written adapter (fun _ => true) t.lead ahead)

end Template

/-! ## What is written -/

section Written

variable {put : List Char → Bool} {lead : List Char} {slots : List Slot}

theorem written_append_lead (x lead : List Char) :
    written adapter put (x ++ lead) slots = x ++ written adapter put lead slots := by
  cases slots <;> simp [written]

theorem written_append (ahead rest : List Slot) :
    written adapter put lead (ahead ++ rest) =
      written adapter put lead ahead ++ written adapter put [] rest := by
  induction ahead generalizing lead with
  | nil => simpa [written] using written_append_lead lead []
  | cons p ahead ih => simp [written, ih]

theorem written_congr {put' : List Char → Bool} (h : ∀ s ∈ slots, put s.name = put' s.name) :
    written adapter put lead slots = written adapter put' lead slots := by
  induction slots generalizing lead with
  | nil => rfl
  | cons s rest ih =>
    obtain ⟨hs, hrest⟩ := List.forall_mem_cons.1 h
    simp only [written, Slot.written, hs, ih hrest]

end Written

namespace Placed

variable {s : Slot} {slots ahead rest : List Slot}

theorem opens (h : Placed adapter slots) (hs : s ∈ slots) : Opens (s.literal adapter) :=
  opens_literalOf adapter (h.bound s hs)

theorem tail (h : Placed adapter (s :: slots)) : Placed adapter slots where
  named := (List.forall_mem_cons.1 h.named).2
  bound := (List.forall_mem_cons.1 h.bound).2
  ends := (List.forall_mem_cons.1 h.ends).2
  apart := h.apart.tail

theorem left (h : Placed adapter (ahead ++ rest)) : Placed adapter ahead where
  named := (List.forall_mem_append.1 h.named).1
  bound := (List.forall_mem_append.1 h.bound).1
  ends := (List.forall_mem_append.1 h.ends).1
  apart := h.apart.left_of_append

theorem right (h : Placed adapter (ahead ++ rest)) : Placed adapter rest where
  named := (List.forall_mem_append.1 h.named).2
  bound := (List.forall_mem_append.1 h.bound).2
  ends := (List.forall_mem_append.1 h.ends).2
  apart := h.apart.right_of_append

/-- No word goes on from a placeholder. -/
theorem breaks (h : Placed adapter (s :: rest)) (put : List Char → Bool) :
    Breaks (written adapter put s.behind rest) := by
  have hs := h.ends s List.mem_cons_self
  cases rest with
  | nil => exact hs
  | cons next rest =>
    rw [written, List.append_assoc]
    refine hs.append fun hbehind => Breaks.append ?_ ?_
    · rw [Slot.written]
      split
      · exact (List.isChain_cons_cons.1 h.apart).1 hbehind
      · exact breaks_colon _
    · intro hnil
      rw [Slot.written] at hnil
      split at hnil
      · obtain ⟨c, cs, hliteral, -⟩ := h.tail.opens List.mem_cons_self
        rw [hliteral] at hnil
        cases hnil
      · cases hnil

theorem colonWords_cons (h : Placed adapter (s :: rest)) (put : List Char → Bool)
    (lead : List Char) :
    colonWords (written adapter put lead (s :: rest)) =
      colonWords (lead ++ s.written adapter put) ++
        colonWords (written adapter put s.behind rest) :=
  colonWords_append (h.breaks put)

/-- A word behind a colon is there before all values are put in, or after. -/
theorem mem_colonWords {word : List Char} {put : List Char → Bool} (h : Placed adapter slots)
    {lead : List Char} (hword : word ∈ colonWords (written adapter put lead slots)) :
    word ∈ colonWords (written adapter (fun _ => false) lead slots) ∨
      word ∈ colonWords (written adapter (fun _ => true) lead slots) := by
  induction slots generalizing lead with
  | nil => exact .inl hword
  | cons s rest ih =>
    simp only [h.colonWords_cons, List.mem_append] at hword ⊢
    rcases hword with hword | hword
    · rw [Slot.written] at hword
      split at hword
      · exact .inr (.inl hword)
      · exact .inl (.inl hword)
    · exact (ih h.tail hword).imp .inr .inr

end Placed

/-! ## Nothing ahead -/

namespace Template

variable {t : Template adapter}

theorem name_ne {ahead : List Slot} {s : Slot} {rest : List Slot}
    (hslots : t.slots = ahead ++ s :: rest) {p : Slot} (hp : p ∈ ahead ∨ p ∈ rest) :
    p.name ≠ s.name := by
  have honce := t.once
  rw [hslots, List.map_append, List.map_cons] at honce
  obtain ⟨-, hsrest, hdisjoint⟩ := List.nodup_append.1 honce
  rcases hp with hp | hp
  · exact hdisjoint _ (List.mem_map_of_mem hp) _ List.mem_cons_self
  · intro heq
    exact (List.nodup_cons.1 hsrest).1 (heq ▸ List.mem_map_of_mem hp)

/-- A value finds its own placeholder, whichever values are in the text by then. -/
theorem put_written (hclear : t.Clear) {s : Slot} (hs : s ∈ t.slots) {put : List Char → Bool}
    (hput : put s.name = false) :
    s.put adapter (written adapter put t.lead t.slots) =
      written adapter (fun name => put name || name == s.name) t.lead t.slots := by
  obtain ⟨ahead, rest, hslots⟩ := List.append_of_mem hs
  have hplaced : Placed adapter (ahead ++ s :: rest) := hslots ▸ t.placed
  have hothers : ∀ lead, ∀ slots, (∀ p ∈ slots, p ∈ ahead ∨ p ∈ rest) →
      written adapter (fun name => put name || name == s.name) lead slots =
        written adapter put lead slots :=
    fun lead slots h => written_congr fun p hp => by simp [name_ne hslots (h p hp)]
  have hahead : s.name ∉ colonWords (written adapter put t.lead ahead) := fun hmem =>
    (hplaced.left.mem_colonWords hmem).elim (hclear ahead s rest hslots).1
      (hclear ahead s rest hslots).2
  have hbefore : s.written adapter put = ':' :: s.name := by simp [Slot.written, hput]
  have hafter : s.written adapter (fun name => put name || name == s.name) = s.literal adapter := by
    simp [Slot.written]
  have hwhole : ∀ put', written adapter put' t.lead (ahead ++ s :: rest) =
      written adapter put' t.lead ahead ++
        (s.written adapter put' ++ written adapter put' s.behind rest) := by
    intro put'
    rw [written_append, written, List.nil_append]
  rw [hslots, hwhole, hwhole, hbefore, hafter, List.cons_append, Slot.put,
    replaceFirst_of_not_mem (t.placed.named s hs) _ hahead (hplaced.right.breaks put),
    hothers _ ahead fun _ => .inl, hothers _ rest fun _ => .inr]

/-- All values find their own placeholders, in whatever order they are put in. -/
theorem foldl_put (hclear : t.Clear) {todo : List Slot} (done : List Slot)
    (h : (done ++ todo).Perm t.slots) :
    todo.foldl (Slot.put adapter)
        (written adapter (fun name => (done.map Slot.name).contains name) t.lead t.slots) =
      t.substituted := by
  induction todo generalizing done with
  | nil =>
    refine written_congr fun s hs => ?_
    rw [List.append_nil] at h
    exact List.contains_iff_mem.2 (List.mem_map_of_mem (h.mem_iff.2 hs))
  | cons s todo ih =>
    have hs : s ∈ t.slots := h.mem_iff.1 (by simp)
    have hnew : (done.map Slot.name).contains s.name = false := by
      have honce := (h.map Slot.name).nodup_iff.2 t.once
      rw [List.map_append, List.map_cons] at honce
      have hdisjoint := (List.nodup_append.1 honce).2.2
      rw [Bool.eq_false_iff, ne_eq, List.contains_iff_mem]
      exact fun hmem => hdisjoint _ hmem _ List.mem_cons_self rfl
    rw [List.foldl_cons, put_written hclear hs hnew, ← ih (done ++ [s]) (by simpa using h)]
    congr 1
    refine written_congr fun p _ => ?_
    have hlast : [s.name].contains p.name = (p.name == s.name) := by
      rw [List.contains_cons, List.contains_nil, Bool.or_false]
    rw [List.map_append, List.contains_append, List.map_singleton, hlast]

end Template

/-! ## Something ahead -/

section Order

variable {slots ahead rest : List Slot} {lead target cs : List Char}

theorem Astray.put (h : Astray target cs) (hplaced : Placed adapter slots) {s : Slot}
    (hs : s ∈ slots) : Astray target (s.put adapter cs) :=
  h.replaceFirst (hplaced.named s hs) (hplaced.opens hs)

/-- What is put in later does not mend a text that went astray. -/
theorem Astray.foldl (h : Astray target cs) (hplaced : Placed adapter slots) {order : List Slot}
    (horder : ∀ s ∈ order, s ∈ slots) : Astray target (order.foldl (Slot.put adapter) cs) := by
  induction order generalizing cs with
  | nil => exact h
  | cons s order ih =>
    obtain ⟨hs, horder⟩ := List.forall_mem_cons.1 horder
    exact ih (h.put hplaced hs) horder

theorem breaks_ahead (hplaced : Placed adapter slots) {s : Slot} (hs : s ∈ slots) :
    Breaks (written adapter (fun _ => false) s.behind rest) := by
  cases rest with
  | nil => exact hplaced.ends s hs
  | cons next rest =>
    rw [written, List.append_assoc]
    exact (hplaced.ends s hs).append fun _ => breaks_colon _

/-- A value that finds its own name in what is written goes astray. -/
theorem put_astray (hplaced : Placed adapter slots) {s : Slot} (hs : s ∈ slots) {x y z : List Char}
    (hx : s.name ∈ colonWords x) (hz : Breaks z) : Astray (x ++ y) (s.put adapter (x ++ z)) := by
  obtain ⟨u, v, w, rfl, hput⟩ :=
    replaceFirst_of_mem (hplaced.named s hs) (s.literal adapter) hx hz
  obtain ⟨c, cs, hliteral, hc⟩ := hplaced.opens hs
  exact ⟨u, v ++ y, c, cs ++ w, by simp, by rw [Slot.put, hput, hliteral]; rfl, hc⟩

/-- Values put in from the front find their placeholders, or the text goes astray. -/
theorem foldl_ahead (lead : List Char) (hplaced : Placed adapter (ahead ++ rest)) :
    Astray (written adapter (fun _ => true) lead (ahead ++ rest))
        (ahead.foldl (Slot.put adapter) (written adapter (fun _ => false) lead (ahead ++ rest))) ∨
      ahead.foldl (Slot.put adapter) (written adapter (fun _ => false) lead (ahead ++ rest)) =
        written adapter (fun _ => true) lead ahead ++ written adapter (fun _ => false) [] rest := by
  induction ahead generalizing lead with
  | nil => exact .inr (by simpa [written] using written_append_lead lead [])
  | cons p ahead ih =>
    have hp : p ∈ p :: ahead ++ rest := List.mem_cons_self
    have hbreaks : Breaks (written adapter (fun _ => false) p.behind (ahead ++ rest)) :=
      breaks_ahead hplaced hp
    have htext : written adapter (fun _ => false) lead (p :: ahead ++ rest) =
        lead ++ ':' :: (p.name ++ written adapter (fun _ => false) p.behind (ahead ++ rest)) := by
      simp [written, Slot.written]
    have htarget : ∀ more, written adapter (fun _ => true) lead (p :: more) =
        written adapter (fun _ => true) (lead ++ p.literal adapter ++ p.behind) more := by
      intro more
      rw [written_append_lead, written]
      simp [Slot.written]
    rw [List.foldl_cons, htext]
    by_cases hword : p.name ∈ colonWords lead
    · refine .inl (Astray.foldl ?_ hplaced fun s hs =>
        List.mem_append_left _ (List.mem_cons_of_mem _ hs))
      rw [List.cons_append, written, List.append_assoc]
      exact put_astray hplaced hp hword (breaks_colon _)
    · rw [Slot.put, replaceFirst_of_not_mem (hplaced.named p hp) _ hword hbreaks,
        ← List.append_assoc, ← written_append_lead, List.cons_append, htarget, htarget]
      exact ih _ hplaced.tail

/-- A name ahead of its placeholder stands in a text between two of the placeholders before it. -/
theorem exists_ahead {word : List Char} (hplaced : Placed adapter slots)
    (hword : word ∈ colonWords (written adapter (fun _ => false) lead slots))
    (hnot : word ∉ slots.map Slot.name) :
    ∃ ahead rest, slots = ahead ++ rest ∧
      word ∈ colonWords (written adapter (fun _ => true) lead ahead) := by
  induction slots generalizing lead with
  | nil => exact ⟨[], [], rfl, hword⟩
  | cons p rest ih =>
    rw [List.map_cons, List.mem_cons, not_or] at hnot
    rw [hplaced.colonWords_cons, List.mem_append] at hword
    rcases hword with hword | hword
    · have hplaceholder : p.written adapter (fun _ => false) = ':' :: p.name := rfl
      rw [hplaceholder, colonWords_append (breaks_colon _),
        colonWords_named (hplaced.named p List.mem_cons_self), List.mem_append] at hword
      exact ⟨[], _, rfl, hword.resolve_right fun h => hnot.1 (List.mem_singleton.1 h)⟩
    · obtain ⟨ahead, rest, rfl, hahead⟩ := ih hplaced.tail hword hnot.2
      exact ⟨p :: ahead, rest, rfl, mem_colonWords_append_right hahead⟩

end Order

namespace Template

variable {t : Template adapter}

/-- Where the values ahead bring in the name of a placeholder, the text goes astray if they are put
in first. -/
theorem astray {ahead mid rest : List Slot} {s : Slot}
    (hslots : t.slots = ahead ++ (mid ++ s :: rest))
    (hword : s.name ∈ colonWords (written adapter (fun _ => true) t.lead ahead)) :
    Astray t.substituted ((ahead ++ s :: (mid ++ rest)).foldl (Slot.put adapter) t.sql) := by
  have hplaced : Placed adapter (ahead ++ (mid ++ s :: rest)) := hslots ▸ t.placed
  have hs : s ∈ ahead ++ (mid ++ s :: rest) := by simp
  have hfirst : Astray t.substituted (s.put adapter (ahead.foldl (Slot.put adapter) t.sql)) := by
    rw [substituted, sql, hslots]
    rcases foldl_ahead t.lead hplaced with hastray | hahead
    · exact hastray.put hplaced hs
    · rw [hahead, written_append]
      refine put_astray hplaced hs hword ?_
      cases mid with
      | nil => exact breaks_colon _
      | cons p mid => exact breaks_colon _
  rw [List.foldl_append, List.foldl_cons]
  exact hfirst.foldl hplaced fun p hp => by
    simp only [List.mem_append, List.mem_cons] at hp ⊢
    tauto

theorem clear_of_forall (hall : ∀ order : List Slot, order.Perm t.slots →
    order.foldl (Slot.put adapter) t.sql = t.substituted) : t.Clear := by
  have hnone : ∀ ahead mid s rest, t.slots = ahead ++ (mid ++ s :: rest) →
      s.name ∉ colonWords (written adapter (fun _ => true) t.lead ahead) := by
    intro ahead mid s rest hslots hword
    refine (t.astray hslots hword).ne (hall _ ?_)
    rw [hslots]
    exact List.perm_middle.symm.append_left ahead
  intro ahead s rest hslots
  refine ⟨fun hword => ?_, hnone ahead [] s rest hslots⟩
  have hplaced : Placed adapter (ahead ++ s :: rest) := hslots ▸ t.placed
  have hnot : s.name ∉ ahead.map Slot.name := by
    rw [List.mem_map]
    rintro ⟨p, hp, hname⟩
    exact name_ne hslots (.inl hp) hname
  obtain ⟨front, mid, rfl, hfront⟩ := exists_ahead hplaced.left hword hnot
  exact hnone front mid s rest (by rw [hslots, List.append_assoc]) hfront

/-! ## At once -/

theorem put_entry (adapter : Option Adapter) (cs : List Char) (s : Slot) :
    putNamed adapter cs s.entry = s.put adapter cs := by
  rw [putNamed, Slot.entry, Value.toText, String.toList_ofList]
  rfl

theorem interpolated_query (t : Template adapter) (order : List Slot) :
    (t.query order).interpolated =
      .ok (.text (String.ofList (order.foldl (Slot.put adapter) t.sql))) := by
  cases order with
  | nil => rfl
  | cons s order =>
    have hfold : ((s :: order).map Slot.entry).foldl (putNamed adapter) t.sql =
        (s :: order).foldl (Slot.put adapter) t.sql := by
      simp only [List.foldl_map, put_entry]
    rw [← hfold]
    conv_rhs => rw [← String.toList_ofList (l := t.sql)]
    rfl

/-- Named values are put in at once, whatever their order, exactly if no placeholder has its own
name ahead of it. -/
theorem interpolated_iff (t : Template adapter) :
    (∀ order : List Slot, order.Perm t.slots →
      (t.query order).interpolated = .ok (.text (String.ofList t.substituted))) ↔ t.Clear := by
  have hsame : ∀ order, (t.query order).interpolated = .ok (.text (String.ofList t.substituted)) ↔
      order.foldl (Slot.put adapter) t.sql = t.substituted := by
    intro order
    rw [interpolated_query, Except.ok.injEq, Value.text.injEq]
    exact ⟨fun h => by simpa using congrArg String.toList h, congrArg String.ofList⟩
  simp only [hsame]
  exact ⟨clear_of_forall, fun hclear _ horder => foldl_put hclear [] horder⟩

/-- `SELECT :a, :b`, where the value of `a` is the text `:b`. -/
def crossed : Template (some (.mk .sqlite false)) where
  lead := "SELECT ".toList
  slots := [⟨['a'], .text ":b", ", ".toList⟩, ⟨['b'], .int 1, []⟩]
  placed := {
    named := by simp [IsName]; decide
    bound := by simp [Value.Bound, Value.isRaw, Value.bindable_int, Value.bindable_text]
    ends := by simp [Breaks]; decide
    apart := by simp }
  once := by decide

theorem interpolated_iff_of_crossed : ¬ ∀ order : List Slot, order.Perm crossed.slots →
    (crossed.query order).interpolated = .ok (.text "SELECT ':b', 1") := by
  have hsubstituted : String.ofList crossed.substituted = "SELECT ':b', 1" := by rfl
  have hword : ['b'] ∈ colonWords
      (written (some (.mk .sqlite false)) (fun _ => true) crossed.lead (crossed.slots.take 1)) := by
    decide
  rw [← hsubstituted, interpolated_iff]
  exact fun hclear => (hclear (crossed.slots.take 1) _ [] rfl).2 hword

/-! ## Examples -/

example : (crossed.query crossed.slots).interpolated = .ok (.text "SELECT '1', :b") := by rfl
example : (crossed.query crossed.slots.reverse).interpolated = .ok (.text "SELECT ':b', 1") := by
  rfl

end Template

end SqlBuilder.CompiledQuery
