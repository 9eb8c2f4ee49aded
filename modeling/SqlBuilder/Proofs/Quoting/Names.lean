import SqlBuilder.Proofs.Quoting.Lowering
import SqlBuilder.Proofs.Related.Criteria

/-!
# Names with and without quotes

A name without quotes in it that is visible at both ends is written with and without quotes alike,
quotes aside (`Value.Clean.wrap`), however many dots, stars and aliases it is made of: the quotes
stand around its plain names (`without_writeParts`), and what is written without quotes has its
white space where the name has it (`map_isBlank_writeParts`). An alias in small letters is such a
name if the alias is (`Value.Clean.lower`).
-/

set_option autoImplicit false

namespace SqlBuilder

open Text

namespace Dialect

/-- The dialect with quoted identifiers. -/
abbrev quoting (d : Dialect) : Adapter := ⟨d, true⟩

/-- The dialect without identifier quotes. -/
abbrev plain (d : Dialect) : Adapter := ⟨d, false⟩

end Dialect

namespace Text

variable {q : Char}

/-- Quotes at an end do not make a blank one visible. -/
theorem begins_of_without (hq : isBlank q = false) {cs : List Char}
    (h : begins (without q cs) = true) : begins cs = true := by
  cases cs with
  | nil => exact h
  | cons c cs =>
    by_cases hc : c = q
    · simp [begins, hc, hq]
    · simpa [without, hc, begins] using h

theorem solid_of_without (hq : isBlank q = false) {cs : List Char} (h : Solid (without q cs)) :
    Solid cs := by
  refine ⟨begins_of_without hq h.1, begins_of_without hq ?_⟩
  rw [without, List.filter_reverse]
  exact h.2

theorem begins_congr {cs ds : List Char} (h : ds.map isBlank = cs.map isBlank) :
    begins ds = begins cs := by
  cases cs <;> cases ds <;> simp_all [begins]

/-- Only the white space of a text decides whether it is visible at both ends. -/
theorem Solid.congr {cs ds : List Char} (h : ds.map isBlank = cs.map isBlank) (hcs : Solid cs) :
    Solid ds := by
  refine ⟨(begins_congr h).trans hcs.1, (begins_congr ?_).trans hcs.2⟩
  rw [List.map_reverse, List.map_reverse, h]

end Text

namespace Dialect

variable (d : Dialect)

theorem without_quoteName {cs : List Char} (h : d.identifierQuote ∉ cs) :
    without d.identifierQuote (d.quoteName cs) = cs := by
  rw [quoteName, doubled_of_not_mem h, without_append]
  have hcs := without_of_free h
  simp only [without] at hcs ⊢
  simp [hcs]

/-- The quotes of a written name stand around its parts. -/
theorem without_writeParts (dotted : Bool) {cs : List Char} (h : d.identifierQuote ∉ cs) :
    without d.identifierQuote ((partsFrom dotted cs).flatMap d.quoting.writePart) =
      (partsFrom dotted cs).flatMap d.plain.writePart := by
  induction dotted, cs using partsFrom.induct with
  | case1 cs front rest hcut ihf ihr =>
    have hdot : without d.identifierQuote ['.'] = ['.'] := by cases d <;> decide
    rw [cut_eq_some hcut] at h
    simp only [List.mem_append, not_or] at h
    rw [partsFrom_dotted hcut, List.flatMap_append, List.flatMap_cons, List.flatMap_append,
      List.flatMap_cons, without_append, without_append, ihf h.1.1, ihr h.2]
    simp only [Adapter.writePart, hdot]
  | case2 cs hcut ih => rw [partsFrom_undotted hcut, ih h]
  | case3 dotted cs hdotted front rest hcut ihf ihr =>
    have has : without d.identifierQuote [' ', 'A', 'S', ' '] = [' ', 'A', 'S', ' '] := by
      cases d <;> decide
    rw [cut_eq_some hcut] at h
    simp only [List.mem_append, not_or] at h
    rw [eq_false_of_ne_true hdotted, partsFrom_as hcut, List.flatMap_append, List.flatMap_cons,
      List.flatMap_append, List.flatMap_cons, without_append, without_append, ihf h.1.1, ihr h.2]
    simp only [Adapter.writePart, has]
  | case4 dotted cs hdotted hcut =>
    rw [eq_false_of_ne_true hdotted, partsFrom_plain hcut, List.flatMap_singleton,
      List.flatMap_singleton]
    split
    · exact without_of_free h
    · exact d.without_quoteName h

/-- Without quotes a name keeps its white space where it is. -/
theorem map_isBlank_writeParts (dotted : Bool) (cs : List Char) :
    ((partsFrom dotted cs).flatMap d.plain.writePart).map isBlank = cs.map isBlank := by
  induction dotted, cs using partsFrom.induct with
  | case1 cs front rest hcut ihf ihr =>
    rw [partsFrom_dotted hcut, cut_eq_some hcut, List.flatMap_append, List.flatMap_cons]
    simp only [List.map_append, ihf, ihr, Adapter.writePart, List.append_assoc]
  | case2 cs hcut ih => rw [partsFrom_undotted hcut, ih]
  | case3 dotted cs hdotted front rest hcut ihf ihr =>
    have has : [' ', 'A', 'S', ' '].map isBlank = aliasSeparator.map isBlank := by decide
    rw [eq_false_of_ne_true hdotted, partsFrom_as hcut, cut_eq_some hcut, List.flatMap_append,
      List.flatMap_cons]
    simp only [List.map_append, ihf, ihr, Adapter.writePart, has, List.append_assoc]
  | case4 dotted cs hdotted hcut =>
    rw [eq_false_of_ne_true hdotted, partsFrom_plain hcut, List.flatMap_singleton]
    split
    · rfl
    · rfl

/-- A written name with and without quotes. -/
theorem bare_wrapChars {cs : List Char} (h : d.identifierQuote ∉ cs) (hsolid : Solid cs) :
    Bare d.identifierQuote (d.quoting.wrapChars cs) (d.plain.wrapChars cs) := by
  have hplain : Solid (d.plain.wrapChars cs) := hsolid.congr (d.map_isBlank_writeParts true cs)
  rw [Adapter.wrapChars, ← d.without_writeParts true h] at hplain
  have hbare := Bare.of_solid (solid_of_without d.isBlank_identifierQuote hplain) hplain
  rwa [d.without_writeParts true h] at hbare

end Dialect

namespace Value

variable {d : Dialect}

/-- What may be written as a name: without identifier quotes in it and, unless it is a raw fragment,
with visible characters at both ends. -/
structure Clean (d : Dialect) (v : Value) : Prop where
  free : d.Free v.toText
  solid : v.isRaw = false → Solid v.toText.toList

instance (d : Dialect) (v : Value) : Decidable (v.Clean d) :=
  decidable_of_iff (d.Free v.toText ∧ (v.isRaw = false → Solid v.toText.toList))
    ⟨fun h => ⟨h.1, h.2⟩, fun h => ⟨h.free, h.solid⟩⟩

theorem wrap_of_not_raw (a : Adapter) {v : Value} (h : v.isRaw = false) :
    a.wrap v = a.wrapText v.toText := by
  cases v <;> first | rfl | simp [isRaw] at h

theorem Clean.wrap {v : Value} (h : v.Clean d) :
    Unquoted d (.ofText (d.quoting.wrap v)) (.ofText (d.plain.wrap v)) := by
  cases hraw : v.isRaw with
  | true =>
    obtain ⟨sql, bindings, rfl⟩ := exists_eq_raw hraw
    exact .word h.free
  | false =>
    rw [wrap_of_not_raw _ hraw, wrap_of_not_raw _ hraw]
    refine ⟨rfl, ?_⟩
    simpa [Fragment.ofText, Adapter.wrapText] using d.bare_wrapChars h.free (h.solid hraw)

/-! ## Aliases in small letters -/

theorem avoids_quote {t : CaseTable} (d : Dialect)
    (h : t.passes (· == d.identifierQuote)
      [(d.identifierQuote.toNat, d.identifierQuote.toNat)] = true) :
    t.avoids (· == d.identifierQuote) = true := by
  refine CaseTable.avoids_of_passes (fun c hc => ⟨_, List.mem_cons_self, ?_⟩) ?_ h
  · rw [beq_iff_eq.1 hc]
    exact ⟨le_rfl, le_rfl⟩
  · cases d <;> rfl

theorem lowersSafely_quote (d : Dialect) : LowersSafely (· == d.identifierQuote) := by
  cases d <;> exact ⟨avoids_quote _ (by decide +kernel), by decide⟩

theorem free_iff_forall {s : String} :
    d.Free s ↔ ∀ c ∈ s.toList, (c == d.identifierQuote) = false := by
  simp only [Dialect.Free, beq_eq_false_iff_ne]
  exact ⟨fun h c hc heq => h (heq ▸ hc), fun h hmem => h _ hmem rfl⟩

theorem free_lower {s : String} (h : d.Free s) : d.Free (Text.lower s) :=
  free_iff_forall.2 (lower_avoids (lowersSafely_quote d) (free_iff_forall.1 h))

theorem free_upper {s : String} (h : d.Free s) : d.Free (Text.upper s) :=
  free_iff_forall.2
    (upper_avoids (avoids_quote d (by cases d <;> decide +kernel)) (free_iff_forall.1 h))

/-- An octet with its ASCII letter in small. -/
def lowerOctet (o : UInt8) : UInt8 :=
  if o < 128 then (Char.ofNat o.toNat).toLower.toUInt8 else o

theorem octet_forall {P : UInt8 → Prop} (h : ∀ n < 256, P (UInt8.ofNat n)) (o : UInt8) : P o := by
  have := h o.toNat o.toNat_lt
  rwa [UInt8.ofNat_toNat] at this

/-- Both quotes that octets are displayed in. -/
theorem forall_quote {P : Char → Prop} (h : P '\'' ∧ P '"') : ∀ quote ∈ ['\'', '"'], P quote :=
  List.forall_mem_cons.2 ⟨h.1, List.forall_mem_singleton.2 h.2⟩

theorem displayQuote_lower (octets : List UInt8) :
    displayQuote ((octets.map lowerOctet).map fun o => Char.ofNat o.toNat) =
      displayQuote (octets.map fun o => Char.ofNat o.toNat) := by
  have hcontains : ∀ c ∈ ['\'', '"'],
      ((octets.map lowerOctet).map fun o => Char.ofNat o.toNat).contains c =
        (octets.map fun o => Char.ofNat o.toNat).contains c := by
    -- the quotes are taken one by one: there is an instance that would try all characters
    have hoctet : ∀ o : UInt8,
        ('\'' == Char.ofNat (lowerOctet o).toNat) = ('\'' == Char.ofNat o.toNat) ∧
        ('"' == Char.ofNat (lowerOctet o).toNat) = ('"' == Char.ofNat o.toNat) :=
      octet_forall (by decide +kernel)
    intro c hc
    induction octets with
    | nil => rfl
    | cons o octets ih =>
      have ho : (c == Char.ofNat (lowerOctet o).toNat) = (c == Char.ofNat o.toNat) :=
        forall_quote (P := fun c =>
          (c == Char.ofNat (lowerOctet o).toNat) = (c == Char.ofNat o.toNat)) (hoctet o) c hc
      simp only [List.map_cons, List.contains_cons, ho]
      exact congrArg _ ih
  rw [displayQuote, displayQuote, hcontains _ (by simp), hcontains _ (by simp)]

theorem free_displayOctets {octets : List UInt8} (h : d.Free (displayOctets octets)) :
    d.Free (displayOctets (lowerOctets octets)) := by
  have hboth : ∀ o : UInt8,
      (d.identifierQuote ∈ displayOctet '\'' (lowerOctet o) →
        d.identifierQuote ∈ displayOctet '\'' o) ∧
      (d.identifierQuote ∈ displayOctet '"' (lowerOctet o) →
        d.identifierQuote ∈ displayOctet '"' o) :=
    octet_forall (by cases d <;> decide +kernel)
  have hoctet : ∀ o : UInt8, ∀ quote ∈ ['\'', '"'],
      d.identifierQuote ∈ displayOctet quote (lowerOctet o) →
        d.identifierQuote ∈ displayOctet quote o := fun o => forall_quote (hboth o)
  have hquote : displayQuote (octets.map fun o => Char.ofNat o.toNat) ∈ ['\'', '"'] := by
    unfold displayQuote
    split <;> simp
  show d.Free (displayOctets (octets.map lowerOctet))
  unfold Dialect.Free displayOctets at *
  rw [displayQuote_lower]
  intro hmem
  apply h
  simp only [String.toList_ofList, List.mem_cons, List.mem_append, List.mem_flatMap,
    List.mem_map, exists_exists_and_eq_and] at hmem ⊢
  grind

theorem solid_displayOctets (octets : List UInt8) : Solid (displayOctets octets).toList := by
  refine ⟨by simp [displayOctets, begins]; decide, ?_⟩
  unfold displayOctets displayQuote
  split <;> simp [begins] <;> decide

/-- An alias in small letters is a name if the alias is. -/
theorem Clean.lower {v w : Value} (h : v.Clean d) (hw : v.lower = .ok w) : w.Clean d := by
  cases v with
  | text s =>
    cases hw
    exact ⟨free_lower h.free, fun _ => solid_lower (h.solid rfl)⟩
  | bytes octets =>
    cases hw
    exact ⟨free_displayOctets h.free, fun _ => solid_displayOctets _⟩
  | _ => cases hw

end Value

end SqlBuilder
