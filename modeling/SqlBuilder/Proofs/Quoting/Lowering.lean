import SqlBuilder.Proofs.Quoting.Erasure

/-!
# Characters that a change of case does not make

Changing the case of a text replaces its characters by others. `CaseTable.Avoids bad` checks the
tables once: no character that is not `bad` becomes a `bad` one. So a text without a quote has none
in capitals or small letters either (`upper_avoids`, `lower_avoids`), and one that is visible at
both ends stays so (`solid_lower`). What has become small letters stays as it is (`lower_lower`): no
run of the table moves a code point to one of a run (`endsRun`).
-/

set_option autoImplicit false

namespace SqlBuilder.Text

/-- How characters change their case: ASCII, those that become several, and the others. -/
structure CaseTable where
  ascii : Char → Char
  expansions : List (Nat × List Nat)
  runs : List CaseRun

namespace CaseTable

/-- Capitals. -/
def capitals : CaseTable := ⟨Char.toUpper, upperExpansions, upperRuns⟩

/-- Small letters. -/
def smalls : CaseTable := ⟨Char.toLower, lowerExpansions, lowerRuns⟩

/-- What a character becomes. -/
def change (t : CaseTable) (c : Char) : List Char :=
  if c.toNat < 128 then [t.ascii c]
  else match t.expansions.lookup c.toNat with
    | some ns => ns.map Char.ofNat
    | none => [Char.ofNat (shiftCase t.runs c.toNat)]

/-- No character becomes a bad one that is none itself, and none vanishes. -/
def avoids (t : CaseTable) (bad : Char → Bool) : Bool :=
  ((List.range 128).all fun n => bad (Char.ofNat n) || !bad (t.ascii (Char.ofNat n))) &&
    (t.expansions.all fun (_, ns) => !ns.isEmpty && ns.all fun n => !bad (Char.ofNat n)) &&
    t.runs.all fun (first, last, _, shift) =>
      (List.range (last + 1 - first)).all fun i =>
        !bad (Char.ofNat (Int.ofNat (first + i) + shift).toNat)

variable {t : CaseTable} {bad : Char → Bool}

theorem bad_shiftCase (h : t.avoids bad = true) {c : Char} (hc : bad c = false) :
    bad (Char.ofNat (shiftCase t.runs c.toNat)) = false := by
  simp only [avoids, Bool.and_eq_true] at h
  unfold shiftCase
  split
  · rename_i first last step shift hfind
    have hwithin := List.find?_some hfind
    simp only [Bool.and_eq_true, decide_eq_true_eq] at hwithin
    have hrun := List.all_eq_true.1 h.2 _ (List.mem_of_find?_eq_some hfind)
    have hmem : c.toNat - first ∈ List.range (last + 1 - first) := by
      rw [List.mem_range]
      omega
    have hgood := List.all_eq_true.1 hrun _ hmem
    rw [show first + (c.toNat - first) = c.toNat by omega] at hgood
    simpa using hgood
  · rwa [Char.ofNat_toNat]

/-- The run moves none of its code points into the range. -/
def passesRange (range : Nat × Nat) (run : CaseRun) : Bool :=
  decide (Int.ofNat run.2.1 + run.2.2.2 < Int.ofNat range.1) ||
    decide (Int.ofNat range.2 < Int.ofNat run.1 + run.2.2.2)

/-- As `avoids`, where the bad characters lie in ranges: the runs are not gone through character by
character. -/
def passes (t : CaseTable) (bad : Char → Bool) (ranges : List (Nat × Nat)) : Bool :=
  ((List.range 128).all fun n => bad (Char.ofNat n) || !bad (t.ascii (Char.ofNat n))) &&
    (t.expansions.all fun (_, ns) => !ns.isEmpty && ns.all fun n => !bad (Char.ofNat n)) &&
    t.runs.all fun run => ranges.all (passesRange · run)

theorem avoids_of_passes {ranges : List (Nat × Nat)}
    (hbad : ∀ c, bad c = true → ∃ range ∈ ranges, range.1 ≤ c.toNat ∧ c.toNat ≤ range.2)
    (hnull : bad (Char.ofNat 0) = false) (h : t.passes bad ranges = true) :
    t.avoids bad = true := by
  simp only [passes, Bool.and_eq_true] at h
  simp only [avoids, Bool.and_eq_true]
  refine ⟨h.1, List.all_eq_true.2 fun run hrun => List.all_eq_true.2 fun i hi => ?_⟩
  have hpasses := List.all_eq_true.1 (List.all_eq_true.1 h.2 run hrun)
  obtain ⟨first, last, step, shift⟩ := run
  have hlast : i < last + 1 - first := List.mem_range.1 hi
  dsimp only
  rw [Int.ofNat_eq_natCast, Bool.not_eq_true', ← Bool.not_eq_true]
  intro hmoved
  -- what is no code point becomes the null character
  have hvalid : ((↑(first + i) + shift : Int).toNat).isValidChar := by
    by_contra hinvalid
    rw [Char.ofNat, dif_neg hinvalid] at hmoved
    cases hmoved.symm.trans hnull
  have hpositive : (↑(first + i) + shift : Int).toNat ≠ 0 := by
    intro hzero
    rw [hzero, hnull] at hmoved
    cases hmoved
  obtain ⟨range, hrange, hlow, hhigh⟩ := hbad _ hmoved
  have htoNat : (Char.ofNat (↑(first + i) + shift : Int).toNat).toNat =
      (↑(first + i) + shift : Int).toNat := by
    rw [Char.ofNat, dif_pos hvalid]
    rfl
  rw [htoNat] at hlow hhigh
  have hout := hpasses range hrange
  simp only [passesRange, Bool.or_eq_true, decide_eq_true_eq, Int.ofNat_eq_natCast] at hout
  omega

/-- What becomes of a character that is not bad. -/
theorem change_avoids (h : t.avoids bad = true) {c : Char} (hc : bad c = false) :
    t.change c ≠ [] ∧ ∀ e ∈ t.change c, bad e = false := by
  have hshift := bad_shiftCase h hc
  simp only [avoids, Bool.and_eq_true] at h
  unfold change
  split
  · rename_i hascii
    have := List.all_eq_true.1 h.1.1 c.toNat (List.mem_range.2 hascii)
    rw [Char.ofNat_toNat, hc] at this
    simpa using this
  · split
    · rename_i ns hns
      have := List.all_eq_true.1 h.1.2 _ (lookup_mem hns)
      simp only [Bool.and_eq_true, List.all_eq_true, Bool.not_eq_true'] at this
      refine ⟨by simpa using this.1, fun e he => ?_⟩
      obtain ⟨n, hn, rfl⟩ := List.mem_map.1 he
      exact this.2 n hn
    · simpa using hshift

end CaseTable

open CaseTable

section

variable {bad : Char → Bool}

theorem upper_avoids (h : capitals.avoids bad = true) {s : String}
    (hs : ∀ c ∈ s.toList, bad c = false) : ∀ c ∈ (upper s).toList, bad c = false := by
  intro c hc
  rw [upper, String.toList_ofList, List.mem_flatMap] at hc
  obtain ⟨e, he, hc⟩ := hc
  exact (change_avoids h (hs e he)).2 c hc

/-- The small form of a character between others. -/
def smallAt (before : List Char) (c : Char) (cs : List Char) : List Char :=
  if c.toNat == 0x3A3 then
    if nextIsCased before && !nextIsCased cs then [Char.ofNat 0x3C2] else [Char.ofNat 0x3C3]
  else lowerChar c

theorem lowerFrom_cons (before : List Char) (c : Char) (cs : List Char) :
    lowerFrom before (c :: cs) = smallAt before c cs ++ lowerFrom (c :: before) cs := rfl

/-- The small letters have no bad character unless the text has, not even for a sigma. -/
structure LowersSafely (bad : Char → Bool) : Prop where
  table : smalls.avoids bad = true
  sigma : bad (Char.ofNat 0x3C2) = false ∧ bad (Char.ofNat 0x3C3) = false

theorem smallAt_avoids (h : LowersSafely bad) (before cs : List Char) {c : Char}
    (hc : bad c = false) :
    smallAt before c cs ≠ [] ∧ ∀ e ∈ smallAt before c cs, bad e = false := by
  unfold smallAt
  split
  · split
    · simpa using h.sigma.1
    · simpa using h.sigma.2
  · exact change_avoids h.table hc

theorem lowerFrom_avoids (h : LowersSafely bad) (before : List Char) {cs : List Char}
    (hcs : ∀ c ∈ cs, bad c = false) : ∀ c ∈ lowerFrom before cs, bad c = false := by
  induction cs generalizing before with
  | nil => simp [lowerFrom]
  | cons c cs ih =>
    intro e he
    rw [lowerFrom_cons, List.mem_append] at he
    rcases he with he | he
    · exact (smallAt_avoids h before cs (hcs c List.mem_cons_self)).2 e he
    · exact ih (c :: before) (fun e he => hcs e (List.mem_cons_of_mem c he)) e he

theorem lower_avoids (h : LowersSafely bad) {s : String} (hs : ∀ c ∈ s.toList, bad c = false) :
    ∀ c ∈ (lower s).toList, bad c = false := by
  rw [lower, String.toList_ofList]
  exact lowerFrom_avoids h [] hs

end

/-! ## Visible ends -/

/-- The ranges of the blanks. -/
def blankRanges : List (Nat × Nat) :=
  [(0x9, 0xD), (0x1C, 0x20), (0x85, 0x85), (0xA0, 0xA0), (0x1680, 0x1680), (0x2000, 0x200A),
    (0x2028, 0x2029), (0x202F, 0x202F), (0x205F, 0x205F), (0x3000, 0x3000)]

theorem exists_range_of_isBlank (c : Char) (h : isBlank c = true) :
    ∃ range ∈ blankRanges, range.1 ≤ c.toNat ∧ c.toNat ≤ range.2 := by
  simp only [isBlank, isSpace, Bool.or_eq_true, Bool.and_eq_true,
    decide_eq_true_eq, beq_iff_eq] at h
  simp only [blankRanges, List.exists_mem_cons_iff, List.not_mem_nil, false_and, exists_false]
  omega

theorem lowersSafely_isBlank : LowersSafely isBlank :=
  ⟨avoids_of_passes exists_range_of_isBlank (by decide) (by decide +kernel), by decide⟩

theorem begins_of_forall {cs : List Char} (hne : cs ≠ []) (h : ∀ c ∈ cs, isBlank c = false) :
    begins cs = true := by
  cases cs with
  | nil => exact absurd rfl hne
  | cons c cs => simp [begins, h c List.mem_cons_self]

theorem begins_of_append {xs ys : List Char} (hne : xs ≠ []) (h : begins (xs ++ ys) = true) :
    begins xs = true := by
  cases xs with
  | nil => exact absurd rfl hne
  | cons => exact h

/-- The small form of a visible character is visible at both ends. -/
theorem begins_smallAt (before cs : List Char) {c : Char} (hc : isBlank c = false) :
    begins (smallAt before c cs) = true ∧ begins (smallAt before c cs).reverse = true := by
  obtain ⟨hne, hall⟩ := smallAt_avoids lowersSafely_isBlank before cs hc
  exact ⟨begins_of_forall hne hall,
    begins_of_forall (by simpa using hne) fun e he => hall e (List.mem_reverse.1 he)⟩

theorem begins_reverse_lowerFrom (before : List Char) {cs : List Char}
    (h : begins cs.reverse = true) : begins (lowerFrom before cs).reverse = true := by
  induction cs generalizing before with
  | nil => cases h
  | cons c cs ih =>
    rw [lowerFrom_cons, List.reverse_append]
    rw [List.reverse_cons] at h
    cases cs with
    | nil => simpa [lowerFrom] using (begins_smallAt before [] (by simpa [begins] using h)).2
    | cons e cs =>
      exact begins_append (ih (c :: before) (begins_of_append (by simp) h)) _

theorem solid_lower {s : String} (h : Solid s.toList) : Solid (lower s).toList := by
  rw [lower, String.toList_ofList]
  refine ⟨?_, begins_reverse_lowerFrom [] h.2⟩
  have hfirst := h.1
  cases hcs : s.toList with
  | nil => simp [hcs, begins] at hfirst
  | cons c cs =>
    rw [lowerFrom_cons]
    exact begins_append (begins_smallAt [] cs (by simpa [hcs, begins] using hfirst)).1 _

/-! ## Small letters stay -/

/-- The runs of code points that have a small form of another kind. -/
def capitalRuns : List CaseRun := (0x41, 0x5A, 1, 32) :: (0x130, 0x130, 1, 0) :: lowerRuns

/-- The code point is one of the run. -/
def inRun (n : Nat) : CaseRun → Prop
  | (first, last, step, _) => first ≤ n ∧ n ≤ last ∧ (n - first) % step = 0

/-- None of the code points from `low` to `high` in steps of `step` is one of the run. Runs that
interleave go in steps of two. -/
def passesRun (low high step : Nat) (run : CaseRun) : Bool :=
  bif run.1.ble high then
    bif low.ble run.2.1 then
      (step.beq 2 || low.beq high) && run.2.2.1.beq 2 && ((low + run.1) % 2).beq 1
    else true
  else true

/-- No code point of the run is moved to one that would be moved on. -/
def endsRun (run : CaseRun) : Bool :=
  decide (0 ≤ Int.ofNat run.1 + run.2.2.2) &&
    capitalRuns.all (passesRun (Int.ofNat run.1 + run.2.2.2).toNat
      (Int.ofNat run.2.1 + run.2.2.2).toNat run.2.2.1)

set_option maxRecDepth 10000 in
theorem endsRun_of_mem : ∀ run ∈ lowerRuns, endsRun run = true :=
  List.all_eq_true.1 (by decide +kernel)

theorem not_inRun_of_passes {low high step m : Nat} {run : CaseRun}
    (h : passesRun low high step run = true) (hlow : low ≤ m) (hhigh : m ≤ high)
    (hstep : (m - low) % step = 0) : ¬ inRun m run := by
  obtain ⟨first, last, step', shift⟩ := run
  rintro ⟨hfirst, hlast, hin⟩
  have hbegins : first.ble high = true := Nat.ble_eq_true_of_le (by omega)
  have hreaches : low.ble last = true := Nat.ble_eq_true_of_le (by omega)
  simp only [passesRun, hbegins, hreaches, cond_true, Bool.or_eq_true, Bool.and_eq_true,
    Nat.beq_eq] at h
  obtain ⟨⟨rfl | rfl, rfl⟩, hparity⟩ := h <;> omega

/-- A character of no run is its own small form. -/
theorem lowerChar_of_not_inRun {c : Char} (h : ∀ run ∈ capitalRuns, ¬ inRun c.toNat run) :
    lowerChar c = [c] := by
  simp only [capitalRuns, List.forall_mem_cons, inRun, Nat.mod_one] at h
  obtain ⟨hascii, hexpanded, hruns⟩ := h
  unfold lowerChar
  split
  · have hlower : c.toLower = c := by
      unfold Char.toLower
      rw [dif_neg]
      simp only [UInt32.le_iff_toNat_le, Char.toNat] at hascii ⊢
      exact fun hrange => hascii ⟨hrange.1, hrange.2, trivial⟩
    rw [hlower]
  · have hother : c.toNat ≠ 0x130 := fun heq => hexpanded ⟨heq.ge, heq.le, trivial⟩
    have hnone : lowerExpansions.lookup c.toNat = none := by
      rw [lowerExpansions, List.lookup_cons, beq_eq_false_iff_ne.2 hother]
      rfl
    have hfind : (lowerRuns.find? fun (first, last, step, _) =>
        first ≤ c.toNat && c.toNat ≤ last && (c.toNat - first) % step == 0) = none := by
      rw [List.find?_eq_none]
      intro run hrun hcover
      simp only [Bool.and_eq_true, decide_eq_true_eq, beq_iff_eq] at hcover
      exact hruns run hrun ⟨hcover.1.1, hcover.1.2, hcover.2⟩
    simp only [hnone]
    rw [shiftCase, hfind, Char.ofNat_toNat]

theorem lowerChar_of_passes {low high step m : Nat}
    (h : ∀ run ∈ capitalRuns, passesRun low high step run = true)
    (hlow : low ≤ m) (hhigh : m ≤ high) (hstep : (m - low) % step = 0) :
    lowerChar (Char.ofNat m) = [Char.ofNat m] := by
  by_cases hvalid : m.isValidChar
  · have hm : (Char.ofNat m).toNat = m := by
      rw [Char.ofNat, dif_pos hvalid]
      rfl
    refine lowerChar_of_not_inRun fun run hrun => ?_
    rw [hm]
    exact not_inRun_of_passes (h run hrun) hlow hhigh hstep
  · rw [Char.ofNat, dif_neg hvalid]
    decide

/-- A code point that is moved is not moved on. -/
theorem lowerChar_shiftCase {c : Char} (h : lowerExpansions.lookup c.toNat = none)
    (hascii : ¬ c.toNat < 128) :
    lowerChar (Char.ofNat (shiftCase lowerRuns c.toNat)) =
      [Char.ofNat (shiftCase lowerRuns c.toNat)] := by
  cases hfind : lowerRuns.find? fun (first, last, step, _) =>
      first ≤ c.toNat && c.toNat ≤ last && (c.toNat - first) % step == 0 with
  | none =>
    have hstays : shiftCase lowerRuns c.toNat = c.toNat := by rw [shiftCase, hfind]
    rw [hstays, Char.ofNat_toNat, lowerChar, if_neg hascii, h]
    simp only [hstays, Char.ofNat_toNat]
  | some run =>
    obtain ⟨first, last, step, shift⟩ := run
    have hmoved : shiftCase lowerRuns c.toNat = (Int.ofNat c.toNat + shift).toNat := by
      rw [shiftCase, hfind]
    have hin := List.find?_some hfind
    simp only [Bool.and_eq_true, decide_eq_true_eq, beq_iff_eq] at hin
    obtain ⟨⟨hfirst, hlast⟩, hstep⟩ := hin
    have hends := endsRun_of_mem _ (List.mem_of_find?_eq_some hfind)
    simp only [endsRun, Bool.and_eq_true, decide_eq_true_eq, List.all_eq_true] at hends
    obtain ⟨hpositive, hpasses⟩ := hends
    simp only [Int.ofNat_eq_natCast] at hmoved hpositive hpasses
    have hsame : ((c.toNat : Int) + shift).toNat - ((first : Int) + shift).toNat =
        c.toNat - first := by omega
    rw [hmoved]
    exact lowerChar_of_passes hpasses (by omega) (by omega) (by rw [hsame, hstep])

set_option maxRecDepth 10000 in
/-- The small forms of the capitals that have one of their own. -/
theorem lowerChar_of_mem {n : Nat} (h : n ∈ [0x69, 0x307, 0x3C2, 0x3C3]) :
    lowerChar (Char.ofNat n) = [Char.ofNat n] := by
  have hpasses : ∀ n ∈ [0x69, 0x307, 0x3C2, 0x3C3], capitalRuns.all (passesRun n n 1) = true := by
    decide +kernel
  exact lowerChar_of_passes (List.all_eq_true.1 (hpasses n h)) le_rfl le_rfl (by simp)

/-- What a character becomes stays as it is. -/
theorem lowerChar_lowerChar (c : Char) : ∀ e ∈ lowerChar c, lowerChar e = [e] := by
  by_cases hascii : c.toNat < 128
  · have hsmall : ∀ n < 128, lowerChar (Char.ofNat n).toLower = [(Char.ofNat n).toLower] := by
      decide +kernel
    have hc : lowerChar c = [c.toLower] := by rw [lowerChar, if_pos hascii]
    rw [hc, List.forall_mem_singleton]
    simpa using hsmall c.toNat hascii
  · cases hexpanded : lowerExpansions.lookup c.toNat with
    | some ns =>
      have hmem := lookup_mem hexpanded
      simp only [lowerExpansions, List.mem_singleton, Prod.mk.injEq] at hmem
      have hc : lowerChar c = ns.map Char.ofNat := by rw [lowerChar, if_neg hascii, hexpanded]
      rw [hc, hmem.2, List.forall_mem_map]
      intro n hn
      exact lowerChar_of_mem (by simp at hn ⊢; omega)
    | none =>
      have hc : lowerChar c = [Char.ofNat (shiftCase lowerRuns c.toNat)] := by
        rw [lowerChar, if_neg hascii, hexpanded]
      rw [hc, List.forall_mem_singleton]
      exact lowerChar_shiftCase hexpanded hascii

theorem lowerChar_smallAt (before cs : List Char) (c : Char) :
    ∀ e ∈ smallAt before c cs, lowerChar e = [e] := by
  unfold smallAt
  split
  · split <;> rw [List.forall_mem_singleton] <;> exact lowerChar_of_mem (by simp)
  · exact lowerChar_lowerChar c

theorem lowerChar_lowerFrom (before cs : List Char) :
    ∀ e ∈ lowerFrom before cs, lowerChar e = [e] := by
  induction cs generalizing before with
  | nil => simp [lowerFrom]
  | cons c cs ih =>
    intro e he
    rw [lowerFrom_cons, List.mem_append] at he
    rcases he with he | he
    · exact lowerChar_smallAt before cs c e he
    · exact ih (c :: before) e he

theorem lowerFrom_eq_self (before : List Char) {cs : List Char}
    (h : ∀ c ∈ cs, lowerChar c = [c]) : lowerFrom before cs = cs := by
  induction cs generalizing before with
  | nil => rfl
  | cons c cs ih =>
    rw [List.forall_mem_cons] at h
    have hsigma : c.toNat ≠ 0x3A3 := by
      intro heq
      have hsmall := h.1
      rw [← Char.ofNat_toNat c, heq] at hsmall
      exact absurd hsmall (by decide)
    rw [lowerFrom_cons, ih _ h.2, smallAt, if_neg (by simpa using hsigma),
      h.1, List.singleton_append]

/-- Small letters stay as they are. -/
theorem lower_lower (s : String) : lower (lower s) = lower s := by
  rw [lower, lowerFrom_eq_self [], String.ofList_toList]
  rw [lower, String.toList_ofList]
  exact lowerChar_lowerFrom [] s.toList

end SqlBuilder.Text
