import SqlBuilder.Proofs.Text.Signs

/-!
# Quoted names read back

What a name looks like once it is written with quoted identifiers is a small grammar: identifiers
between quotes, in which the quote occurs only doubled, and stars with white space around them
(`Operand`), with dots and ` AS ` between them (`Compound`). Each text of the grammar is given
together with the name it stands for. `wrap_readBack`: every name is written as a text of the
grammar that stands for this name and for no other, so nothing in a name ends its identifier early.

That no text stands for two names is seen by reading it character by character (`read`): whether an
identifier is open, and whether its last character was a quote, is all that is carried along.
-/

set_option autoImplicit false

namespace SqlBuilder

open Text

namespace NameGrammar

/-! ## The grammar -/

/-- A text in which the quote occurs only doubled, and what it stands for. -/
inductive Doubled (q : Char) : List Char → List Char → Prop where
  | nil : Doubled q [] []
  | char {c : Char} {cs ds : List Char} (hc : c ≠ q) (h : Doubled q cs ds) :
      Doubled q (c :: cs) (c :: ds)
  | quote {cs ds : List Char} (h : Doubled q cs ds) : Doubled q (q :: q :: cs) (q :: ds)

/-- A complete quoted identifier, or a star that is written as it is. -/
inductive Operand (q : Char) : List Char → List Char → Prop where
  | identifier {cs ds : List Char} (h : Doubled q cs ds) : Operand q (q :: cs ++ [q]) ds
  | star {lead trail : List Char} (hlead : ∀ c ∈ lead, isBlank c = true)
      (htrail : ∀ c ∈ trail, isBlank c = true) :
      Operand q (lead ++ '*' :: trail) (lead ++ '*' :: trail)

/-- Operands with separators between them; the separator of an alias is written in capitals. -/
inductive Compound (q : Char) : List Char → List Char → Prop where
  | operand {cs ds : List Char} (h : Operand q cs ds) : Compound q cs ds
  | dot {cs ds cs' ds' : List Char} (h : Compound q cs ds) (h' : Compound q cs' ds') :
      Compound q (cs ++ '.' :: cs') (ds ++ '.' :: ds')
  | renamed {cs ds cs' ds' : List Char} (h : Compound q cs ds) (h' : Compound q cs' ds') :
      Compound q (cs ++ ' ' :: 'A' :: 'S' :: ' ' :: cs') (ds ++ ' ' :: 'a' :: 's' :: ' ' :: ds')

/-! ## Writing -/

theorem doubled_doubled (q : Char) (cs : List Char) : Doubled q (doubled q cs) cs := by
  induction cs with
  | nil => exact .nil
  | cons c cs ih =>
    rw [doubled_cons]
    split
    · rename_i hc
      subst hc
      exact .quote ih
    · rename_i hc
      exact .char hc ih

theorem operand_star (q : Char) {cs : List Char} (h : stripChars cs = ['*']) :
    Operand q cs cs := by
  obtain ⟨lead, trail, hcs, hlead, htrail, -⟩ := trimBy_spec isBlank cs
  have hstar : trimBy isBlank cs = ['*'] := h
  rw [hstar, List.append_assoc, List.singleton_append] at hcs
  rw [hcs]
  exact .star hlead htrail

theorem compound_writeParts (d : Dialect) (dotted : Bool) (cs : List Char) :
    Compound d.identifierQuote
      ((partsFrom dotted cs).flatMap (Adapter.mk d true).writePart) cs := by
  induction dotted, cs using partsFrom.induct with
  | case1 cs front rest hcut ihf ihr =>
    rw [partsFrom_dotted hcut, List.flatMap_append, List.flatMap_cons, cut_eq_some hcut,
      List.append_assoc]
    exact .dot ihf ihr
  | case2 cs hcut ih =>
    rw [partsFrom_undotted hcut]
    exact ih
  | case3 dotted cs hdotted front rest hcut ihf ihr =>
    rw [eq_false_of_ne_true hdotted, partsFrom_as hcut, List.flatMap_append, List.flatMap_cons,
      cut_eq_some hcut, List.append_assoc]
    exact .renamed ihf ihr
  | case4 dotted cs hdotted hcut =>
    rw [eq_false_of_ne_true hdotted, partsFrom_plain hcut, List.flatMap_singleton]
    split
    · rename_i hstar
      exact .operand (operand_star _ hstar)
    · exact .operand (.identifier (doubled_doubled _ cs))

/-! ## Reading -/

/-- Where a reader stands: outside of identifiers, inside of one, or behind a quote inside of one,
which may have closed it. -/
inductive Place where
  | outside
  | inside
  | behindQuote

/-- The character of a separator as it stands in the name. -/
def small (c : Char) : Char := if c = 'A' then 'a' else if c = 'S' then 's' else c

/-- A character: what it stands for, and where it leads. -/
def step (q : Char) : Place → Char → List Char × Place
  | .outside, c => if c = q then ([], .inside) else ([small c], .outside)
  | .inside, c => if c = q then ([], .behindQuote) else ([c], .inside)
  | .behindQuote, c => if c = q then ([q], .inside) else ([small c], .outside)

/-- A text: what it stands for, and where it leads. -/
def read (q : Char) (place : Place) : List Char → List Char × Place
  | [] => ([], place)
  | c :: cs =>
    let (front, next) := step q place c
    let (rest, last) := read q next cs
    (front ++ rest, last)

section Reading

variable {q : Char} {place next last : Place} {cs ds cs' ds' : List Char}

theorem read_cons {c : Char} (h : step q place c = (ds, next))
    (h' : read q next cs' = (ds', last)) :
    read q place (c :: cs') = (ds ++ ds', last) := by
  rw [read, h]
  dsimp only
  rw [h']

theorem read_append (h : read q place cs = (ds, next)) (h' : read q next cs' = (ds', last)) :
    read q place (cs ++ cs') = (ds ++ ds', last) := by
  induction cs generalizing place ds with
  | nil =>
    cases h
    exact h'
  | cons c cs ih =>
    cases h
    rw [List.cons_append, List.append_assoc]
    exact read_cons rfl (ih rfl)

theorem read_doubled (h : Doubled q cs ds) : read q .inside cs = (ds, .inside) := by
  induction h with
  | nil => rfl
  | @char c _ _ hc _ ih =>
    have hchar : step q .inside c = ([c], .inside) := by rw [step, if_neg hc]
    exact read_cons hchar ih
  | quote _ ih =>
    have hfirst : step q .inside q = ([], .behindQuote) := by rw [step, if_pos rfl]
    have hsecond : step q .behindQuote q = ([q], .inside) := by rw [step, if_pos rfl]
    exact read_cons hfirst (read_cons hsecond ih)

/-- A quote that is not white space and neither a star nor part of a separator. -/
structure IsQuote (q : Char) : Prop where
  visible : isBlank q = false
  separate : q ∉ ['*', '.', 'A', 'S']

/-- Outside of identifiers, and where one is closed, the rest of a name is read as it is written,
but for the capitals of its separators. -/
theorem step_outside {c d : Char} (hq : IsQuote q) (hplace : place ≠ .inside)
    (hc : isBlank c = true ∨ c ∈ ['*', '.', 'A', 'S']) (hsmall : small c = d) :
    step q place c = ([d], .outside) := by
  have hne : c ≠ q := by
    rintro rfl
    rcases hc with hc | hc
    · simp [hq.visible] at hc
    · exact hq.separate hc
  cases place with
  | inside => exact absurd rfl hplace
  | outside => rw [step, if_neg hne, hsmall]
  | behindQuote => rw [step, if_neg hne, hsmall]

theorem step_blank {c : Char} (hq : IsQuote q) (hc : isBlank c = true) :
    step q .outside c = ([c], .outside) := by
  have hout : Place.outside ≠ .inside := nofun
  have hA : c ≠ 'A' := fun heq => absurd hc (by rw [heq]; decide)
  have hS : c ≠ 'S' := fun heq => absurd hc (by rw [heq]; decide)
  exact step_outside hq hout (.inl hc) (by rw [small, if_neg hA, if_neg hS])

theorem read_blank (hq : IsQuote q) (h : ∀ c ∈ cs, isBlank c = true) :
    read q .outside cs = (cs, .outside) := by
  induction cs with
  | nil => rfl
  | cons c cs ih =>
    obtain ⟨hc, hcs⟩ := List.forall_mem_cons.1 h
    exact read_cons (step_blank hq hc) (ih hcs)

theorem read_operand (hq : IsQuote q) (h : Operand q cs ds) :
    ∃ last, last ≠ .inside ∧ read q .outside cs = (ds, last) := by
  cases h with
  | @identifier cs _ h =>
    refine ⟨.behindQuote, nofun, ?_⟩
    have hopen : step q .outside q = ([], .inside) := by rw [step, if_pos rfl]
    have hclose : step q .inside q = ([], .behindQuote) := by rw [step, if_pos rfl]
    have hread : read q .outside (q :: (cs ++ [q])) = ([] ++ (ds ++ ([] ++ [])), .behindQuote) :=
      read_cons hopen (read_append (read_doubled h) (read_cons hclose rfl))
    rwa [List.nil_append, List.append_nil, List.append_nil] at hread
  | star hlead htrail =>
    have hout : Place.outside ≠ .inside := nofun
    have hstar : step q .outside '*' = (['*'], .outside) :=
      step_outside hq hout (.inr (by simp)) (by decide)
    exact ⟨.outside, hout, read_append (read_blank hq hlead)
      (read_cons hstar (read_blank hq htrail))⟩

/-- Behind a compound no identifier is open. -/
theorem read_compound (hq : IsQuote q) (h : Compound q cs ds) :
    ∃ last, last ≠ .inside ∧ read q .outside cs = (ds, last) := by
  induction h with
  | operand h => exact read_operand hq h
  | dot _ _ ih ih' =>
    obtain ⟨next, hnext, hfront⟩ := ih
    obtain ⟨last, hlast, hrest⟩ := ih'
    have hdot : step q next '.' = (['.'], .outside) :=
      step_outside hq hnext (.inr (by simp)) (by decide)
    exact ⟨last, hlast, read_append hfront (read_cons hdot hrest)⟩
  | renamed _ _ ih ih' =>
    obtain ⟨next, hnext, hfront⟩ := ih
    obtain ⟨last, hlast, hrest⟩ := ih'
    have hout : Place.outside ≠ .inside := nofun
    have hfirst : step q next ' ' = ([' '], .outside) :=
      step_outside hq hnext (.inl (by decide)) (by decide)
    have hA : step q .outside 'A' = (['a'], .outside) :=
      step_outside hq hout (.inr (by simp)) (by decide)
    have hS : step q .outside 'S' = (['s'], .outside) :=
      step_outside hq hout (.inr (by simp)) (by decide)
    have hlater : step q .outside ' ' = ([' '], .outside) := step_blank hq (by decide)
    exact ⟨last, hlast, read_append hfront (read_cons hfirst (read_cons hA
      (read_cons hS (read_cons hlater hrest))))⟩

/-- A text stands for one name. -/
theorem Compound.unique (hq : IsQuote q) (h : Compound q cs ds) (h' : Compound q cs ds') :
    ds = ds' := by
  obtain ⟨last, -, hread⟩ := read_compound hq h
  obtain ⟨last', -, hread'⟩ := read_compound hq h'
  rw [hread] at hread'
  exact congrArg Prod.fst hread'

end Reading

theorem isQuote_identifierQuote (d : Dialect) : IsQuote d.identifierQuote := by
  cases d <;> exact ⟨by decide, by decide⟩

end NameGrammar

open NameGrammar in
/-- A name with quoted identifiers is a compound of complete identifiers, stars and separators, and
stands for itself and for no other name. -/
theorem wrap_readBack (d : Dialect) (s t : String) :
    Compound d.identifierQuote ((Adapter.mk d true).wrap (.text s)).toList t.toList ↔ t = s := by
  have hwritten : ((Adapter.mk d true).wrap (.text s)).toList =
      (partsFrom true s.toList).flatMap (Adapter.mk d true).writePart := String.toList_ofList
  have hself := compound_writeParts d true s.toList
  rw [hwritten]
  constructor
  · intro h
    exact String.toList_injective (h.unique (isQuote_identifierQuote d) hself)
  · rintro rfl
    exact hself

end SqlBuilder
