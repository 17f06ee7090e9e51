import Mathlib.Data.List.Chain
import SvgDrawing.Proofs.PathData.Calls
import SvgDrawing.Proofs.PathData.LiteralText

/-!
# Literals in a row

A text of literals with separators between them is read as these literals.  No separator is needed
where a literal could not go on with what the next one begins with: a sign, or a point after a
literal that has a point or an exponent already.  Anywhere else two literals that touch are read as
something else, so the condition on neighbours is exact.

A text that was read to its end stays so when more is written after a separator, and what comes
after the separator is read as if it stood alone.

## Main definitions

* `Spaced` — a literal and the separators after it; `IsRow` — such literals one after the other.
* `Literal.CanTouch l next` — no separator is needed between two literals.

## Main statements

* `Literal.readAll_append` — a text that is continued after a separator.
* `Literal.readAll_row_iff` — when the literals of a row are read.
* `numbers_row` — their values.
-/
namespace SvgDrawing.PathData

open Text

/-! ## Separators -/

/-- Blanks are no digits of any script. -/
theorem not_isDigit_of_isBlank {c : Char} (h : isBlank c) : ¬ isDigit c := by
  have hnone : ∀ n ∈ List.range' 0x09 5 ++ List.range' 0x1C 5 ++ [0x85, 0xA0, 0x1680] ++
      List.range' 0x2000 11 ++ [0x2028, 0x2029, 0x202F, 0x205F, 0x3000],
      ¬ isDigit (Char.ofNat n) := by decide
  rw [← Char.ofNat_toNat c]
  refine hnone c.toNat ?_
  simp only [isBlank, Bool.or_eq_true, Bool.and_eq_true, decide_eq_true_eq, beq_iff_eq] at h
  simp only [List.mem_append, List.mem_range'_1, List.mem_cons, List.not_mem_nil, or_false]
  omega

theorem StartsWith.not_of_forall {P Q : Char → Prop} {s : List Char} (h : StartsWith P s)
    (hPQ : ∀ c, P c → ¬ Q c) : ¬ StartsWith Q s := by
  cases s with
  | nil => exact id
  | cons c rest => exact hPQ c h

/-- The marks of exponents. -/
def IsMark (c : Char) : Prop := c = 'e' ∨ c = 'E'

/-- The characters of numbers. -/
def IsNumeric (c : Char) : Prop := isDigit c ∨ IsSign c ∨ IsMark c ∨ c = '.'

namespace Literal

theorem isSeparator_of_isBlank {c : Char} (h : isBlank c) : isSeparator c := by
  rw [isSeparator, h, Bool.or_true]

/-- Separators are no part of a number. -/
theorem not_isNumeric_of_isSeparator {c : Char} (h : isSeparator c) : ¬ IsNumeric c := by
  rintro (hdigit | (rfl | rfl) | (rfl | rfl) | rfl)
  · rw [isSeparator, Bool.or_eq_true, beq_iff_eq] at h
    rcases h with rfl | h
    · exact absurd hdigit (by decide)
    · exact not_isDigit_of_isBlank h hdigit
  all_goals exact absurd h (by decide)

/-- A literal is made of the characters of numbers. -/
theorem WellFormed.isNumeric {l : Literal} (h : l.WellFormed) : ∀ c ∈ l.text, IsNumeric c := by
  intro c hc
  simp only [text, List.mem_append, Option.mem_toList] at hc
  rcases hc with ((hc | hc) | hc) | hc
  · exact .inr (.inl (h.sign c hc))
  · exact .inl (h.whole c hc)
  · cases hfraction : l.fraction with
    | none => simp [hfraction] at hc
    | some digits =>
      simp only [hfraction, Option.map_some, Option.getD_some, List.mem_cons] at hc
      rcases hc with hc | hc
      · exact .inr (.inr (.inr hc))
      · exact .inl (h.fraction digits hfraction c hc)
  · cases hexponent : l.exponent with
    | none => simp [hexponent] at hc
    | some e =>
      have he := h.exponent e hexponent
      simp only [hexponent, Option.map_some, Option.getD_some, Exponent.text, List.cons_append,
        List.mem_cons, List.mem_append, Option.mem_toList] at hc
      rcases hc with rfl | hc | hc
      · exact .inr (.inr (.inl he.mark))
      · exact .inr (.inl (he.sign c hc))
      · exact .inl (he.digits c hc)

/-- There is no comma in a number. -/
theorem WellFormed.comma_not_mem {l : Literal} (h : l.WellFormed) : ',' ∉ l.text := fun hmem =>
  not_isNumeric_of_isSeparator (by decide) (h.isNumeric ',' hmem)

end Literal

theorem not_isBlank_of_isNumeric {c : Char} (h : IsNumeric c) : ¬ isBlank c := fun hblank =>
  Literal.not_isNumeric_of_isSeparator (Literal.isSeparator_of_isBlank hblank) h

namespace Denotes

variable {s : List Char} {x : Double}

theorem isNumeric (h : Denotes s x) : ∀ c ∈ s, IsNumeric c := by
  obtain ⟨l, hl, rfl, -, -⟩ := h
  exact hl.isNumeric

theorem not_isBlank (h : Denotes s x) : ∀ c ∈ s, ¬ isBlank c := fun c hc =>
  not_isBlank_of_isNumeric (h.isNumeric c hc)

theorem comma_not_mem (h : Denotes s x) : ',' ∉ s := by
  obtain ⟨l, hl, rfl, -, -⟩ := h
  exact hl.comma_not_mem

/-- There are no blanks in a number, so there is nothing to strip. -/
theorem parseNumber_eq (h : Denotes s x) : parseNumber (String.ofList s) = .ok x := by
  refine parseNumber_eq_ok_iff.mpr ?_
  rwa [String.toList_ofList, strip_of_forall h.not_isBlank]

end Denotes

namespace Literal

/-! ## What does not continue a literal -/

section Closes

variable {l : Literal} {rest s : List Char}

theorem readExponent_cons_eq_none_iff {c : Char} :
    readExponent (c :: rest) = (none, c :: rest) ↔
      (IsMark c → ¬ StartsWith (isDigit ·) (readSign rest).2) := by
  have hdigits := isEmpty_readDigits_iff (readSign rest).2
  simp only [readExponent, IsMark]
  by_cases hmark : c = 'e' ∨ c = 'E'
  · rw [if_pos hmark, ← hdigits]
    split
    · next h => simp [hmark, h]
    · next h => simp [hmark, h]
  · simp [hmark]

theorem closes_of_not_startsWith (hdigit : ¬ StartsWith (isDigit ·) rest)
    (hmark : ¬ StartsWith IsMark rest)
    (hpoint : l.fraction = none → l.exponent = none → ¬ StartsWith (· = '.') rest) :
    l.Closes rest := by
  refine ⟨hdigit, hpoint, fun _ => ?_⟩
  cases rest with
  | nil => rfl
  | cons c rest => exact readExponent_cons_eq_none_iff.mpr fun hc => absurd hc hmark

theorem closes_of_startsWith_isSeparator (h : StartsWith (isSeparator ·) rest) :
    l.Closes rest := by
  have hnone {P : Char → Prop} (hP : ∀ c, P c → IsNumeric c) : ¬ StartsWith P rest :=
    h.not_of_forall fun c hc hPc => not_isNumeric_of_isSeparator hc (hP c hPc)
  refine closes_of_not_startsWith (hnone ?_) (hnone ?_) fun _ _ => hnone ?_
  · exact fun _ => .inl
  · exact fun _ hc => .inr (.inr (.inl hc))
  · exact fun _ hc => .inr (.inr (.inr hc))

/-- A separator does not change what continues a literal in front of it. -/
theorem Closes.append (h : l.Closes rest) (hs : StartsWith (isSeparator ·) s) :
    l.Closes (rest ++ s) := by
  have hclosed : l.Closes s := closes_of_startsWith_isSeparator hs
  refine ⟨not_startsWith_append h.digit hclosed.digit, ?_, ?_⟩
  · intro hfraction hexponent
    exact not_startsWith_append (h.point hfraction hexponent) (hclosed.point hfraction hexponent)
  · intro hexponent
    cases rest with
    | nil => exact hclosed.exponent hexponent
    | cons c rest =>
      have hrest := readExponent_cons_eq_none_iff.mp (h.exponent hexponent)
      rw [List.cons_append]
      refine readExponent_cons_eq_none_iff.mpr fun hmark => ?_
      -- the digits of an exponent would have to be in front of the separator
      have hunsigned : (readSign (rest ++ s)).2 = (readSign rest).2 ++ s := by
        by_cases hrest : rest = []
        · subst hrest
          cases s with
          | nil => rfl
          | cons d after =>
            have hsign : ¬ IsSign d := fun hd => not_isNumeric_of_isSeparator hs (.inr (.inl hd))
            exact congrArg Prod.snd (if_neg hsign)
        · rw [readSign_append_of_ne_nil hrest]
      rw [hunsigned]
      exact not_startsWith_append (hrest hmark) hclosed.digit

end Closes

/-! ## Texts that go on after a separator -/

section

variable {s rest gap back : List Char} {l : Literal}

theorem readAll_of_none (h : read? (s.dropWhile isSeparator) = none) :
    readAll s = ([], s.dropWhile isSeparator) := by
  rw [readAll]
  split
  · rfl
  · next h' => rw [h] at h'; cases h'

theorem readAll_of_some (h : read? (s.dropWhile isSeparator) = some (l, rest)) :
    readAll s = (l :: (readAll rest).1, (readAll rest).2) := by
  rw [readAll]
  split
  · next h' => rw [h] at h'; cases h'
  · next h' => rw [h] at h'; cases h'; rfl

/-- Separators in front of a text are skipped. -/
theorem readAll_separators_append (h : ∀ c ∈ gap, isSeparator c) (s : List Char) :
    readAll (gap ++ s) = readAll s := by
  have hdrop : (gap ++ s).dropWhile isSeparator = s.dropWhile isSeparator :=
    List.dropWhile_append_of_pos h
  cases hread : read? (s.dropWhile isSeparator) with
  | none => rw [readAll_of_none (hdrop ▸ hread), readAll_of_none hread, hdrop]
  | some part => rw [readAll_of_some (hdrop ▸ hread), readAll_of_some hread]

/-- A text that is read to its end has no other characters than those of numbers and separators. -/
theorem isSeparator_or_isNumeric (hend : (readAll s).2 = []) :
    ∀ c ∈ s, isSeparator c ∨ IsNumeric c := by
  fun_induction readAll s with
  | case1 s hread => exact fun c hc => .inl (List.dropWhile_eq_nil_iff.mp hend c hc)
  | case2 s l rest hread more last hmore ih =>
    obtain ⟨hl, -, htext⟩ := read?_eq_some_iff.mp hread
    rw [hmore] at ih
    rw [← List.takeWhile_append_dropWhile (p := isSeparator) (l := s), ← htext]
    intro c hc
    rcases List.mem_append.mp hc with hc | hc
    · exact .inl (List.mem_takeWhile_imp hc)
    · rcases List.mem_append.mp hc with hc | hc
      · exact .inr (hl.isNumeric c hc)
      · exact ih hend c hc

/-- A text that is read to its end and goes on after a separator is read as both parts. -/
theorem readAll_append (hend : (readAll s).2 = []) (hback : StartsWith (isSeparator ·) back) :
    readAll (s ++ back) = ((readAll s).1 ++ (readAll back).1, (readAll back).2) := by
  fun_induction readAll s with
  | case1 s hread =>
    rw [readAll_separators_append (List.dropWhile_eq_nil_iff.mp hend)]
    rfl
  | case2 s l rest hread more last hmore ih =>
    obtain ⟨hl, hrest, htext⟩ := read?_eq_some_iff.mp hread
    have hdrop : (s ++ back).dropWhile isSeparator = l.text ++ (rest ++ back) := by
      rw [List.dropWhile_append, ← htext, if_neg, List.append_assoc]
      simp [text_ne_nil_of_read? hread]
    rw [hmore] at ih
    rw [readAll_of_some (hdrop ▸ read?_append hl (hrest.append hback)), ih hend]
    rfl

end

/-! ## Rows -/

/-- Nothing has to stand between a literal and the next one: that begins with a sign, or with a
point where the literal has a point or an exponent. -/
def CanTouch (l next : Literal) : Prop :=
  StartsWith IsSign next.text ∨
    StartsWith (· = '.') next.text ∧ (l.fraction ≠ none ∨ l.exponent ≠ none)

theorem WellFormed.dropWhile_isSeparator {l : Literal} (h : l.WellFormed) (s : List Char) :
    (l.text ++ s).dropWhile isSeparator = l.text ++ s := by
  have hnumeric := h.isNumeric
  cases htext : l.text with
  | nil => exact absurd htext h.text_ne_nil
  | cons c rest =>
    rw [htext] at hnumeric
    have hc : ¬ isSeparator c := fun hc =>
      not_isNumeric_of_isSeparator hc (hnumeric c List.mem_cons_self)
    exact List.dropWhile_cons_of_neg hc

/-- A literal is read where nothing continues it, and then what comes after it. -/
theorem readAll_text_append {l : Literal} {rest : List Char} (h : l.WellFormed)
    (hrest : l.Closes rest) :
    readAll (l.text ++ rest) = (l :: (readAll rest).1, (readAll rest).2) :=
  readAll_of_some ((h.dropWhile_isSeparator rest).symm ▸ read?_append h hrest)

/-- The next literal does not continue a literal exactly if the two can touch. -/
theorem closes_text_append_iff {l next : Literal} (h : next.WellFormed) (s : List Char) :
    l.Closes (next.text ++ s) ↔ l.CanTouch next := by
  constructor
  · intro hclosed
    have hstart := h.startsWith_text
    rw [CanTouch]
    cases htext : next.text with
    | nil => exact absurd htext h.text_ne_nil
    | cons c rest =>
      rw [htext] at hclosed hstart
      rcases hstart with hsign | hdigit | hpoint
      · exact .inl hsign
      · exact absurd hdigit hclosed.digit
      · refine .inr ⟨hpoint, ?_⟩
        by_contra hnone
        rw [not_or, not_not, not_not] at hnone
        exact hclosed.point hnone.1 hnone.2 hpoint
  · rintro (hsign | ⟨hpoint, hpart⟩)
    · have hsign := hsign.append s
      refine closes_of_not_startsWith (hsign.not_of_forall ?_) (hsign.not_of_forall ?_)
        fun _ _ => hsign.not_of_forall ?_
      · exact fun c hc hdigit => not_isSign_of_isDigit hdigit hc
      · rintro c (rfl | rfl) (hmark | hmark) <;> exact absurd hmark (by decide)
      · rintro c (rfl | rfl) <;> decide
    · have hpoint := hpoint.append s
      refine closes_of_not_startsWith (hpoint.not_of_forall ?_) (hpoint.not_of_forall ?_) ?_
      · rintro c rfl
        decide
      · rintro c rfl (hmark | hmark) <;> exact absurd hmark (by decide)
      · intro hfraction hexponent
        exact absurd hpart (by simp [hfraction, hexponent])

end Literal

/-- A literal and the separators after it. -/
structure Spaced where
  literal : Literal
  gap : List Char

/-- The text of a literal with the separators after it. -/
def Spaced.text (i : Spaced) : List Char := i.literal.text ++ i.gap

/-- Literals with separators between them, after some separators in front. -/
structure IsRow (lead : List Char) (items : List Spaced) : Prop where
  lead : ∀ c ∈ lead, Literal.isSeparator c
  literal : ∀ i ∈ items, i.literal.WellFormed
  gap : ∀ i ∈ items, ∀ c ∈ i.gap, Literal.isSeparator c

/-- Where nothing stands between two literals, they can touch. -/
def Spaced.CanPrecede (i next : Spaced) : Prop := i.gap = [] → i.literal.CanTouch next.literal

variable {lead : List Char} {items : List Spaced}

theorem IsRow.tail {i : Spaced} (h : IsRow lead (i :: items)) : IsRow i.gap items where
  lead := h.gap i List.mem_cons_self
  literal := (List.forall_mem_cons.mp h.literal).2
  gap := (List.forall_mem_cons.mp h.gap).2

/-- What follows a literal in a row does not continue it if it can precede the next one. -/
theorem IsRow.closes_iff {l : Literal} (h : IsRow lead items) :
    l.Closes (lead ++ items.flatMap Spaced.text) ↔
      ∀ next ∈ items.head?, Spaced.CanPrecede ⟨l, lead⟩ next := by
  cases lead with
  | cons c rest =>
    have hstart : StartsWith (Literal.isSeparator ·) (c :: rest) := h.lead c List.mem_cons_self
    exact iff_of_true (Literal.closes_of_startsWith_isSeparator (hstart.append _)) nofun
  | nil =>
    cases items with
    | nil => exact iff_of_true l.closes_nil nofun
    | cons next rest =>
      have hnext := h.literal next List.mem_cons_self
      simp only [List.nil_append, List.flatMap_cons, Spaced.text, List.append_assoc,
        Literal.closes_text_append_iff hnext, Spaced.CanPrecede, List.head?_cons,
        Option.mem_some_iff, forall_eq', forall_const]

/-- The literals of a row are read exactly if each can precede the next one. -/
theorem Literal.readAll_row_iff (h : IsRow lead items) :
    readAll (lead ++ items.flatMap Spaced.text) = (items.map Spaced.literal, []) ↔
      items.IsChain Spaced.CanPrecede := by
  induction items generalizing lead with
  | nil =>
    rw [readAll_separators_append h.lead, readAll_of_none rfl]
    exact iff_of_true rfl .nil
  | cons i rest ih =>
    have hi := h.literal i List.mem_cons_self
    have hrest := h.tail.closes_iff (l := i.literal)
    have htext : (i :: rest).flatMap Spaced.text =
        i.literal.text ++ (i.gap ++ rest.flatMap Spaced.text) := by
      rw [List.flatMap_cons, Spaced.text, List.append_assoc]
    rw [readAll_separators_append h.lead, htext, List.isChain_cons, ← ih h.tail, ← hrest]
    generalize i.gap ++ rest.flatMap Spaced.text = after
    have hdrop := hi.dropWhile_isSeparator after
    constructor
    · intro hall
      cases hread : read? (i.literal.text ++ after) with
      | none =>
        rw [readAll_of_none (hdrop.symm ▸ hread)] at hall
        cases hall
      | some part =>
        obtain ⟨l, left⟩ := part
        rw [readAll_of_some (hdrop.symm ▸ hread), List.map_cons, Prod.mk.injEq,
          List.cons.injEq] at hall
        obtain ⟨⟨rfl, hmore⟩, hlast⟩ := hall
        obtain ⟨-, hclosed, htext⟩ := read?_eq_some_iff.mp hread
        rw [List.append_cancel_left htext] at hclosed hmore hlast
        exact ⟨hclosed, Prod.ext hmore hlast⟩
    · rintro ⟨hclosed, hmore⟩
      rw [readAll_text_append hi hclosed, hmore]
      rfl

/-- Literals that a double can hold are read back from a row of them in which each can precede the
next one: what is read are their values, all of them in order, and nothing is too large. -/
theorem numbers_row (h : IsRow lead items) (hneighbours : items.IsChain Spaced.CanPrecede)
    (hfinite : ∀ i ∈ items, i.literal.value.isFinite) :
    numbers (lead ++ items.flatMap Spaced.text) none =
      (items.map fun i => i.literal.value, none) := by
  have hlarge : Literal.tooLarge? (items.map Spaced.literal) = none :=
    Literal.tooLarge?_eq_none_iff.mpr (List.forall_mem_map.mpr hfinite)
  rw [numbers, (Literal.readAll_row_iff h).mpr hneighbours]
  simp only
  rw [Literal.values_of_none_tooLarge hlarge, List.map_map]
  rfl

/-- Five literals of which only one is followed by a separator. -/
theorem numbers_row_touching :
    ∃ items : List Spaced, items.flatMap Spaced.text = "1-2.5.5,1e5.5".toList ∧
      items.length = 5 ∧ IsRow [] items ∧ items.IsChain Spaced.CanPrecede ∧
      (∀ i ∈ items, i.literal.value.isFinite) ∧
      numbers "1-2.5.5,1e5.5".toList none = (items.map fun i => i.literal.value, none) := by
  let items : List Spaced := [
    ⟨⟨none, ['1'], none, none⟩, []⟩,
    ⟨⟨some '-', ['2'], some ['5'], none⟩, []⟩,
    ⟨⟨none, [], some ['5'], none⟩, [',']⟩,
    ⟨⟨none, ['1'], none, some ⟨'e', none, ['5']⟩⟩, []⟩,
    ⟨⟨none, [], some ['5'], none⟩, []⟩]
  have hread : ∀ i ∈ items, Literal.read? i.literal.text = some (i.literal, []) := by decide
  have hgap : ∀ i ∈ items, i.gap.all Literal.isSeparator := by decide
  have hrow : IsRow [] items :=
    ⟨nofun, fun i hi => (Literal.read?_eq_some_iff.mp (hread i hi)).1,
      fun i hi => List.all_eq_true.mp (hgap i hi)⟩
  have hneighbours : items.IsChain Spaced.CanPrecede :=
    .cons_cons (fun _ => .inl (.inr rfl)) <|
    .cons_cons (fun _ => .inr ⟨rfl, .inl nofun⟩) <|
    .cons_cons nofun <|
    .cons_cons (fun _ => .inr ⟨rfl, .inr nofun⟩) (.singleton _)
  have hfinite : ∀ i ∈ items, i.literal.value.isFinite := by decide +kernel
  exact ⟨items, rfl, rfl, hrow, hneighbours, hfinite, numbers_row hrow hneighbours hfinite⟩

end SvgDrawing.PathData
