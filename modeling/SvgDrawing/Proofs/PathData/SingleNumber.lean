import SvgDrawing.Proofs.PathData.Decomposition

/-!
# Texts of one number

Where one number is required the whole text has to be one, blanks around it aside.  The longest
number that the text begins with is taken, and nothing may be left.  No shorter one has to be tried:
if the whole text is a number, then that is the longest.

A list of numbers skips commas as well as blanks.  So a text is read as a list of one with nothing
left, and has no comma in it, exactly if it is one number with blanks around it.

There are two ways to have no value.  A text that is no number is told as it was given, and a number
that no double can hold is told without the blanks around it.

## Main definitions

* `IsTooLarge s` — a text that is one number, which no double can hold.
* `Unreadable t e` — why a text has no value, and the error that tells of it.

## Main statements

* `Literal.readAll_eq_singleton_iff` — the texts that are read as a list of one number.
* `parseNumber_eq_error_iff` — the texts without a value.
* `parseNumber_agrees_with_numbers` — a single number and a list of one.
-/
namespace SvgDrawing.PathData

open Text

/-! ## Lists of one number -/

namespace Literal

variable {s : List Char} {l : Literal}

/-- A text without commas is read as one literal and nothing else exactly if that is what stands
between the blanks. -/
theorem readAll_eq_singleton_iff :
    ',' ∉ s ∧ readAll s = ([l], []) ↔ l.WellFormed ∧ l.text = strip s := by
  constructor
  · rintro ⟨hcomma, hread⟩
    obtain ⟨lead, items, hcut, hitems⟩ := exists_decomposes s
    rw [hread] at hcut hitems
    obtain ⟨i, rfl, rfl⟩ := List.map_eq_singleton_iff.mp hitems
    obtain ⟨htext, hlead, hi, -⟩ := Decomposes.cons_iff.mp hcut
    rw [List.flatMap_nil, List.nil_append, List.append_nil, Spaced.text] at htext
    subst htext
    -- the separators around the literal are blanks, since there is no comma
    have hblank : ∀ c ∈ lead ++ (i.literal.text ++ i.gap), isSeparator c → isBlank c := by
      intro c hc hseparator
      rw [isSeparator, Bool.or_eq_true, beq_iff_eq] at hseparator
      exact hseparator.resolve_left (ne_of_mem_of_not_mem hc hcomma)
    refine ⟨hi.wellFormed, ?_⟩
    rw [← List.append_assoc, strip_append_append]
    · exact fun c hc => not_isBlank_of_isNumeric (hi.wellFormed.isNumeric c hc)
    · exact fun c hc => hblank c (by simp [hc]) (hlead.separator c hc)
    · exact fun c hc => hblank c (by simp [hc]) (hi.gap.separator c hc)
  · rintro ⟨hl, htext⟩
    obtain ⟨front, back, hfront, hback, hs⟩ := exists_append_strip s
    rw [← htext] at hs
    -- a comma would be a blank or a part of the literal
    have hcomma : ',' ∉ s := by
      rw [hs, List.mem_append, List.mem_append]
      rintro ((hc | hc) | hc)
      · exact absurd (hfront _ hc) (by decide)
      · exact hl.comma_not_mem hc
      · exact absurd (hback _ hc) (by decide)
    have hrow : IsRow front [⟨l, back⟩] := by
      refine ⟨fun c hc => isSeparator_of_isBlank (hfront c hc), ?_, ?_⟩
      · exact List.forall_mem_singleton.mpr hl
      · exact List.forall_mem_singleton.mpr fun c hc => isSeparator_of_isBlank (hback c hc)
    have hread := (readAll_row_iff hrow).mpr (.singleton _)
    rw [List.flatMap_singleton, Spaced.text, ← List.append_assoc, ← hs] at hread
    exact ⟨hcomma, hread⟩

end Literal

variable {s : List Char} {x : Double}

/-- One value is read if there is one literal and a double can hold it. -/
theorem numbers_eq_singleton_iff :
    numbers s none = ([x], none) ↔
      ∃ l, (Literal.readAll s).1 = [l] ∧ l.value.isFinite ∧ x = l.value := by
  simp only [numbers]
  generalize (Literal.readAll s).1 = literals
  constructor
  · intro h
    cases hlarge : Literal.tooLarge? literals with
    | none =>
      rw [Literal.values_of_none_tooLarge hlarge, Prod.mk.injEq] at h
      obtain ⟨l, rfl, hx⟩ := List.map_eq_singleton_iff.mp h.1
      exact ⟨l, rfl, Literal.tooLarge?_eq_none_iff.mp hlarge l List.mem_cons_self, hx.symm⟩
    | some l =>
      have herror := Literal.values_of_tooLarge hlarge
      rw [h] at herror
      cases herror
  · rintro ⟨l, rfl, hfinite, rfl⟩
    have hlarge : Literal.tooLarge? [l] = none :=
      Literal.tooLarge?_eq_none_iff.mpr (List.forall_mem_singleton.mpr hfinite)
    exact Literal.values_of_none_tooLarge hlarge

/-- A text without a comma and without blanks at its ends is one number exactly if it is read as a
list of one with nothing left. -/
theorem denotes_strip_iff :
    Denotes (strip s) x ↔
      ',' ∉ strip s ∧ numbers (strip s) none = ([x], none) ∧
        (Literal.readAll (strip s)).2 = [] := by
  rw [numbers_eq_singleton_iff]
  constructor
  · rintro ⟨l, hl, htext, hfinite, rfl⟩
    obtain ⟨hcomma, hread⟩ :=
      Literal.readAll_eq_singleton_iff.mpr ⟨hl, htext.trans (strip_strip s).symm⟩
    rw [hread]
    exact ⟨hcomma, ⟨l, rfl, hfinite, rfl⟩, rfl⟩
  · rintro ⟨hcomma, ⟨l, hone, hfinite, rfl⟩, hrest⟩
    obtain ⟨hl, htext⟩ := Literal.readAll_eq_singleton_iff.mp ⟨hcomma, Prod.ext hone hrest⟩
    exact ⟨l, hl, htext.trans (strip_strip s), hfinite, rfl⟩

/-! ## Texts without a value -/

/-- A text that is one number, which no double can hold. -/
def IsTooLarge (s : List Char) : Prop :=
  ∃ l : Literal, l.WellFormed ∧ l.text = s ∧ ¬ l.value.isFinite

/-- Why a text has no value, and the error that tells of it. -/
inductive Unreadable (t : String) : ConversionError → Prop
  /-- What stands between the blanks is no number; the text is told as it was given. -/
  | noNumber (h : strip t.toList ∉ Grammar.number) : Unreadable t (.malformedNumber t)
  /-- It is a number that is too large; only that is told. -/
  | tooLarge (h : IsTooLarge (strip t.toList)) : Unreadable t (.malformedNumber (stripped t))

section

variable {t : String} {e : ConversionError}

/-- A text that is no number is read as none: if nothing were left after the longest number that it
begins with, all of it would be one. -/
theorem parseNumber_of_not_mem (h : strip t.toList ∉ Grammar.number) :
    parseNumber t = .error (.malformedNumber t) := by
  rw [parseNumber]
  split
  · next l hread =>
    obtain ⟨hl, -, htext⟩ := Literal.read?_eq_some_iff.mp hread
    rw [List.append_nil] at htext
    exact absurd (Grammar.mem_number_iff.mpr ⟨l, hl, htext⟩) h
  · rfl

/-- A text that is a number is read to its end. -/
theorem parseNumber_of_text {l : Literal} (hl : l.WellFormed) (htext : l.text = strip t.toList) :
    parseNumber t = l.finiteValue := by
  rw [parseNumber, ← htext, Literal.read?_text hl]

theorem parseNumber_of_isTooLarge (h : IsTooLarge (strip t.toList)) :
    parseNumber t = .error (.malformedNumber (stripped t)) := by
  obtain ⟨l, hl, htext, hlarge⟩ := h
  rw [parseNumber_of_text hl htext, Literal.finiteValue, if_neg hlarge, htext]
  rfl

/-- A text without a value is no number or one that is too large, and each has its own error. -/
theorem parseNumber_eq_error_iff : parseNumber t = .error e ↔ Unreadable t e := by
  constructor
  · intro h
    by_cases hnumber : strip t.toList ∈ Grammar.number
    · obtain ⟨l, hl, htext⟩ := Grammar.mem_number_iff.mp hnumber
      by_cases hfinite : l.value.isFinite
      · rw [parseNumber_of_text hl htext, Literal.finiteValue, if_pos hfinite] at h
        cases h
      · have hlarge : IsTooLarge (strip t.toList) := ⟨l, hl, htext, hfinite⟩
        rw [parseNumber_of_isTooLarge hlarge] at h
        cases h
        exact .tooLarge hlarge
    · rw [parseNumber_of_not_mem hnumber] at h
      cases h
      exact .noNumber hnumber
  · intro h
    cases h with
    | noNumber hnumber => exact parseNumber_of_not_mem hnumber
    | tooLarge hlarge => exact parseNumber_of_isTooLarge hlarge

/-- The text that an error tells. -/
theorem parseNumber_eq_malformedNumber_iff {told : String} :
    parseNumber t = .error (.malformedNumber told) ↔
      strip t.toList ∉ Grammar.number ∧ told = t ∨
        IsTooLarge (strip t.toList) ∧ told = stripped t := by
  rw [parseNumber_eq_error_iff]
  constructor
  · generalize he : ConversionError.malformedNumber told = e
    intro h
    cases h with
    | noNumber hnumber => exact .inl ⟨hnumber, ConversionError.malformedNumber.inj he⟩
    | tooLarge hlarge => exact .inr ⟨hlarge, ConversionError.malformedNumber.inj he⟩
  · rintro (⟨hnumber, rfl⟩ | ⟨hlarge, rfl⟩)
    · exact .noNumber hnumber
    · exact .tooLarge hlarge

end

/-! ## Blanks around a text -/

section

variable {t given : String}

theorem strip_eq_of_stripped_eq (h : stripped given = stripped t) :
    strip given.toList = strip t.toList := String.ofList_injective h

/-- Every text is what is left of a longer one. -/
theorem exists_stripped_eq (t : String) :
    ∃ given, stripped given = stripped t ∧ given ≠ stripped t := by
  have hsame : strip (' ' :: t.toList) = strip t.toList := strip_cons_of_isBlank (by decide) _
  refine ⟨String.ofList (' ' :: t.toList), ?_, ?_⟩
  · rw [stripped, String.toList_ofList, hsame, stripped]
  · intro h
    have hlength := congrArg List.length (String.ofList_injective h)
    have hle := length_strip_le t.toList
    simp only [List.length_cons] at hlength
    omega

/-- The text is told as it was given, whatever blanks are around it, if it is no number. -/
theorem tells_given_iff :
    (∀ given, stripped given = stripped t →
        parseNumber given = .error (.malformedNumber given)) ↔
      strip t.toList ∉ Grammar.number := by
  constructor
  · intro h
    -- one of these texts has blanks, and the error of a large number does not tell them
    obtain ⟨given, hsame, hne⟩ := exists_stripped_eq t
    rcases parseNumber_eq_malformedNumber_iff.mp (h given hsame) with ⟨hnumber, -⟩ | ⟨-, htold⟩
    · rwa [strip_eq_of_stripped_eq hsame] at hnumber
    · exact absurd (htold.trans hsame) hne
  · intro hnumber given hsame
    rw [← strip_eq_of_stripped_eq hsame] at hnumber
    exact parseNumber_of_not_mem hnumber

/-- Only the number is told, whatever blanks are around it, if it is too large. -/
theorem tells_stripped_iff :
    (∀ given, stripped given = stripped t →
        parseNumber given = .error (.malformedNumber (stripped t))) ↔
      IsTooLarge (strip t.toList) := by
  constructor
  · intro h
    obtain ⟨given, hsame, hne⟩ := exists_stripped_eq t
    rcases parseNumber_eq_malformedNumber_iff.mp (h given hsame) with ⟨-, htold⟩ | ⟨hlarge, -⟩
    · exact absurd htold.symm hne
    · rwa [strip_eq_of_stripped_eq hsame] at hlarge
  · intro hlarge given hsame
    rw [← strip_eq_of_stripped_eq hsame] at hlarge
    rw [← hsame]
    exact parseNumber_of_isTooLarge hlarge

end

/-- A text has a value exactly if, without the blanks at its ends, it has no comma and is read as a
list of this one value with nothing left.  Else it is told as it was given if what stands between
the blanks is no number, and without the blanks if that is a number too large for a double.  Where
there are no blanks both tell the same text, so which of them is told is said about all texts that
have the same between their blanks. -/
theorem parseNumber_agrees_with_numbers (t : String) :
    (∀ x, parseNumber t = .ok x ↔
      ',' ∉ strip t.toList ∧ numbers (strip t.toList) none = ([x], none) ∧
        (Literal.readAll (strip t.toList)).2 = []) ∧
    (∀ e, parseNumber t = .error e ↔ Unreadable t e) ∧
    ((∀ given, stripped given = stripped t →
        parseNumber given = .error (.malformedNumber given)) ↔
      strip t.toList ∉ Grammar.number) ∧
    ((∀ given, stripped given = stripped t →
        parseNumber given = .error (.malformedNumber (stripped t))) ↔
      IsTooLarge (strip t.toList)) := by
  refine ⟨fun x => ?_, fun e => parseNumber_eq_error_iff, tells_given_iff, tells_stripped_iff⟩
  rw [parseNumber_eq_ok_iff, denotes_strip_iff]

/-- Blanks of any kind are stripped, but none may stand in a number, and no comma after it. -/
example : parseNumber "\u30001e999\n" = .error (.malformedNumber "1e999") ∧
    parseNumber " 1 e9" = .error (.malformedNumber " 1 e9") ∧
    parseNumber "1, " = .error (.malformedNumber "1, ") := by decide +kernel

end SvgDrawing.PathData
