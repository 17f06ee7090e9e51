import SvgDrawing.PathData.Literal
import SvgDrawing.Proofs.Text.Blank

/-!
# Literals that are read back

A literal whose parts are in order is read from its own text, whatever follows as long as it
does not continue the literal.  Each part is read from its text in the same way, and a part that
is absent is not taken from what follows.  Nothing else is read: what a text begins with is such a
literal, and the rest does not continue it.

## Main definitions

* `Literal.WellFormed l` — the parts consist of what they should.
* `Literal.Closes l rest` — a text that does not continue the literal.
* `Denotes s x` — a text that is one literal, and its value.

## Main statements

* `Literal.read?_append` — the literal is read and the text after it is left.
* `Literal.read?_eq_some_iff` — what is read, and what is left.
* `parseNumber_eq_ok_iff` — the texts that have a value.
-/
namespace SvgDrawing.PathData

open Text

/-! ## First characters -/

/-- The first character of a text, if there is one, satisfies `P`. -/
def StartsWith (P : Char → Prop) : List Char → Prop
  | [] => False
  | c :: _ => P c

section StartsWith

variable {P : Char → Prop} {s t : List Char}

@[simp] theorem not_startsWith_nil : ¬ StartsWith P [] := id

@[simp] theorem startsWith_cons {c : Char} : StartsWith P (c :: s) ↔ P c := .rfl

theorem StartsWith.append (hs : StartsWith P s) (t : List Char) : StartsWith P (s ++ t) := by
  cases s with
  | nil => exact absurd hs not_startsWith_nil
  | cons c rest => exact hs

theorem not_startsWith_append_of_ne_nil (h : ∀ c ∈ s, ¬ P c) (hs : s ≠ []) :
    ¬ StartsWith P (s ++ t) := by
  cases s with
  | nil => exact absurd rfl hs
  | cons c rest => exact h c List.mem_cons_self

theorem not_startsWith_append (hs : ¬ StartsWith P s) (ht : ¬ StartsWith P t) :
    ¬ StartsWith P (s ++ t) := by
  cases s with
  | nil => exact ht
  | cons c rest => exact hs

end StartsWith

/-- The signs of numbers. -/
def IsSign (c : Char) : Prop := c = '+' ∨ c = '-'

theorem not_isSign_of_isDigit {c : Char} (h : isDigit c) : ¬ IsSign c := by
  rintro (rfl | rfl)
  · exact absurd h (by decide)
  · exact absurd h (by decide)

namespace Exponent

/-- An exponent that consists of what it should. -/
structure WellFormed (e : Exponent) : Prop where
  mark : e.mark = 'e' ∨ e.mark = 'E'
  sign : ∀ c ∈ e.sign, IsSign c
  digits : ∀ c ∈ e.digits, isDigit c
  ne_nil : e.digits ≠ []

/-- The mark of an exponent is no digit and no point. -/
theorem WellFormed.not_startsWith {e : Exponent} (h : e.WellFormed) (s : List Char) :
    ¬ StartsWith (isDigit ·) (e.text ++ s) ∧ ¬ StartsWith (· = '.') (e.text ++ s) := by
  change ¬ isDigit e.mark ∧ ¬ e.mark = '.'
  rcases h.mark with hmark | hmark
  · rw [hmark]
    decide
  · rw [hmark]
    decide

end Exponent

namespace Literal

/-- A literal that consists of what it should and has a digit. -/
structure WellFormed (l : Literal) : Prop where
  sign : ∀ c ∈ l.sign, IsSign c
  whole : ∀ c ∈ l.whole, isDigit c
  fraction : ∀ digits ∈ l.fraction, ∀ c ∈ digits, isDigit c
  exponent : ∀ e ∈ l.exponent, e.WellFormed
  hasDigit : l.whole ≠ [] ∨ l.fraction.getD [] ≠ []

/-- A literal begins with a sign, a digit or a point. -/
theorem WellFormed.startsWith_text {l : Literal} (h : l.WellFormed) :
    StartsWith (fun c => IsSign c ∨ isDigit c ∨ c = '.') l.text := by
  obtain ⟨sign, whole, fraction, exponent⟩ := l
  cases sign with
  | some c => exact .inl (h.sign c rfl)
  | none =>
    cases whole with
    | cons c rest => exact .inr (.inl (h.whole c List.mem_cons_self))
    | nil =>
      cases fraction with
      | some digits => exact .inr (.inr rfl)
      | none => exact h.hasDigit.elim (absurd rfl) (absurd rfl)

theorem WellFormed.text_ne_nil {l : Literal} (h : l.WellFormed) : l.text ≠ [] := fun hnil =>
  absurd (hnil ▸ h.startsWith_text) not_startsWith_nil

/-- A text that does not continue a literal: no digit, and no point and no exponent where the
literal could still have one. -/
structure Closes (l : Literal) (rest : List Char) : Prop where
  digit : ¬ StartsWith (isDigit ·) rest
  point : l.fraction = none → l.exponent = none → ¬ StartsWith (· = '.') rest
  exponent : l.exponent = none → readExponent rest = (none, rest)

theorem closes_nil (l : Literal) : l.Closes [] :=
  ⟨not_startsWith_nil, fun _ _ => not_startsWith_nil, fun _ => rfl⟩

/-! ## Parts -/

theorem readSign_append_of {sign : Option Char} {s : List Char} (hsign : ∀ c ∈ sign, IsSign c)
    (hs : ¬ StartsWith IsSign s) : readSign (sign.toList ++ s) = (sign, s) := by
  cases sign with
  | some c => exact if_pos (hsign c rfl)
  | none =>
    cases s with
    | nil => rfl
    | cons c rest => exact if_neg hs

theorem readDigits_append_of {digits s : List Char} (hdigits : ∀ c ∈ digits, isDigit c)
    (hs : ¬ StartsWith (isDigit ·) s) : readDigits (digits ++ s) = (digits, s) := by
  have hrest : s.takeWhile isDigit = [] ∧ s.dropWhile isDigit = s := by
    cases s with
    | nil => exact ⟨rfl, rfl⟩
    | cons c rest =>
      have hc : isDigit c = false := by simpa using hs
      simp [hc]
  rw [readDigits, List.takeWhile_append_of_pos hdigits, List.dropWhile_append_of_pos hdigits,
    hrest.1, hrest.2, List.append_nil]

theorem readFraction_append_of {fraction : Option (List Char)} {s : List Char}
    (hfraction : ∀ digits ∈ fraction, ∀ c ∈ digits, isDigit c)
    (hdigit : ¬ StartsWith (isDigit ·) s) (hpoint : fraction = none → ¬ StartsWith (· = '.') s) :
    readFraction ((fraction.map ('.' :: ·)).getD [] ++ s) = (fraction, s) := by
  cases fraction with
  | some digits =>
    change (some (readDigits (digits ++ s)).1, (readDigits (digits ++ s)).2) = (some digits, s)
    rw [readDigits_append_of (hfraction digits rfl) hdigit]
  | none =>
    rw [Option.map_none, Option.getD_none, List.nil_append]
    unfold readFraction
    split
    · exact absurd rfl (hpoint rfl)
    · rfl

theorem readExponent_text_append {e : Exponent} (h : e.WellFormed) {s : List Char}
    (hs : ¬ StartsWith (isDigit ·) s) : readExponent (e.text ++ s) = (some e, s) := by
  obtain ⟨mark, sign, digits⟩ := e
  have hunsigned : ¬ StartsWith IsSign (digits ++ s) :=
    not_startsWith_append_of_ne_nil (fun c hc => not_isSign_of_isDigit (h.digits c hc)) h.ne_nil
  have htext : Exponent.text ⟨mark, sign, digits⟩ ++ s =
      mark :: (sign.toList ++ (digits ++ s)) := by
    simp [Exponent.text]
  have hempty : digits.isEmpty = false := by simpa using h.ne_nil
  rw [htext, readExponent, if_pos h.mark, readSign_append_of h.sign hunsigned]
  simp only [readDigits_append_of h.digits hs, hempty, Bool.false_eq_true, if_false]

/-! ## Literals -/

section

variable {l : Literal} {rest : List Char}

/-- What follows the digits and the fraction of a literal continues neither. -/
theorem Closes.not_startsWith (hrest : l.Closes rest) (h : l.WellFormed) :
    ¬ StartsWith (isDigit ·) ((l.exponent.map Exponent.text).getD [] ++ rest) ∧
      (l.fraction = none →
        ¬ StartsWith (· = '.') ((l.exponent.map Exponent.text).getD [] ++ rest)) := by
  cases hexponent : l.exponent with
  | none => exact ⟨hrest.digit, fun hfraction => hrest.point hfraction hexponent⟩
  | some e =>
    obtain ⟨hdigit, hpoint⟩ := (h.exponent e hexponent).not_startsWith rest
    exact ⟨hdigit, fun _ => hpoint⟩

theorem Closes.readExponent_eq (hrest : l.Closes rest) (h : l.WellFormed) :
    readExponent ((l.exponent.map Exponent.text).getD [] ++ rest) = (l.exponent, rest) := by
  cases hexponent : l.exponent with
  | none => exact hrest.exponent hexponent
  | some e => exact readExponent_text_append (h.exponent e hexponent) hrest.digit

/-- After its sign a literal goes on with a digit or with a point. -/
theorem WellFormed.not_startsWith_isSign (h : l.WellFormed) (s : List Char) :
    ¬ StartsWith IsSign (l.whole ++ ((l.fraction.map ('.' :: ·)).getD [] ++ s)) := by
  by_cases hwhole : l.whole = []
  · cases hfraction : l.fraction with
    | none =>
      rcases h.hasDigit with hne | hne
      · exact absurd hwhole hne
      · exact absurd (by rw [hfraction]; rfl) hne
    | some digits =>
      rw [hwhole]
      change ¬ IsSign '.'
      rintro (hpoint | hpoint) <;> exact absurd hpoint (by decide)
  · exact not_startsWith_append_of_ne_nil
      (fun c hc => not_isSign_of_isDigit (h.whole c hc)) hwhole

/-- A literal is read from its text, and what does not continue it is left. -/
theorem read?_append (h : l.WellFormed) (hrest : l.Closes rest) :
    read? (l.text ++ rest) = some (l, rest) := by
  obtain ⟨hdigit, hpoint⟩ := hrest.not_startsWith h
  have hexponent := hrest.readExponent_eq h
  have htext : l.text ++ rest = l.sign.toList ++ (l.whole ++ ((l.fraction.map ('.' :: ·)).getD [] ++
      ((l.exponent.map Exponent.text).getD [] ++ rest))) := by
    simp only [text, List.append_assoc]
  have hpart : ¬ StartsWith (isDigit ·) ((l.fraction.map ('.' :: ·)).getD [] ++
      ((l.exponent.map Exponent.text).getD [] ++ rest)) := by
    cases l.fraction with
    | none => exact hdigit
    | some digits =>
      change ¬ isDigit '.'
      decide
  have hempty : (l.whole.isEmpty && (l.fraction.getD []).isEmpty) = false := by
    rw [Bool.and_eq_false_iff, List.isEmpty_eq_false_iff, List.isEmpty_eq_false_iff]
    exact h.hasDigit
  rw [htext, read?, readSign_append_of h.sign (h.not_startsWith_isSign _)]
  simp only [readDigits_append_of h.whole hpart, readFraction_append_of h.fraction hdigit hpoint,
    hempty, hexponent, Bool.false_eq_true, if_false]

/-- The text of a literal is read to its end. -/
theorem read?_text (h : l.WellFormed) : read? l.text = some (l, []) := by
  rw [← List.append_nil l.text]
  exact read?_append h l.closes_nil

end

/-! ## What is read -/

theorem isSign_of_mem_readSign {s : List Char} : ∀ c ∈ (readSign s).1, IsSign c := by
  intro d hd
  cases s with
  | nil => cases hd
  | cons c rest =>
    rw [readSign] at hd
    split at hd
    · next hc =>
      cases hd
      exact hc
    · cases hd

theorem isDigit_of_mem_readDigits {s : List Char} : ∀ c ∈ (readDigits s).1, isDigit c :=
  List.all_eq_true.mp List.all_takeWhile

theorem not_startsWith_readDigits (s : List Char) : ¬ StartsWith (isDigit ·) (readDigits s).2 := by
  rw [readDigits]
  induction s with
  | nil => exact not_startsWith_nil
  | cons c rest ih =>
    rw [List.dropWhile_cons]
    split
    · exact ih
    · next hc => exact hc

theorem isEmpty_readDigits_iff (s : List Char) :
    (readDigits s).1.isEmpty ↔ ¬ StartsWith (isDigit ·) s := by
  rw [readDigits]
  cases s with
  | nil => simp
  | cons c rest => by_cases hc : isDigit c <;> simp [hc]

/-- A sign is read from the first character, whatever is written after the text. -/
theorem readSign_append_of_ne_nil {s : List Char} (hs : s ≠ []) (t : List Char) :
    readSign (s ++ t) = ((readSign s).1, (readSign s).2 ++ t) := by
  cases s with
  | nil => exact absurd rfl hs
  | cons c rest =>
    rw [List.cons_append, readSign, readSign]
    split <;> rfl

/-- After digits, a point begins a fraction, and all its digits are read. -/
theorem readFraction_spec {s : List Char} (h : ¬ StartsWith (isDigit ·) s) :
    (∀ digits ∈ (readFraction s).1, ∀ c ∈ digits, isDigit c) ∧
      ¬ StartsWith (isDigit ·) (readFraction s).2 ∧
      ((readFraction s).1 = none → ¬ StartsWith (· = '.') (readFraction s).2) := by
  unfold readFraction
  split
  · next rest =>
    refine ⟨?_, not_startsWith_readDigits rest, nofun⟩
    rintro _ ⟨⟩
    exact isDigit_of_mem_readDigits
  · next hs =>
    refine ⟨nofun, h, fun _ => ?_⟩
    cases s with
    | nil => exact not_startsWith_nil
    | cons c rest =>
      rintro rfl
      exact hs rest rfl

/-- The exponent that a text begins with consists of what it should, and all its digits are
read. -/
theorem readExponent_cases (s : List Char) :
    (∃ e rest, readExponent s = (some e, rest) ∧ e.WellFormed ∧ ¬ StartsWith (isDigit ·) rest) ∨
      readExponent s = (none, s) := by
  cases s with
  | nil => exact .inr rfl
  | cons c rest =>
    simp only [readExponent]
    split
    · next hmark =>
      split
      · exact .inr rfl
      · next hdigits =>
        refine .inl ⟨_, _, rfl, ⟨hmark, isSign_of_mem_readSign, isDigit_of_mem_readDigits, ?_⟩,
          not_startsWith_readDigits _⟩
        simpa using hdigits
    · exact .inr rfl

/-- What is read is a literal, and what is left does not continue it. -/
theorem wellFormed_and_closes_of_read? {s rest : List Char} {l : Literal}
    (h : read? s = some (l, rest)) : l.WellFormed ∧ l.Closes rest := by
  have hwhole := isDigit_of_mem_readDigits (s := (readSign s).2)
  obtain ⟨hfraction, hdigit, hpoint⟩ :=
    readFraction_spec (not_startsWith_readDigits (readSign s).2)
  simp only [read?] at h
  generalize readFraction (readDigits (readSign s).2).2 = part at h hfraction hdigit hpoint
  split at h
  · cases h
  · next hempty =>
    have hdigits : (readDigits (readSign s).2).1 ≠ [] ∨ part.1.getD [] ≠ [] := by
      simpa [Decidable.or_iff_not_imp_left] using hempty
    cases h
    rcases readExponent_cases part.2 with ⟨e, rest, hread, he, hrest⟩ | hread
    · simp only [hread]
      have hsome : some e ≠ none := Option.some_ne_none e
      refine ⟨⟨isSign_of_mem_readSign, hwhole, hfraction, ?_, hdigits⟩, hrest,
        fun _ hnone => absurd hnone hsome, fun hnone => absurd hnone hsome⟩
      rintro _ ⟨⟩
      exact he
    · simp only [hread]
      have habsent : ∀ e ∈ (none : Option Exponent), e.WellFormed := fun e he =>
        absurd he (Option.not_mem_none e)
      exact ⟨⟨isSign_of_mem_readSign, hwhole, hfraction, habsent, hdigits⟩, hdigit,
        fun hnone _ => hpoint hnone, fun _ => hread⟩

/-- A literal is read exactly where it stands and is not continued. -/
theorem read?_eq_some_iff {s rest : List Char} {l : Literal} :
    read? s = some (l, rest) ↔ l.WellFormed ∧ l.Closes rest ∧ l.text ++ rest = s := by
  constructor
  · intro h
    obtain ⟨hl, hrest⟩ := wellFormed_and_closes_of_read? h
    exact ⟨hl, hrest, append_of_read? h⟩
  · rintro ⟨hl, hrest, rfl⟩
    exact read?_append hl hrest

end Literal

/-! ## Texts of one literal -/

/-- A text that is one literal, and its value, which a double can hold. -/
def Denotes (s : List Char) (x : Double) : Prop :=
  ∃ l : Literal, l.WellFormed ∧ l.text = s ∧ l.value.isFinite ∧ x = l.value

theorem Denotes.isFinite {s : List Char} {x : Double} (h : Denotes s x) : x.isFinite := by
  obtain ⟨l, -, -, hfinite, rfl⟩ := h
  exact hfinite

theorem Denotes.ne_nil {s : List Char} {x : Double} (h : Denotes s x) : s ≠ [] := by
  obtain ⟨l, hl, rfl, -, -⟩ := h
  exact hl.text_ne_nil

/-- What has a value is one literal with blanks around it, and a double can hold it. -/
theorem parseNumber_eq_ok_iff {s : String} {x : Double} :
    parseNumber s = .ok x ↔ Denotes (strip s.toList) x := by
  constructor
  · intro h
    rw [parseNumber] at h
    split at h
    · next l hread =>
      obtain ⟨hl, -, htext⟩ := Literal.read?_eq_some_iff.mp hread
      rw [List.append_nil] at htext
      rw [Literal.finiteValue] at h
      split at h
      · next hfinite =>
        cases h
        exact ⟨l, hl, htext, hfinite, rfl⟩
      · cases h
    · cases h
  · rintro ⟨l, hl, htext, hfinite, rfl⟩
    rw [parseNumber, ← htext, Literal.read?_text hl]
    exact if_pos hfinite

end SvgDrawing.PathData
