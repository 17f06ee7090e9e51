import Mathlib.Computability.Language
import SvgDrawing.Proofs.PathData.LiteralRow

/-!
# The grammar of numbers

The texts that are numbers form a language, `Grammar.number`: an optional sign, then digits with an
optional point and more digits, or a point and digits, and then an optional exponent.  A literal is
such a text taken apart, so the language says nothing about how a number is found.

What is read is the longest number that a text begins with, `Literal.read?_eq_some_iff_isLongest`.
Reading does not stop short, because any more of a number would be a part that continues the
literal; and it does not miss a number, because the first digit of one is looked for just where it
has to be, after the sign or after a point.  A mark without digits and a point without digits belong
to no number and are left.
-/
namespace SvgDrawing.PathData

open Text

/-! ## The language -/

namespace Grammar

open scoped Computability

/-- One character of a class. -/
def oneOf (P : Char → Prop) : Language Char := {s | ∃ c, P c ∧ s = [c]}

/-- A text of a language, or nothing. -/
def optional (L : Language Char) : Language Char := 1 + L

def sign : Language Char := oneOf IsSign

def point : Language Char := oneOf (· = '.')

def digit : Language Char := oneOf (isDigit ·)

/-- One digit or more. -/
def digits : Language Char := digit * digit∗

/-- Digits with an optional point and more digits after it, or a point and digits. -/
def mantissa : Language Char := digits * optional point * digit∗ + point * digits

def exponent : Language Char := oneOf IsMark * optional sign * digits

/-- The texts that are numbers. -/
def number : Language Char := optional sign * mantissa * optional exponent

variable {s : List Char}

theorem mem_optional {L : Language Char} : s ∈ optional L ↔ s = [] ∨ s ∈ L := .rfl

/-- Where the texts of a language are those of some things, an optional text is that of an optional
thing. -/
theorem mem_optional_iff {α : Type} {L : Language Char} {P : α → Prop} {text : α → List Char}
    (h : ∀ s, s ∈ L ↔ ∃ a, P a ∧ text a = s) :
    s ∈ optional L ↔ ∃ o : Option α, (∀ a ∈ o, P a) ∧ (o.map text).getD [] = s := by
  rw [mem_optional, h]
  constructor
  · rintro (rfl | ⟨a, ha, rfl⟩)
    · exact ⟨none, nofun, rfl⟩
    · refine ⟨some a, ?_, rfl⟩
      rintro _ ⟨⟩
      exact ha
  · rintro ⟨o, ho, rfl⟩
    cases o with
    | none => exact .inl rfl
    | some a => exact .inr ⟨a, ho a rfl, rfl⟩

theorem mem_optional_sign :
    s ∈ optional sign ↔ ∃ o : Option Char, (∀ c ∈ o, IsSign c) ∧ o.toList = s := by
  have hsign : ∀ s, s ∈ sign ↔ ∃ c, IsSign c ∧ [c] = s := by
    intro s
    simp only [eq_comm (b := s)]
    rfl
  have hlist : ∀ o : Option Char, (o.map ([·])).getD [] = o.toList := by
    intro o
    cases o <;> rfl
  simp only [mem_optional_iff hsign, hlist]

theorem mem_kstar_digit : s ∈ digit∗ ↔ ∀ c ∈ s, isDigit c := by
  rw [Language.mem_kstar]
  constructor
  · rintro ⟨pieces, rfl, hpieces⟩ c hc
    obtain ⟨piece, hpiece, hc⟩ := List.mem_flatten.mp hc
    obtain ⟨d, hd, rfl⟩ := hpieces piece hpiece
    rw [List.mem_singleton.mp hc]
    exact hd
  · intro h
    refine ⟨s.map ([·]), (List.flatMap_singleton' s).symm, ?_⟩
    intro piece hpiece
    obtain ⟨c, hc, rfl⟩ := List.mem_map.mp hpiece
    exact ⟨c, h c hc, rfl⟩

theorem mem_digits : s ∈ digits ↔ (∀ c ∈ s, isDigit c) ∧ s ≠ [] := by
  rw [digits, Language.mem_mul]
  constructor
  · rintro ⟨_, ⟨c, hc, rfl⟩, rest, hrest, rfl⟩
    exact ⟨List.forall_mem_cons.mpr ⟨hc, mem_kstar_digit.mp hrest⟩, List.cons_ne_nil c rest⟩
  · rintro ⟨hs, hne⟩
    cases s with
    | nil => exact absurd rfl hne
    | cons c rest =>
      rw [List.forall_mem_cons] at hs
      exact ⟨[c], ⟨c, hs.1, rfl⟩, rest, mem_kstar_digit.mpr hs.2, rfl⟩

theorem mem_exponent : s ∈ exponent ↔ ∃ e : Exponent, e.WellFormed ∧ e.text = s := by
  simp only [exponent, mul_assoc, Language.mem_mul, mem_optional_sign, mem_digits]
  constructor
  · rintro ⟨_, ⟨mark, hmark, rfl⟩, _, ⟨_, ⟨o, ho, rfl⟩, ds, ⟨hds, hne⟩, rfl⟩, rfl⟩
    exact ⟨⟨mark, o, ds⟩, ⟨hmark, ho, hds, hne⟩, rfl⟩
  · rintro ⟨⟨mark, o, ds⟩, h, rfl⟩
    refine ⟨[mark], ⟨mark, h.mark, rfl⟩, _, ⟨_, ⟨o, h.sign, rfl⟩, ds, ?_, rfl⟩, rfl⟩
    exact ⟨h.digits, h.ne_nil⟩

/-- The digits of a literal around its point: there are some in front of the point or after it. -/
theorem mem_mantissa :
    s ∈ mantissa ↔ ∃ (whole : List Char) (fraction : Option (List Char)),
      (∀ c ∈ whole, isDigit c) ∧ (∀ ds ∈ fraction, ∀ c ∈ ds, isDigit c) ∧
        (whole ≠ [] ∨ fraction.getD [] ≠ []) ∧
        whole ++ (fraction.map ('.' :: ·)).getD [] = s := by
  simp only [mantissa, mul_assoc, Language.mem_add, Language.mem_mul, mem_optional, mem_digits,
    mem_kstar_digit]
  constructor
  · rintro (⟨whole, ⟨hwhole, hne⟩, _, ⟨p, hp, more, hmore, rfl⟩, rfl⟩ |
      ⟨_, ⟨p, rfl, rfl⟩, ds, ⟨hds, hne⟩, rfl⟩)
    · rcases hp with rfl | ⟨p, rfl, rfl⟩
      · exact ⟨whole ++ more, none, List.forall_mem_append.mpr ⟨hwhole, hmore⟩, nofun,
          .inl (List.append_ne_nil_of_left_ne_nil hne more), List.append_nil _⟩
      · refine ⟨whole, some more, hwhole, ?_, .inl hne, rfl⟩
        rintro _ ⟨⟩
        exact hmore
    · refine ⟨[], some ds, nofun, ?_, .inr hne, rfl⟩
      rintro _ ⟨⟩
      exact hds
  · rintro ⟨whole, fraction, hwhole, hfraction, hne, rfl⟩
    by_cases hempty : whole = []
    · subst hempty
      have hne := hne.resolve_left (absurd rfl)
      cases fraction with
      | none => exact absurd rfl hne
      | some ds => exact .inr ⟨['.'], ⟨'.', rfl, rfl⟩, ds, ⟨hfraction ds rfl, hne⟩, rfl⟩
    · refine .inl ⟨whole, ⟨hwhole, hempty⟩, _, ?_, rfl⟩
      cases fraction with
      | none => exact ⟨[], .inl rfl, [], nofun, rfl⟩
      | some ds => exact ⟨['.'], .inr ⟨'.', rfl, rfl⟩, ds, hfraction ds rfl, rfl⟩

/-- Numbers are the texts of literals. -/
theorem mem_number_iff : s ∈ number ↔ ∃ l : Literal, l.WellFormed ∧ l.text = s := by
  simp only [number, Language.mem_mul, mem_optional_sign, mem_mantissa,
    mem_optional_iff fun _ => mem_exponent]
  constructor
  · rintro ⟨_, ⟨_, ⟨o, ho, rfl⟩, _, ⟨whole, fraction, hwhole, hfraction, hne, rfl⟩, rfl⟩, _,
      ⟨e, he, rfl⟩, rfl⟩
    exact ⟨⟨o, whole, fraction, e⟩, ⟨ho, hwhole, hfraction, he, hne⟩, by simp [Literal.text]⟩
  · rintro ⟨⟨o, whole, fraction, e⟩, h, rfl⟩
    refine ⟨_, ⟨_, ⟨o, h.sign, rfl⟩, _, ⟨whole, fraction, h.whole, h.fraction, h.hasDigit, rfl⟩,
      rfl⟩, _, ⟨e, h.exponent, rfl⟩, ?_⟩
    simp [Literal.text]

end Grammar

/-! ## The longest number -/

/-- The longest text of a language that another text begins with. -/
structure IsLongest (L : Language Char) (s t : List Char) : Prop where
  mem : t ∈ L
  starts : t <+: s
  length_le : ∀ u ∈ L, u <+: s → u.length ≤ t.length

theorem IsLongest.unique {L : Language Char} {s t u : List Char} (ht : IsLongest L s t)
    (hu : IsLongest L s u) : t = u := by
  have hle := hu.length_le t ht.mem ht.starts
  have hge := ht.length_le u hu.mem hu.starts
  exact (List.prefix_of_prefix_length_le ht.starts hu.starts hle).eq_of_length (by omega)

namespace Literal

open Grammar

variable {l l' : Literal} {s t rest : List Char}

/-- A literal is determined by its text. -/
theorem WellFormed.eq_of_text_eq (h : l.WellFormed) (h' : l'.WellFormed)
    (htext : l.text = l'.text) : l = l' := by
  have hread := read?_text h
  rw [htext, read?_text h', Option.some.injEq, Prod.mk.injEq] at hread
  exact hread.1.symm

/-- What continues a literal does so whatever is written after it. -/
theorem Closes.of_append (h : l.Closes (s ++ t)) : l.Closes s := by
  refine ⟨fun hs => h.digit (hs.append t),
    fun hfraction hexponent hs => h.point hfraction hexponent (hs.append t), ?_⟩
  intro hexponent
  cases s with
  | nil => rfl
  | cons c rest =>
    have hrest := readExponent_cons_eq_none_iff.mp (h.exponent hexponent)
    refine readExponent_cons_eq_none_iff.mpr fun hmark hdigit => hrest hmark ?_
    by_cases hempty : rest = []
    · subst hempty
      exact absurd hdigit not_startsWith_nil
    · change StartsWith (isDigit ·) (readSign (rest ++ t)).2
      rw [readSign_append_of_ne_nil hempty]
      exact hdigit.append t

/-- No number is longer than the literal that is read: what it has after the literal would continue
the literal. -/
theorem isLongest_of_read? (h : read? s = some (l, rest)) : IsLongest number s l.text := by
  obtain ⟨hl, hclosed, rfl⟩ := read?_eq_some_iff.mp h
  refine ⟨mem_number_iff.mpr ⟨l, hl, rfl⟩, List.prefix_append _ _, ?_⟩
  intro u hu hprefix
  by_contra hlt
  have hle : l.text.length ≤ u.length := by omega
  obtain ⟨more, rfl⟩ := List.prefix_of_prefix_length_le (List.prefix_append l.text rest) hprefix hle
  obtain ⟨after, rfl⟩ := (List.prefix_append_right_inj l.text).mp hprefix
  -- the longer number would be read to its end, and the literal is read from it as well
  obtain ⟨l', hl', htext⟩ := mem_number_iff.mp hu
  have hread := read?_append hl hclosed.of_append
  rw [← htext, read?_text hl', Option.some.injEq, Prod.mk.injEq] at hread
  simp [← hread.2] at hlt

/-- Whatever is written after a number, a literal is read. -/
theorem read?_text_append_ne_none (h : l.WellFormed) (rest : List Char) :
    read? (l.text ++ rest) ≠ none := by
  have htext : l.text ++ rest = l.sign.toList ++ (l.whole ++ ((l.fraction.map ('.' :: ·)).getD [] ++
      ((l.exponent.map Exponent.text).getD [] ++ rest))) := by
    simp only [text, List.append_assoc]
  have hdigits : ∀ ds more : List Char, (∀ c ∈ ds, isDigit c) → ds ≠ [] →
      (readDigits (ds ++ more)).1.isEmpty = false := by
    intro ds more hds hne
    rw [Bool.eq_false_iff, Ne, isEmpty_readDigits_iff, not_not]
    cases ds with
    | nil => exact absurd rfl hne
    | cons c ds => exact hds c List.mem_cons_self
  rw [htext, read?, readSign_append_of h.sign (h.not_startsWith_isSign _)]
  generalize (l.exponent.map Exponent.text).getD [] ++ rest = after
  by_cases hwhole : l.whole = []
  · cases hfraction : l.fraction with
    | none => simpa [hwhole, hfraction] using h.hasDigit
    | some ds =>
      have hne : ds ≠ [] := by simpa [hwhole, hfraction] using h.hasDigit
      have hpoint : readDigits ('.' :: (ds ++ after)) = ([], '.' :: (ds ++ after)) :=
        @readDigits_append_of [] _ (List.forall_mem_nil _) (show ¬ isDigit '.' by decide)
      simp [hwhole, hpoint, readFraction, hdigits ds after (h.fraction ds hfraction) hne]
  · simp [hdigits l.whole _ h.whole hwhole]

/-- What is read is the longest number at the start of a text. -/
theorem read?_eq_some_iff_isLongest :
    read? s = some (l, rest) ↔
      l.WellFormed ∧ IsLongest number s l.text ∧ l.text ++ rest = s := by
  constructor
  · intro h
    obtain ⟨hl, -, htext⟩ := read?_eq_some_iff.mp h
    exact ⟨hl, isLongest_of_read? h, htext⟩
  · rintro ⟨hl, hlongest, rfl⟩
    obtain ⟨⟨l', rest'⟩, hread⟩ := Option.ne_none_iff_exists'.mp (read?_text_append_ne_none hl rest)
    obtain ⟨hl', -, htext⟩ := read?_eq_some_iff.mp hread
    have hsame : l' = l := hl'.eq_of_text_eq hl ((isLongest_of_read? hread).unique hlongest)
    subst hsame
    rw [hread, List.append_cancel_left htext]

/-- Nothing is read where no number stands. -/
theorem read?_eq_none_iff : read? s = none ↔ ∀ t ∈ number, ¬ t <+: s := by
  constructor
  · rintro h t ht ⟨rest, rfl⟩
    obtain ⟨l, hl, rfl⟩ := mem_number_iff.mp ht
    exact read?_text_append_ne_none hl rest h
  · intro h
    by_contra hne
    obtain ⟨⟨l, rest⟩, hread⟩ := Option.ne_none_iff_exists'.mp hne
    obtain ⟨hmem, hstarts, -⟩ := isLongest_of_read? hread
    exact h l.text hmem hstarts

/-- An exponent needs a digit, and so does a point without digits in front of it. -/
example : read? "1e+x".toList = some (⟨none, ['1'], none, none⟩, "e+x".toList) ∧
    read? "1..5".toList = some (⟨none, ['1'], some [], none⟩, ".5".toList) ∧
    read? "-.e5".toList = none := by decide

end Literal

end SvgDrawing.PathData
