import SvgDrawing.Proofs.PathData.NumberGrammar

/-!
# The numbers of a text

A text is cut into separators, numbers with separators after them, and a rest.  There is one way to
do this in which nothing could be made longer, `Decomposes`: each run of separators goes on until
something else follows, each number is the longest one that stands there, and no number stands at
the beginning of the rest.  Reading numbers cuts a text in this way.

The values are delivered one after the other, so a number that no double can hold is an error only
for who asks for it: the values in front of it are delivered, and with a limit what comes later does
not matter.  `Delivers` says what comes of the literals, and `numbers_of_decomposition` of the text.
-/
namespace SvgDrawing.PathData

/-! ## Runs of separators -/

/-- Separators, and no further one after them. -/
structure IsGap (gap after : List Char) : Prop where
  separator : ∀ c ∈ gap, Literal.isSeparator c
  ends : ¬ StartsWith (Literal.isSeparator ·) after

section IsGap

variable {gap after : List Char}

theorem IsGap.takeWhile_append (h : IsGap gap after) :
    (gap ++ after).takeWhile Literal.isSeparator = gap := by
  rw [List.takeWhile_append_of_pos h.separator]
  cases after with
  | nil => simp
  | cons c rest =>
    have hc : ¬ Literal.isSeparator c := h.ends
    rw [List.takeWhile_cons_of_neg hc, List.append_nil]

theorem isGap_takeWhile (s : List Char) :
    IsGap (s.takeWhile Literal.isSeparator) (s.dropWhile Literal.isSeparator) := by
  refine ⟨fun c hc => List.mem_takeWhile_imp hc, ?_⟩
  induction s with
  | nil => exact not_startsWith_nil
  | cons c rest ih =>
    rw [List.dropWhile_cons]
    split
    · exact ih
    · next hc => exact hc

end IsGap

/-! ## Cutting a text -/

/-- A number stands in front of a text, and the separators after it as well. -/
structure Spaced.Stands (i : Spaced) (after : List Char) : Prop where
  wellFormed : i.literal.WellFormed
  longest : IsLongest Grammar.number (i.text ++ after) i.literal.text
  gap : IsGap i.gap after

/-- The text is made up of separators, numbers with separators after them, and a rest.  Nothing of
it could be longer, and no number stands at the beginning of the rest. -/
structure Decomposes (s lead : List Char) (items : List Spaced) (rest : List Char) : Prop where
  text : lead ++ (items.flatMap Spaced.text ++ rest) = s
  lead : IsGap lead (items.flatMap Spaced.text ++ rest)
  item : ∀ i later, i :: later <:+ items → i.Stands (later.flatMap Spaced.text ++ rest)
  rest : ∀ t ∈ Grammar.number, ¬ t <+: rest

namespace Decomposes

variable {s lead lead' rest rest' : List Char} {i : Spaced} {items items' : List Spaced}

/-- After the first number the text goes on in the same way. -/
theorem cons_iff :
    Decomposes s lead (i :: items) rest ↔
      lead ++ (i.text ++ (items.flatMap Spaced.text ++ rest)) = s ∧
        IsGap lead (i.text ++ (items.flatMap Spaced.text ++ rest)) ∧
        i.Stands (items.flatMap Spaced.text ++ rest) ∧
        Decomposes (i.gap ++ (items.flatMap Spaced.text ++ rest)) i.gap items rest := by
  constructor
  · intro h
    have hfirst := h.item i items List.suffix_rfl
    have hlater : ∀ j later, j :: later <:+ items → j.Stands (later.flatMap Spaced.text ++ rest) :=
      fun j later hj => h.item j later (hj.trans (List.suffix_cons i items))
    have htext := h.text
    have hlead := h.lead
    rw [List.flatMap_cons, List.append_assoc] at htext hlead
    exact ⟨htext, hlead, hfirst, rfl, hfirst.gap, hlater, h.rest⟩
  · rintro ⟨htext, hlead, hfirst, h⟩
    refine ⟨?_, ?_, ?_, h.rest⟩
    · rw [List.flatMap_cons, List.append_assoc, htext]
    · rw [List.flatMap_cons, List.append_assoc]
      exact hlead
    · intro j later hj
      rcases List.suffix_cons_iff.mp hj with heq | hj
      · cases heq
        exact hfirst
      · exact h.item j later hj

theorem lead_eq (h : Decomposes s lead items rest) : lead = s.takeWhile Literal.isSeparator := by
  rw [← h.text, h.lead.takeWhile_append]

/-- The separators in front are the same, and so is what is left after them. -/
theorem lead_unique (h : Decomposes s lead items rest) (h' : Decomposes s lead' items' rest') :
    lead' = lead ∧ items'.flatMap Spaced.text ++ rest' = items.flatMap Spaced.text ++ rest := by
  have hlead : lead' = lead := by rw [h.lead_eq, h'.lead_eq]
  have htext := h'.text.trans h.text.symm
  rw [hlead] at htext
  exact ⟨hlead, List.append_cancel_left htext⟩

/-- A text that is cut without a number has none where another cut would have one. -/
theorem not_cons_of_nil (h : Decomposes s lead [] rest) :
    ¬ Decomposes s lead' (i :: items') rest' := by
  intro h'
  obtain ⟨-, hrest⟩ := h.lead_unique h'
  have hfirst := h'.item i items' List.suffix_rfl
  rw [List.flatMap_cons, List.append_assoc] at hrest
  refine h.rest i.literal.text hfirst.longest.mem ?_
  have hstarts := hfirst.longest.starts
  rwa [hrest] at hstarts

/-- There is no other way to cut a text. -/
theorem unique (h : Decomposes s lead items rest) (h' : Decomposes s lead' items' rest') :
    lead' = lead ∧ items' = items ∧ rest' = rest := by
  induction items generalizing s lead lead' items' with
  | nil =>
    cases items' with
    | nil =>
      obtain ⟨hlead, hrest⟩ := h.lead_unique h'
      exact ⟨hlead, rfl, hrest⟩
    | cons j items' => exact absurd h' h.not_cons_of_nil
  | cons i items ih =>
    cases items' with
    | nil => exact absurd h h'.not_cons_of_nil
    | cons j items' =>
      obtain ⟨hlead, htext⟩ := h.lead_unique h'
      obtain ⟨-, -, hi, htail⟩ := cons_iff.mp h
      obtain ⟨-, -, hj, htail'⟩ := cons_iff.mp h'
      simp only [List.flatMap_cons, List.append_assoc] at htext
      have hlongest := hj.longest
      rw [htext] at hlongest
      have hliteral : j.literal = i.literal :=
        hj.wellFormed.eq_of_text_eq hi.wellFormed (hlongest.unique hi.longest)
      simp only [Spaced.text, hliteral, List.append_assoc] at htext
      rw [List.append_cancel_left htext] at htail'
      obtain ⟨hgap, hitems, hrest⟩ := ih htail htail'
      obtain ⟨literal, gap⟩ := j
      subst hliteral hgap hitems
      exact ⟨hlead, rfl, hrest⟩

/-- Every number takes up a character. -/
theorem length_le (h : Decomposes s lead items rest) : items.length ≤ s.length := by
  induction items generalizing s lead with
  | nil => exact Nat.zero_le _
  | cons i items ih =>
    obtain ⟨rfl, -, hi, htail⟩ := cons_iff.mp h
    have hle := ih htail
    have hpos := List.length_pos_iff.mpr hi.wellFormed.text_ne_nil
    simp only [List.length_append, List.length_cons, Spaced.text] at hle ⊢
    omega

end Decomposes

/-- Every text can be cut, into the numbers that are read and what is left. -/
theorem exists_decomposes (s : List Char) :
    ∃ lead items, Decomposes s lead items (Literal.readAll s).2 ∧
      items.map Spaced.literal = (Literal.readAll s).1 := by
  fun_induction Literal.readAll s with
  | case1 s hread =>
    refine ⟨s.takeWhile Literal.isSeparator, [], ⟨?_, isGap_takeWhile s, ?_, ?_⟩, rfl⟩
    · exact List.takeWhile_append_dropWhile
    · intro i later hi
      exact absurd (List.suffix_nil.mp hi) (List.cons_ne_nil i later)
    · exact Literal.read?_eq_none_iff.mp hread
  | case2 s l rest hread more last hmore ih =>
    obtain ⟨lead, items, h, hliterals⟩ := ih
    obtain ⟨hl, hlongest, htext⟩ := Literal.read?_eq_some_iff_isLongest.mp hread
    rw [hmore] at h hliterals
    have hafter : (Spaced.mk l lead).text ++ (items.flatMap Spaced.text ++ last) =
        s.dropWhile Literal.isSeparator := by
      rw [Spaced.text, List.append_assoc, h.text, htext]
    refine ⟨s.takeWhile Literal.isSeparator, ⟨l, lead⟩ :: items, ?_, ?_⟩
    · refine Decomposes.cons_iff.mpr ⟨?_, ?_, ⟨hl, ?_, h.lead⟩, ?_⟩
      · rw [hafter, List.takeWhile_append_dropWhile]
      · rw [hafter]
        exact isGap_takeWhile s
      · rw [hafter]
        exact hlongest
      · rw [h.text]
        exact h
    · exact congrArg (l :: ·) hliterals

/-! ## Values -/

/-- The values of literals and what comes of one that is too large: the values in front of it are
delivered, and the error tells the literal. -/
inductive Delivers : List Literal → List Double × Option ConversionError → Prop
  | all {literals : List Literal} (h : ∀ l ∈ literals, l.value.isFinite) :
      Delivers literals (literals.map Literal.value, none)
  | tooLarge {front back : List Literal} {l : Literal} (hfront : ∀ x ∈ front, x.value.isFinite)
      (h : ¬ l.value.isFinite) :
      Delivers (front ++ l :: back)
        (front.map Literal.value, some (.malformedNumber (String.ofList l.text)))

theorem delivers_values (literals : List Literal) :
    Delivers literals (Literal.values literals) := by
  induction literals with
  | nil => exact .all nofun
  | cons l rest ih =>
    by_cases hl : l.value.isFinite
    · simp only [Literal.values, Literal.finiteValue, if_pos hl]
      generalize Literal.values rest = result at ih
      cases ih with
      | all h => exact .all (List.forall_mem_cons.mpr ⟨hl, h⟩)
      | @tooLarge front back large hfront h =>
        exact .tooLarge (List.forall_mem_cons.mpr ⟨hl, hfront⟩) h
    · simp only [Literal.values, Literal.finiteValue, if_neg hl]
      exact @Delivers.tooLarge [] rest l nofun hl

/-- There is one way to cut a text into separators, numbers with separators after them, and a rest,
each run of separators and each number as long as it can be and no number at the beginning of the
rest.  There are no more numbers than characters.  What is read are the values of these numbers, in
order and up to the first that no double can hold, which is the error; with a limit, only so many of
the numbers count. -/
theorem numbers_of_decomposition (s : List Char) :
    ∃ lead items rest, Decomposes s lead items rest ∧
      (∀ lead' items' rest', Decomposes s lead' items' rest' →
        lead' = lead ∧ items' = items ∧ rest' = rest) ∧
      items.length ≤ s.length ∧
      Delivers (items.map Spaced.literal) (numbers s none) ∧
      ∀ n, Delivers ((items.take n).map Spaced.literal) (numbers s (some n)) := by
  obtain ⟨lead, items, h, hliterals⟩ := exists_decomposes s
  refine ⟨lead, items, (Literal.readAll s).2, h, ?_, h.length_le, ?_, ?_⟩
  · intro lead' items' rest' h'
    exact h.unique h'
  · rw [numbers, ← hliterals]
    exact delivers_values _
  · intro n
    rw [numbers, ← hliterals, List.map_take]
    exact delivers_values _

end SvgDrawing.PathData
