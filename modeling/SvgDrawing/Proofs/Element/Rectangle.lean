import SvgDrawing.Element.Shape
import SvgDrawing.Proofs.PathData.LiteralRow
import SvgDrawing.Proofs.Results

/-!
# Lengths and rectangles

A length is a number with blanks around it, and the unit may stand after it, with or without blanks
in between.  It is read by stripping the text, taking away the unit once, and stripping what is left
a second time.  A number neither begins nor ends with a blank and does not end with a unit, so there
is one number that can be left, and `IsLength` says which.

A rectangle needs four lengths.  They are read in a fixed order, so the first that is absent or no
length is the one that is told: `rectangle_draws_or_refuses`.
-/
namespace SvgDrawing.Shape

open PathData Text

/-! ## Units -/

@[simp] theorem withoutUnit_append (s : List Char) : withoutUnit (s ++ ['p', 'x']) = s := by
  have hsuffix : ['p', 'x'].isSuffixOf (s ++ ['p', 'x']) :=
    List.isSuffixOf_iff_suffix.mpr (List.suffix_append _ _)
  rw [withoutUnit, if_pos hsuffix]
  simp

theorem withoutUnit_eq_self {s : List Char} (h : ¬ ['p', 'x'] <:+ s) : withoutUnit s = s :=
  if_neg (mt List.isSuffixOf_iff_suffix.mp h)

/-! ## Lengths -/

/-- A number with blanks around it, or with blanks around the number and the unit after it. -/
inductive IsLength (s : List Char) (x : Double) : Prop
  | plain {front number back : List Char} (hfront : ∀ c ∈ front, isBlank c)
      (hback : ∀ c ∈ back, isBlank c) (h : Denotes number x)
      (hs : s = front ++ number ++ back) : IsLength s x
  | pixels {front number gap back : List Char} (hfront : ∀ c ∈ front, isBlank c)
      (hgap : ∀ c ∈ gap, isBlank c) (hback : ∀ c ∈ back, isBlank c) (h : Denotes number x)
      (hs : s = front ++ (number ++ gap ++ ['p', 'x']) ++ back) : IsLength s x

/-- An attribute that is there and is a length. -/
def HasLength (a : Attributes) (name : String) (x : Double) : Prop :=
  ∃ text, a.get? name = some text ∧ IsLength text.toList x

section Length

variable {s number : List Char} {x : Double}

/-- No number ends with the unit. -/
theorem withoutUnit_number (h : Denotes number x) : withoutUnit number = number := by
  refine withoutUnit_eq_self fun hsuffix => ?_
  have hx : ¬ IsNumeric 'x' := by
    simp only [IsNumeric, IsSign, IsMark]
    decide
  exact hx (h.isNumeric 'x' (hsuffix.subset (by simp)))

/-- What is read as a length is a length, and its number is what is left in the end. -/
theorem isLength_iff : IsLength s x ↔ Denotes (strip (withoutUnit (strip s))) x := by
  constructor
  · intro h
    cases h with
    | plain hfront hback h hs =>
      rwa [hs, strip_append_append h.not_isBlank hfront hback, withoutUnit_number h,
        strip_of_forall h.not_isBlank]
    | @pixels front number gap back hfront hgap hback h hs =>
      have hstrip : strip s = number ++ gap ++ ['p', 'x'] := by
        refine trim_eq_iff.mpr ⟨?_, ?_, front, back, hfront, hback, hs⟩
        · intro c hc
          rw [List.append_assoc, List.head?_append_of_ne_nil _ h.ne_nil] at hc
          exact h.not_isBlank c (List.mem_of_mem_head? hc)
        · intro c hc
          rw [List.getLast?_append_of_ne_nil _ (by simp)] at hc
          cases hc
          decide
      have hnumber := strip_append_append h.not_isBlank (List.forall_mem_nil _) hgap
      rw [List.nil_append] at hnumber
      rwa [hstrip, withoutUnit_append, hnumber]
  · intro h
    obtain ⟨front, back, hfront, hback, hs⟩ := exists_append_strip s
    obtain ⟨inner, gap, hinner, hgap, hinside⟩ := exists_append_strip (withoutUnit (strip s))
    have hbefore := List.forall_mem_append.mpr ⟨hfront, hinner⟩
    by_cases hsuffix : ['p', 'x'] <:+ strip s
    · obtain ⟨value, hvalue⟩ := hsuffix
      have hwithout : withoutUnit (strip s) = value := by rw [← hvalue, withoutUnit_append]
      refine .pixels hbefore hgap hback h ?_
      nth_rewrite 1 [hs, ← hvalue, ← hwithout, hinside]
      simp only [List.append_assoc]
    · refine .plain hbefore (List.forall_mem_append.mpr ⟨hgap, hback⟩) h ?_
      rw [withoutUnit_eq_self hsuffix] at hinside ⊢
      nth_rewrite 1 [hs, hinside]
      simp only [List.append_assoc]

end Length

section Attribute

variable {a : Attributes} {name : String} {x : Double} {e : ConversionError}

theorem numericAttribute_eq_ok_iff : numericAttribute a name = .ok x ↔ HasLength a name x := by
  have hvalue : ∀ text : String,
      parseNumber (String.ofList (withoutUnit (strip text.toList))) = .ok x ↔
        IsLength text.toList x := by
    intro text
    rw [parseNumber_eq_ok_iff, String.toList_ofList, isLength_iff]
  constructor
  · intro h
    rw [numericAttribute] at h
    split at h
    · cases h
    · next text htext =>
      split at h
      · next hread =>
        cases h
        exact ⟨text, htext, (hvalue text).mp hread⟩
      · cases h
  · rintro ⟨text, htext, h⟩
    simp only [numericAttribute, htext, (hvalue text).mpr h]

/-- Whatever is wrong with an attribute, it is told with its text. -/
theorem eq_of_numericAttribute_eq_error (h : numericAttribute a name = .error e) :
    e = .requiredAttribute name (a.get? name) := by
  rw [numericAttribute] at h
  split at h
  · next habsent =>
    cases h
    rw [habsent]
  · next text htext =>
    split at h
    · cases h
    · cases h
      rw [htext]

theorem numericAttribute_eq_error_iff :
    numericAttribute a name = .error e ↔
      (∀ x, ¬ HasLength a name x) ∧ e = .requiredAttribute name (a.get? name) :=
  eq_error_iff_of (fun _ => numericAttribute_eq_ok_iff) fun _ => eq_of_numericAttribute_eq_error

end Attribute

/-! ## Rectangles -/

/-- The names of the lengths that a rectangle needs, in the order in which they are read. -/
def lengthNames : List String := ["x", "y", "width", "height"]

section Rectangle

variable {a : Attributes} {e : ConversionError}

theorem rectangle_eq_ok_iff {o : Operation} :
    rectangle a = .ok o ↔ ∃ x y width height, HasLength a "x" x ∧ HasLength a "y" y ∧
      HasLength a "width" width ∧ HasLength a "height" height ∧
      o = .rectangle ⟨x, y⟩ ⟨width, height⟩ := by
  simp only [← numericAttribute_eq_ok_iff]
  constructor
  · intro h
    obtain ⟨x, hx, h⟩ := exists_of_bind_eq_ok h
    obtain ⟨y, hy, h⟩ := exists_of_bind_eq_ok h
    obtain ⟨width, hwidth, h⟩ := exists_of_bind_eq_ok h
    obtain ⟨height, hheight, h⟩ := exists_of_bind_eq_ok h
    cases h
    exact ⟨x, y, width, height, hx, hy, hwidth, hheight, rfl⟩
  · rintro ⟨x, y, width, height, hx, hy, hwidth, hheight, rfl⟩
    rw [rectangle, hx, hy, hwidth, hheight]
    rfl

/-- A rectangle fails as its lengths do. -/
theorem rectangle_eq_error_iff_mapM :
    rectangle a = .error e ↔ lengthNames.mapM (numericAttribute a) = .error e := by
  have hpure : ∀ {α : Type} (r : α), (pure r : Except ConversionError α) ≠ .error e := nofun
  simp only [rectangle, lengthNames, List.mapM_cons, List.mapM_nil, bind_eq_error_iff, hpure,
    and_false, exists_false, or_false]

theorem rectangle_eq_error_iff :
    rectangle a = .error e ↔ ∃ front name back, lengthNames = front ++ name :: back ∧
      (∀ n ∈ front, ∃ x, HasLength a n x) ∧ (∀ x, ¬ HasLength a name x) ∧
      e = .requiredAttribute name (a.get? name) := by
  simp only [rectangle_eq_error_iff_mapM, mapM_eq_error_iff, numericAttribute_eq_ok_iff,
    numericAttribute_eq_error_iff]

end Rectangle

/-- A rectangle is drawn exactly if its four attributes are lengths, and then they are its corner
and its size.  Else it draws nothing, and the error tells the first of them that is absent or no
length, together with its whole text if it has one. -/
theorem rectangle_draws_or_refuses (a : Attributes) :
    (∀ o, rectangle a = .ok o ↔ ∃ x y width height,
      HasLength a "x" x ∧ HasLength a "y" y ∧ HasLength a "width" width ∧
        HasLength a "height" height ∧ o = .rectangle ⟨x, y⟩ ⟨width, height⟩) ∧
    ∀ e, rectangle a = .error e ↔ ∃ front name back, lengthNames = front ++ name :: back ∧
      (∀ n ∈ front, ∃ x, HasLength a n x) ∧ (∀ x, ¬ HasLength a name x) ∧
        e = .requiredAttribute name (a.get? name) :=
  ⟨fun _ => rectangle_eq_ok_iff, fun _ => rectangle_eq_error_iff⟩

/-- The unit is taken away once only. -/
example : rectangle [("x", " 1 px\n"), ("y", "-.5"), ("height", "1e999"), ("width", "2pxpx")] =
    .error (.requiredAttribute "width" (some "2pxpx")) := by decide +kernel

end SvgDrawing.Shape
