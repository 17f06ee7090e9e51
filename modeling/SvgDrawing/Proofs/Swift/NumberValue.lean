import SvgDrawing.Proofs.PathData.LiteralRow
import SvgDrawing.Proofs.Swift.DecimalLiteral

/-!
# The values of written numbers

A number in source code is a literal of path data as well, and reading it gives the coordinate that
was written (`Swift.parseNumber_number`): a whole number with all its digits, any other one by its
shortest decimal.  Only the sign of a zero is lost, so two coordinates have the same text only if
they are the same number.
-/
namespace SvgDrawing.Swift

open PathData Text

/-- The parts of a written coordinate. -/
def numberLiteral (negative : Bool) (n : Nat) : Literal :=
  if n = 0 then ⟨none, ['0'], none, none⟩
  else if Double.scale ∣ n then
    ⟨Decimal.signOf negative, Nat.toDigits 10 (n / Double.scale), none, none⟩
  else (Decimal.shortest n).literal (Decimal.signOf negative)

section

variable (negative : Bool) {n : Nat} (h : Double.Representable n)

theorem isIntegral_finite_iff : (Double.finite negative n h).isIntegral ↔ Double.scale ∣ n := by
  rw [Double.isIntegral, beq_iff_eq, Nat.dvd_iff_mod_eq_zero]

/-- Put together, the parts are the text. -/
theorem text_numberLiteral :
    (numberLiteral negative n).text = (number (.finite negative n h)).toList := by
  simp only [numberLiteral, number, isIntegral_finite_iff]
  by_cases hzero : n = 0
  · rw [if_pos hzero, if_pos hzero]
    rfl
  · rw [if_neg hzero, if_neg hzero]
    split
    · simp [Literal.text, integerText, Decimal.toList_signOf]
    · rw [Decimal.text_literal, Double.text, String.toList_ofList, Decimal.toList_signOf,
        if_neg hzero]

include h in
theorem wellFormed_numberLiteral : (numberLiteral negative n).WellFormed := by
  rw [numberLiteral]
  split
  · exact Decimal.wellFormed_mk (by simp) (Decimal.areDigits_toDigits 0) (by simp) (by simp)
  · next hzero =>
    split
    · exact Decimal.wellFormed_mk Decimal.isSign_of_mem_signOf (Decimal.areDigits_toDigits _)
        (by simp) (by simp)
    · exact Decimal.wellFormed_literal Decimal.isSign_of_mem_signOf
        (Decimal.digits_shortest_ne_zero (Nat.pos_of_ne_zero hzero) h.2)

/-- The parts have the value of the coordinate, up to the sign of zero. -/
theorem value_numberLiteral :
    (numberLiteral negative n).value.Same (.finite negative n h) := by
  rw [numberLiteral]
  split
  · next hzero =>
    subst hzero
    exact .inr ⟨Double.isZero_ofUnits_zero _ _, rfl⟩
  · next hzero =>
    have hpos : 0 < n := Nat.pos_of_ne_zero hzero
    refine .inl ?_
    split
    · next hscale =>
      have hnum : Decimal.num ⟨n / Double.scale, 0⟩ = n := by
        rw [Decimal.num, Int.toNat_zero, Nat.pow_zero, Nat.mul_one, Nat.mul_div_cancel' hscale]
      simp only [Literal.value, Decimal.signOf_beq, Literal.magnitude, Option.getD_none,
        List.append_nil, Option.map_none, List.length_nil, digitsValue_toDigits, Int.natCast_zero,
        Int.sub_zero]
      rw [Double.ofDecimal_eq, hnum]
      exact Double.ofUnits_of_representable negative h
    · rw [Decimal.value_literal (Decimal.digits_shortest_ne_zero hpos h.2),
        Double.ofDecimal_shortest negative h hpos]

end

/-- A finite coordinate is written as a literal with its value. -/
theorem exists_literal_number {x : Double} (h : x.isFinite) :
    ∃ l : Literal, l.WellFormed ∧ l.text = (number x).toList ∧ l.value.Same x := by
  cases x with
  | nan => cases h
  | infinite s => cases h
  | finite s n k =>
    exact ⟨numberLiteral s n, wellFormed_numberLiteral s k, text_numberLiteral s k,
      value_numberLiteral s k⟩

/-- A written coordinate is read back, up to the sign of zero. -/
theorem parseNumber_number {x : Double} (h : x.isFinite) :
    ∃ y, parseNumber (number x) = .ok y ∧ y.Same x := by
  obtain ⟨l, hl, htext, hvalue⟩ := exists_literal_number h
  have hfinite : l.value.isFinite := by rw [hvalue.isFinite_eq, h]
  have hdenotes : Denotes (number x).toList l.value := ⟨l, hl, htext, hfinite, rfl⟩
  have hparse := hdenotes.parseNumber_eq
  rw [String.ofList_toList] at hparse
  exact ⟨l.value, hparse, hvalue⟩

/-- The words for the infinities and for not-a-number are different. -/
theorem same_of_not_isFinite {x y : Double} (hx : ¬ x.isFinite) (hy : ¬ y.isFinite)
    (h : number x = number y) : x.Same y := by
  have hwords : ∀ s : Bool, number (.infinite s) ≠ number .nan ∧
      ∀ t : Bool, number (.infinite s) = number (.infinite t) → s = t := by decide
  cases x with
  | finite s n k => exact absurd rfl hx
  | nan =>
    cases y with
    | finite t m k => exact absurd rfl hy
    | nan => exact .refl _
    | infinite t => exact absurd h.symm (hwords t).1
  | infinite s =>
    cases y with
    | finite t m k => exact absurd rfl hy
    | nan => exact absurd h (hwords s).1
    | infinite t => exact .inl (congrArg _ ((hwords s).2 t h))

/-- Coordinates have the same text exactly if they are the same number. -/
theorem number_eq_number_iff {x y : Double} : number x = number y ↔ x.Same y := by
  constructor
  · intro heq
    have hfinite : x.isFinite ↔ y.isFinite := by
      have hwords := number_mem_nonNumbers_iff x
      rw [heq, number_mem_nonNumbers_iff, not_iff_not] at hwords
      exact hwords.symm
    by_cases hx : x.isFinite
    · obtain ⟨x', hparse, hsame⟩ := parseNumber_number hx
      obtain ⟨y', hparse', hsame'⟩ := parseNumber_number (hfinite.mp hx)
      rw [heq, hparse'] at hparse
      cases hparse
      exact hsame.symm.trans hsame'
    · exact same_of_not_isFinite hx (fun hy => hx (hfinite.mpr hy)) heq
  · rintro (rfl | ⟨hx, hy⟩)
    · rfl
    · obtain ⟨s, rfl⟩ := Double.eq_zero_of_isZero hx
      obtain ⟨t, rfl⟩ := Double.eq_zero_of_isZero hy
      rfl

end SvgDrawing.Swift
