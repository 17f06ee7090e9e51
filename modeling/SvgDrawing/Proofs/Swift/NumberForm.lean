import SvgDrawing.Proofs.Double.DecimalValue
import SvgDrawing.Proofs.Double.Places
import SvgDrawing.Proofs.Swift.NumberValue

/-!
# The forms of written numbers

A rounded coordinate is written as an integer if it is a whole number, and otherwise positionally or
in scientific notation (`Swift.NumberForm`).  A double that is no whole number is below `2 ^ 53`, so
its leading digit is never so far in front of the point that the exponent would be positive.
-/
namespace SvgDrawing

-- powers are those of natural numbers, whatever other powers are in scope
attribute [local instance (high)] instPowNat

/-! ## The leading digit -/

namespace Decimal

theorem pow_leadingPlace_le_value {d : Decimal} (h : d.digits ≠ 0) :
    (10 : ℚ) ^ d.leadingPlace ≤ d.value := by
  obtain ⟨k, hk⟩ : ∃ k, (Nat.toDigits 10 d.digits).length = k + 1 :=
    ⟨_, (Nat.sub_add_cancel Nat.length_toDigits_pos).symm⟩
  have hle : 10 ^ k ≤ d.digits := pow_le_of_length_toDigits (Nat.pos_of_ne_zero h) hk
  have hcast : (10 : ℚ) ^ k ≤ d.digits := by exact_mod_cast hle
  have hplace : d.leadingPlace = k + d.exponent := by
    rw [leadingPlace, hk]
    omega
  rw [hplace, zpow_add₀ (by norm_num), zpow_natCast, value]
  exact mul_le_mul_of_nonneg_right hcast (ten_zpow_pos _).le

/-- The leading digit of a double that is no whole number has at most fifteen digits between itself
and the point. -/
theorem leadingPlace_shortest_le {n : ℕ} (h : Double.Representable n)
    (hscale : ¬ Double.scale ∣ n) : (shortest n).leadingPlace ≤ 15 := by
  have hpos : 0 < n := Nat.pos_of_ne_zero fun hzero => hscale (hzero ▸ Nat.dvd_zero _)
  refine Int.not_lt.mp fun hplace => ?_
  have hpow : 2 ^ (Double.fractionBits + 53) = Double.scale * 2 ^ (53 : ℕ) := by
    rw [Double.scale, Nat.pow_add]
  have hlarge : Double.magnitude (2 ^ (Double.fractionBits + 53)) ≤ (shortest n).value := by
    calc Double.magnitude (2 ^ (Double.fractionBits + 53)) = 2 ^ 53 := by
          rw [Double.magnitude, hpow, Nat.cast_mul, mul_div_cancel_left₀ _ cast_scale_pos.ne']
          norm_num
      _ ≤ 10 ^ (16 : ℤ) := by norm_num
      _ ≤ 10 ^ (shortest n).leadingPlace := zpow_le_zpow_right₀ (by norm_num) hplace
      _ ≤ (shortest n).value := pow_leadingPlace_le_value (digits_shortest_ne_zero hpos h.2)
  have hle := le_nearestUnits (Double.spacing_two_pow_dvd _) hlarge
  rw [nearestUnits_shortest hpos h.2] at hle
  exact absurd (Double.lt_of_not_scale_dvd h hscale) (Nat.not_lt.mpr hle)

end Decimal

/-! ## Forms -/

namespace Swift

open PathData

/-- An integer, a number with digits on both sides of a point, or one with a single digit in front
of the point, if there is a point, and a negative exponent. -/
inductive NumberForm : List Char → Prop
  | whole {negative : Bool} {digits : List Char} (hdigits : AreDigits digits) :
      NumberForm (Double.signText negative ++ digits)
  | positional {negative : Bool} {whole fraction : List Char} (hwhole : AreDigits whole)
      (hfraction : AreDigits fraction) :
      NumberForm (Double.signText negative ++ (whole ++ '.' :: fraction))
  | scientific {negative : Bool} {digit : Char} {fraction : Option (List Char)}
      {exponent : List Char} (hdigit : digit.isDigit) (hfraction : ∀ s ∈ fraction, AreDigits s)
      (hexponent : AreDigits exponent) :
      NumberForm (Double.signText negative ++
        (digit :: (fraction.map ('.' :: ·)).getD [] ++ 'e' :: '-' :: exponent))

/-- Neither a point nor the mark of an exponent. -/
def IsUnmarked (s : List Char) : Prop := ∀ c ∈ s, c ≠ '.' ∧ c ≠ 'e' ∧ c ≠ 'E'

theorem isUnmarked_integer (negative : Bool) {digits : List Char} (h : AreDigits digits) :
    IsUnmarked (Double.signText negative ++ digits) := by
  refine List.forall_mem_append.mpr ⟨by cases negative <;> simp [Double.signText], ?_⟩
  intro c hc
  have hdigit := h.2 c hc
  refine ⟨?_, ?_, ?_⟩
  all_goals
    rintro rfl
    revert hdigit
    decide

/-- A decimal whose leading digit is not far in front of the point has a point or an exponent. -/
theorem numberForm_literal (negative : Bool) {d : Decimal} (h : d.digits ≠ 0)
    (hplace : d.leadingPlace ≤ 15) :
    NumberForm (d.literal (Decimal.signOf negative)).text ∧
      ¬ IsUnmarked (d.literal (Decimal.signOf negative)).text := by
  rw [Decimal.literal]
  split
  · obtain ⟨whole, fraction, hwhole, hfraction, heq⟩ := Decimal.exists_positionalLiteral_eq
      (Decimal.signOf negative) (Decimal.areDigits_significant h) d.leadingPlace
    have htext : (Literal.mk (Decimal.signOf negative) whole (some fraction) none).text =
        Double.signText negative ++ (whole ++ '.' :: fraction) := by
      simp [Literal.text, Decimal.toList_signOf]
    rw [heq, htext]
    exact ⟨.positional hwhole hfraction, fun hplain => (hplain '.' (by simp)).1 rfl⟩
  · obtain ⟨digit, fraction, hdigit, hfraction, heq⟩ := Decimal.exists_scientificLiteral_eq
      (Decimal.signOf negative) (Decimal.areDigits_significant h) d.leadingPlace
    have hneg : d.leadingPlace < 0 := by omega
    have htext : (Literal.mk (Decimal.signOf negative) [digit] fraction
          (some (Decimal.placeExponent d.leadingPlace))).text =
        Double.signText negative ++ (digit :: (fraction.map ('.' :: ·)).getD [] ++
          'e' :: '-' :: Decimal.exponentDigits d.leadingPlace.natAbs) := by
      simp [Literal.text, Decimal.toList_signOf, Exponent.text, Decimal.placeExponent, hneg]
    rw [heq, htext]
    exact ⟨.scientific hdigit hfraction (Decimal.areDigits_exponentDigits _),
      fun hplain => (hplain 'e' (by simp)).2.1 rfl⟩

/-! ## Coordinates -/

/-- The form of a written coordinate. -/
theorem number_form {x : Double} (h : x.isFinite) :
    NumberForm (number x).toList ∧ (IsUnmarked (number x).toList ↔ x.isIntegral) := by
  cases x with
  | nan => cases h
  | infinite s => cases h
  | finite s n k =>
    rw [← text_numberLiteral, isIntegral_finite_iff, numberLiteral]
    have hinteger : ∀ negative m,
        NumberForm (Double.signText negative ++ Nat.toDigits 10 m) ∧
          IsUnmarked (Double.signText negative ++ Nat.toDigits 10 m) := fun negative m =>
      ⟨.whole (Decimal.areDigits_toDigits m),
        isUnmarked_integer negative (Decimal.areDigits_toDigits m)⟩
    split
    · next hzero =>
      obtain ⟨hform, hplain⟩ := hinteger false 0
      exact ⟨hform, iff_of_true hplain (hzero ▸ Nat.dvd_zero _)⟩
    · next hzero =>
      split
      · next hscale =>
        obtain ⟨hform, hplain⟩ := hinteger s (n / Double.scale)
        have htext : (Literal.mk (Decimal.signOf s) (Nat.toDigits 10 (n / Double.scale)) none
            none).text = Double.signText s ++ Nat.toDigits 10 (n / Double.scale) := by
          simp [Literal.text, Decimal.toList_signOf]
        rw [htext]
        exact ⟨hform, iff_of_true hplain hscale⟩
      · next hscale =>
        have hdigits := Decimal.digits_shortest_ne_zero (Nat.pos_of_ne_zero hzero) k.2
        obtain ⟨hform, hmarked⟩ :=
          numberForm_literal s hdigits (Decimal.leadingPlace_shortest_le k hscale)
        exact ⟨hform, iff_of_false hmarked hscale⟩

/-- A finite coordinate that can be rounded is written as an integer, positionally or with a
negative exponent, and this is read as the rounded value, up to the sign of zero.  There is neither
a point nor an exponent exactly if the rounded value is a whole number, and a zero has no sign. -/
theorem number?_form {x y : Double} {precision : ℤ} (hx : x.isFinite)
    (h : x.roundTo? precision = some y) :
    ∃ text l, number? precision x = some text ∧ NumberForm text.toList ∧
      Literal.read? text.toList = some (l, []) ∧ l.value.Same y ∧
      (y.isZero → text = "0") ∧ (IsUnmarked text.toList ↔ y.isIntegral) := by
  have hy : y.isFinite := by rw [Double.isFinite_roundTo? h, hx]
  obtain ⟨hform, hmark⟩ := number_form hy
  obtain ⟨l, hl, htext, hvalue⟩ := exists_literal_number hy
  refine ⟨number y, l, by rw [number?, h, Option.map_some], hform, ?_, hvalue, ?_, hmark⟩
  · rw [← htext, Literal.read?_text hl]
  · intro hzero
    obtain ⟨s, rfl⟩ := Double.eq_zero_of_isZero hzero
    rfl

/-- A coordinate of which two digits are left, behind the point and four zeros, is written with an
exponent. -/
theorem number?_form_of_two_digits :
    ∃ x y l, x = .ofDecimal true ⟨12345, -9⟩ ∧ x.isFinite ∧ x.roundTo? 6 = some y ∧
      ¬ y.isIntegral ∧ number? 6 x = some "-1.2e-05" ∧ NumberForm "-1.2e-05".toList ∧
      Literal.read? "-1.2e-05".toList = some (l, []) ∧ l.value.Same y := by
  have hfinite : (Double.ofDecimal true ⟨12345, -9⟩).isFinite := by decide +kernel
  have hrounded : (Double.ofDecimal true ⟨12345, -9⟩).roundTo? 6 =
      some (.ofDecimal true ⟨12, -6⟩) := by
    decide +kernel
  have hwritten : number? 6 (.ofDecimal true ⟨12345, -9⟩) = some "-1.2e-05" := by decide +kernel
  obtain ⟨text, l, htext, hform, hread, hvalue, -, hmark⟩ := number?_form hfinite hrounded
  rw [hwritten] at htext
  cases htext
  refine ⟨_, _, l, rfl, hfinite, hrounded, ?_, hwritten, hform, hread, hvalue⟩
  rw [← hmark]
  exact fun hplain => (hplain '.' (by decide)).1 rfl

end Swift

end SvgDrawing
