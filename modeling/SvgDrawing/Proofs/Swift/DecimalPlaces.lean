import SvgDrawing.Proofs.Double.Grids
import SvgDrawing.Proofs.Double.Places
import SvgDrawing.Proofs.Double.Projection
import SvgDrawing.Proofs.Swift.NumberValue

/-!
# The decimal places of written numbers

No digits are cut off a rounded coordinate when it is written.  That it has no more decimal places
than it was rounded to is so because it is the double nearest to a decimal with these places: that
decimal is read as the double, and so the shortest decimal of the double is on its grid.  Whole
numbers, which are written with all their digits, are on every grid behind the point.
-/
namespace SvgDrawing

-- powers are those of natural numbers, whatever other powers are in scope
attribute [local instance (high)] instPowNat

open PathData

/-- The number that a literal denotes. -/
def PathData.Literal.rational (l : Literal) : ℚ :=
  if l.sign = some '-' then -l.magnitude.value else l.magnitude.value

/-! ## Grids -/

namespace Decimal

variable {d : Decimal} {e e' : ℤ}

theorem OnGrid.of_le (h : d.OnGrid e) (hle : e' ≤ e) : d.OnGrid e' := by
  obtain ⟨k, hk⟩ := h
  obtain ⟨j, hj⟩ := onGrid_of_le (d := ⟨k, e⟩) hle
  exact ⟨j, hk.trans hj⟩

/-- Written or not, a decimal is on the same grids. -/
theorem value_magnitude_literal (h : d.digits ≠ 0) (sign : Option Char) :
    (d.literal sign).magnitude.value = d.value := by
  obtain ⟨j, k, hmagnitude, hdigits⟩ := exists_magnitude_literal h sign
  have hd : d = ⟨Text.digitsValue d.significant * 10 ^ j, d.exponent + j - j⟩ := by
    rw [← hdigits, add_sub_cancel_right]
  rw [hmagnitude, value_shift, ← value_shift _ j, ← hd]

end Decimal

/-! ## Rounded coordinates -/

/-- A rounded coordinate is the double nearest to a decimal with the places that it was rounded
to. -/
theorem Double.exists_nearestUnits_of_roundTo? {s : Bool} {m : ℕ} {h : Double.Representable m}
    {places : ℤ} {y : Double} (hy : (Double.finite s m h).roundTo? places = some y) :
    ∃ (n : ℕ) (hn : Double.Representable n) (k : ℕ), y = .finite s n hn ∧
      Decimal.nearestUnits ⟨k, -max (-309) (min 324 places)⟩ = n := by
  obtain ⟨hn, rfl⟩ := (Double.roundTo?_finite_eq_some_iff s h).mp hy
  exact ⟨_, hn, _, rfl, rfl⟩

namespace Swift

/-- A coordinate that is nearest to a decimal of a grid behind the point is written on this grid. -/
theorem onGrid_magnitude_numberLiteral (negative : Bool) {n k : ℕ} {e : ℤ}
    (h : Double.Representable n) (he : e ≤ 0) (hk : Decimal.nearestUnits ⟨k, e⟩ = n) :
    (numberLiteral negative n).magnitude.OnGrid e := by
  rw [numberLiteral]
  split
  · exact Decimal.onGrid_of_le he
  · next hzero =>
    have hpos : 0 < n := Nat.pos_of_ne_zero hzero
    split
    · exact Decimal.onGrid_of_le he
    · obtain ⟨j, hj⟩ := Decimal.shortest_onGrid hpos h.2 hk
      refine ⟨j, ?_⟩
      rw [Decimal.value_magnitude_literal (Decimal.digits_shortest_ne_zero hpos h.2), hj]

/-- A finite coordinate that is rounded to decimal places behind the point is written as a literal
for a number with these places, however few or many they are. -/
theorem number?_places {x : Double} (hx : x.isFinite) (places : ℕ) :
    ∃ text l, number? places x = some text ∧ Literal.read? text.toList = some (l, []) ∧
      ∃ k : ℤ, l.rational = k / 10 ^ places := by
  obtain ⟨y, hy⟩ := Double.exists_roundTo? (Int.natCast_nonneg places) x
  cases x with
  | nan => cases hx
  | infinite s => cases hx
  | finite s m h =>
    obtain ⟨n, hn, j, rfl, hj⟩ := Double.exists_nearestUnits_of_roundTo? hy
    have hgrid : -(places : ℤ) ≤ -max (-309 : ℤ) (min 324 places) := by omega
    obtain ⟨i, hi⟩ := (onGrid_magnitude_numberLiteral s hn (by omega) hj).of_le hgrid
    rw [zpow_neg, zpow_natCast, ← div_eq_mul_inv] at hi
    refine ⟨_, numberLiteral s n, by rw [number?, hy, Option.map_some], ?_, ?_⟩
    · rw [← text_numberLiteral s hn, Literal.read?_text (wellFormed_numberLiteral s hn)]
    · rw [Literal.rational, hi]
      split
      · exact ⟨-i, by push_cast; ring⟩
      · exact ⟨i, by push_cast; ring⟩

/-- Two units, which are less than `10 ^ -323`, are written as this power of ten if they are
rounded to 323 places or more. -/
theorem number?_places_of_two_units :
    ∃ (h : Double.Representable 2) (l : Literal),
      number? (323 : ℕ) (.finite false 2 h) = some "1e-323" ∧
      Literal.read? "1e-323".toList = some (l, []) ∧ ∃ k : ℤ, l.rational = k / 10 ^ 323 := by
  obtain ⟨h, hwritten⟩ : ∃ h : Double.Representable 2,
      number? (323 : ℕ) (.finite false 2 h) = some "1e-323" := by
    decide +kernel
  obtain ⟨text, l, htext, hread, hplaces⟩ := number?_places (x := .finite false 2 h) rfl 323
  rw [hwritten] at htext
  cases htext
  exact ⟨h, l, hwritten, hread, hplaces⟩

end Swift

end SvgDrawing
