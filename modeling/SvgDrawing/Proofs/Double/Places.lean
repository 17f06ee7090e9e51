import SvgDrawing.Double.Decimal
import SvgDrawing.Proofs.Double.Rounding

/-!
# Rounding to decimal places

Rounding to places in front of the point may leave the finite doubles, since the last digits of the
largest doubles may go up.  Rounding to places behind it does not: doubles beyond `2 ^ 53` are whole
numbers and stay as they are, and the others move by less than one.  So there always is a result,
`Double.exists_roundTo?`.
-/
namespace SvgDrawing.Double

-- powers are those of natural numbers, whatever other powers are in scope
attribute [local instance (high)] instPowNat

theorem spacing_le_add_one (n : Nat) : spacing n ≤ n + 1 := by
  by_cases hlog : n.log2 ≤ 52
  · rw [spacing_of_log2_le hlog]
    omega
  · have hn : n ≠ 0 := by rintro rfl; simp at hlog
    calc spacing n ≤ 2 ^ n.log2 := Nat.pow_le_pow_right (by decide) (Nat.sub_le _ _)
      _ ≤ n := Nat.log2_self_le hn
      _ ≤ n + 1 := Nat.le_succ n

theorem nearest_le (num den : Nat) : nearest num den ≤ 2 * (num / den) + 1 := by
  have hspacing := spacing_le_add_one (num / den)
  simp only [nearest]
  generalize spacing (num / den) = s at hspacing
  calc divNearest num (den * s) * s
      ≤ (num / (den * s) + 1) * s := Nat.mul_le_mul_right s (divNearest_le _ _)
    _ = num / den / s * s + s := by rw [Nat.div_div_eq_div_mul, Nat.add_mul, Nat.one_mul]
    _ ≤ num / den + s := Nat.add_le_add_right (Nat.div_mul_le_self _ _) s
    _ ≤ 2 * (num / den) + 1 := by omega

/-- A double that is no whole number is far below the limit. -/
theorem lt_of_not_scale_dvd {n : Nat} (h : Representable n) (hscale : ¬ scale ∣ n) :
    n < 2 ^ (fractionBits + 53) := by
  have hlog : n.log2 < fractionBits + 52 := by
    refine Nat.lt_of_not_le fun hlarge => hscale (Nat.dvd_trans ?_ h.2)
    exact Nat.pow_dvd_pow 2 (by omega)
  exact Nat.lt_of_lt_of_le Nat.lt_log2_self (Nat.pow_le_pow_right (by decide) (by omega))

/-- The decimal with `k` places nearest to a finite double is rounded to a finite double. -/
theorem nearest_places_lt_limit {n : Nat} (h : Representable n) (k : Nat) :
    nearest (scale * divNearest (10 ^ k * n) scale) (10 ^ k) < limit := by
  have hk : 0 < 10 ^ k := Nat.pow_pos (by decide)
  by_cases hscale : scale ∣ n
  · have hdigits : scale * divNearest (10 ^ k * n) scale = 10 ^ k * n := by
      have hdvd : scale ∣ 10 ^ k * n := Nat.dvd_trans hscale (Nat.dvd_mul_left _ _)
      rw [divNearest_of_dvd hdvd, Nat.mul_div_cancel' hdvd]
    have hcancel := nearest_mul_mul hk n 1
    rw [Nat.mul_one] at hcancel
    rw [hdigits, hcancel, nearest_of_spacing_dvd h.2]
    exact h.1
  · have hdigits : scale * divNearest (10 ^ k * n) scale ≤ 10 ^ k * (n + scale) := by
      calc scale * divNearest (10 ^ k * n) scale
          ≤ scale * (10 ^ k * n / scale + 1) := Nat.mul_le_mul_left _ (divNearest_le _ _)
        _ = scale * (10 ^ k * n / scale) + scale := by rw [Nat.mul_add, Nat.mul_one]
        _ ≤ 10 ^ k * n + 10 ^ k * scale :=
          Nat.add_le_add (Nat.mul_div_le _ _) (Nat.le_mul_of_pos_left _ hk)
        _ = 10 ^ k * (n + scale) := (Nat.mul_add ..).symm
    have hquotient : scale * divNearest (10 ^ k * n) scale / 10 ^ k ≤ n + scale :=
      Nat.div_le_of_le_mul hdigits
    have hnearest := nearest_le (scale * divNearest (10 ^ k * n) scale) (10 ^ k)
    have hn := lt_of_not_scale_dvd h hscale
    have hlimit : 2 ^ (fractionBits + 55) ≤ limit :=
      Nat.pow_le_pow_right (by decide) (by rw [fractionBits, magnitudeBits]; omega)
    have h53 : 2 ^ (fractionBits + 53) = 2 ^ (53 : Nat) * scale := by
      rw [scale, Nat.pow_add, Nat.mul_comm]
    have h55 : 2 ^ (fractionBits + 55) = 2 ^ (55 : Nat) * scale := by
      rw [scale, Nat.pow_add, Nat.mul_comm]
    have hpos := scale_pos
    omega

/-- Rounding to decimal places behind the point has a result. -/
theorem exists_roundTo? {places : Int} (h : 0 ≤ places) (x : Double) :
    ∃ y, x.roundTo? places = some y := by
  cases x with
  | nan => exact ⟨_, rfl⟩
  | infinite s => exact ⟨_, rfl⟩
  | finite s n hn =>
    obtain ⟨k, hk, hk324⟩ : ∃ k : Nat, max (-309) (min 324 places) = k ∧ k ≤ 324 :=
      ⟨(min 324 places).toNat, by omega, by omega⟩
    have hrounded : nearest (Decimal.ofUnits n k).clamp.num (Decimal.ofUnits n k).clamp.den <
        limit := by
      have hexponent : (Decimal.ofUnits n k).clamp.exponent = -(k : Int) := by
        simp only [Decimal.clamp, Decimal.ofUnits]
        omega
      have hdigits : (Decimal.ofUnits n k).clamp.digits = divNearest (10 ^ k * n) scale := by
        simp [Decimal.clamp, Decimal.ofUnits]
      have hnum : (Decimal.ofUnits n k).clamp.num = scale * divNearest (10 ^ k * n) scale := by
        rw [Decimal.num, hexponent, hdigits]
        simp
      have hden : (Decimal.ofUnits n k).clamp.den = 10 ^ k := by
        rw [Decimal.den, hexponent]
        simp
      rw [hnum, hden]
      exact nearest_places_lt_limit hn k
    simp only [roundTo?, hk, ofDecimal, ofUnits_of_lt s hrounded]
    exact ⟨_, rfl⟩

end SvgDrawing.Double
