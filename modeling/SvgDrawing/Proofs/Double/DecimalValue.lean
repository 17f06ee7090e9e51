import Mathlib.Algebra.Order.Field.Power
import Mathlib.Algebra.Order.Ring.Rat
import Mathlib.Tactic.Linarith
import Mathlib.Tactic.Positivity
import Mathlib.Tactic.Ring
import SvgDrawing.Proofs.Double.Monotone
import SvgDrawing.Proofs.Double.Reading

/-!
# The numbers that decimals stand for

As rational numbers, decimals with different exponents can be compared with each other and with
magnitudes.  Reading is monotone in them, and a magnitude is read as itself, so all decimals between
a magnitude and one that is read as it are read as it too.

## Main definitions

* `Decimal.value d` — the number that a decimal stands for.
* `Double.magnitude n` — the number that `n` units are.

## Main statements

* `Decimal.value_shift` — zeros at the end of the digits.
* `Decimal.nearestUnits_mono` — reading is monotone.
* `Decimal.nearestUnits_eq_of_le`, `Decimal.nearestUnits_eq_of_ge` — what is read alike.
* `Decimal.value_le_of_nearestUnits` — a decimal is not far above what it is read as.
* `Decimal.magnitude_lt_pow` — a magnitude and the place of its leading digit.
-/
namespace SvgDrawing

-- powers are those of natural numbers, whatever other powers are in scope
attribute [local instance (high)] instPowNat

/-- The number that `n` units are. -/
def Double.magnitude (n : Nat) : ℚ := n / Double.scale

namespace Decimal

open Double hiding add_comm mul_comm

/-- The number that a decimal stands for. -/
def value (d : Decimal) : ℚ := d.digits * 10 ^ d.exponent

variable {d d' : Decimal} {n : Nat}

theorem ten_zpow_pos (e : ℤ) : (0 : ℚ) < 10 ^ e := zpow_pos (by norm_num) e

theorem cast_scale_pos : (0 : ℚ) < Double.scale := Nat.cast_pos.mpr scale_pos

/-- One of the two natural powers is one. -/
theorem ten_pow_toNat (e : ℤ) : (10 : ℚ) ^ e.toNat = 10 ^ e * 10 ^ (-e).toNat := by
  rw [← zpow_natCast, ← zpow_natCast, ← zpow_add₀ (by norm_num)]
  congr 1
  omega

theorem den_pos (d : Decimal) : 0 < d.den := Nat.pow_pos (by decide)

/-- A decimal as a quotient of units. -/
theorem cast_num (d : Decimal) : (d.num : ℚ) = Double.scale * d.value * d.den := by
  simp only [num, den, value, Nat.cast_mul, Nat.cast_pow, Nat.cast_ofNat]
  rw [ten_pow_toNat]
  ring

/-- Zeros at the end of the digits are made up for by the exponent. -/
theorem value_shift (n k : ℕ) (e : ℤ) : value ⟨n * 10 ^ k, e - k⟩ = value ⟨n, e⟩ := by
  simp only [value, Nat.cast_mul, Nat.cast_pow, Nat.cast_ofNat]
  rw [mul_assoc, ← zpow_natCast, ← zpow_add₀ (by norm_num), add_sub_cancel]

/-! ## Comparisons -/

theorem value_le_value_iff : d.value ≤ d'.value ↔ d.num * d'.den ≤ d'.num * d.den := by
  have hden : (0 : ℚ) < d.den * d'.den := by
    exact_mod_cast Nat.mul_pos d.den_pos d'.den_pos
  have hfactor : (0 : ℚ) < Double.scale * (d.den * d'.den) := mul_pos cast_scale_pos hden
  rw [← mul_le_mul_iff_of_pos_right hfactor, ← Nat.cast_le (α := ℚ), Nat.cast_mul, Nat.cast_mul,
    cast_num, cast_num]
  ring_nf

theorem value_le_magnitude_iff : d.value ≤ magnitude n ↔ d.num ≤ n * d.den := by
  rw [magnitude, le_div_iff₀ cast_scale_pos, ← Nat.cast_le (α := ℚ), Nat.cast_mul, cast_num,
    mul_le_mul_iff_of_pos_right (Nat.cast_pos.mpr d.den_pos), mul_comm]

theorem magnitude_le_value_iff : magnitude n ≤ d.value ↔ n * d.den ≤ d.num := by
  rw [magnitude, div_le_iff₀ cast_scale_pos, ← Nat.cast_le (α := ℚ), Nat.cast_mul, cast_num,
    mul_le_mul_iff_of_pos_right (Nat.cast_pos.mpr d.den_pos), mul_comm]

/-- Reading is monotone. -/
theorem nearestUnits_mono (h : d.value ≤ d'.value) : d.nearestUnits ≤ d'.nearestUnits :=
  nearest_mono d.den_pos d'.den_pos (value_le_value_iff.mp h)

theorem nearestUnits_le (hn : spacing n ∣ n) (h : d.value ≤ magnitude n) : d.nearestUnits ≤ n := by
  rw [value_le_magnitude_iff] at h
  calc d.nearestUnits ≤ nearest n 1 := nearest_mono d.den_pos Nat.one_pos (by rwa [Nat.mul_one])
    _ = n := nearest_of_spacing_dvd hn

theorem le_nearestUnits (hn : spacing n ∣ n) (h : magnitude n ≤ d.value) : n ≤ d.nearestUnits := by
  rw [magnitude_le_value_iff] at h
  calc n = nearest n 1 := (nearest_of_spacing_dvd hn).symm
    _ ≤ d.nearestUnits := nearest_mono Nat.one_pos d.den_pos (by rwa [Nat.mul_one])

/-- What lies between a magnitude and a smaller decimal that is read as it is read as it too. -/
theorem nearestUnits_eq_of_le (hn : spacing n ∣ n) (h : d.nearestUnits = n)
    (hle : d.value ≤ d'.value) (hle' : d'.value ≤ magnitude n) : d'.nearestUnits = n :=
  Nat.le_antisymm (nearestUnits_le hn hle') (h ▸ nearestUnits_mono hle)

/-- What lies between a magnitude and a larger decimal that is read as it is read as it too. -/
theorem nearestUnits_eq_of_ge (hn : spacing n ∣ n) (h : d.nearestUnits = n)
    (hle : d'.value ≤ d.value) (hle' : magnitude n ≤ d'.value) : d'.nearestUnits = n :=
  Nat.le_antisymm (h ▸ nearestUnits_mono hle) (le_nearestUnits hn hle')

/-- A decimal that is not read as zero is above what it is read as by half of that at most. -/
theorem value_le_of_nearestUnits (h : d.nearestUnits = n) (hn : n ≠ 0) :
    d.value ≤ 3 / 2 * magnitude n := by
  obtain ⟨m, hm, hle⟩ := exists_nearest_eq d.num d.den_pos
  have hnum : 2 * d.num ≤ 3 * (n * d.den) := by
    have hpos : 1 ≤ m := by
      rcases Nat.eq_zero_or_pos m with rfl | hpos
      · rw [Nat.zero_mul] at hm
        exact absurd (h.symm.trans hm) hn
      · exact hpos
    have hn : n = m * spacing (d.num / d.den) := h.symm.trans hm
    calc 2 * d.num ≤ (2 * m + 1) * (d.den * spacing (d.num / d.den)) := hle
      _ ≤ 3 * m * (d.den * spacing (d.num / d.den)) := Nat.mul_le_mul_right _ (by omega)
      _ = 3 * (n * d.den) := by
        rw [hn]
        ring
  have hcast : (2 : ℚ) * d.num ≤ 3 * (n * d.den) := by exact_mod_cast hnum
  rw [cast_num, ← mul_assoc 2, ← mul_assoc 3,
    mul_le_mul_iff_of_pos_right (Nat.cast_pos.mpr d.den_pos)] at hcast
  rw [magnitude, mul_div_assoc', le_div_iff₀ cast_scale_pos]
  linarith

/-! ## The leading digit -/

/-- A positive magnitude is below the next power of ten. -/
theorem magnitude_lt_pow (hn : 0 < n) : magnitude n < 10 ^ (leadingExponent n + 1) := by
  rw [magnitude, div_lt_iff₀ cast_scale_pos, leadingExponent]
  split
  · -- the digits of the whole part
    generalize hwhole : n / Double.scale = whole
    have hlt : whole < 10 ^ (Nat.toDigits 10 whole).length := lt_pow_length_toDigits whole
    have hnum : n < 10 ^ (Nat.toDigits 10 whole).length * Double.scale :=
      (Nat.div_lt_iff_lt_mul scale_pos).mp (hwhole ▸ hlt)
    rw [sub_add_cancel, zpow_natCast]
    exact_mod_cast hnum
  · next hscale =>
    -- the zeros in front of the first digit
    generalize hparts : (Double.scale - 1) / n = parts
    have hone : 1 ≤ parts := hparts ▸ (Nat.le_div_iff_mul_le hn).mpr (by omega)
    obtain ⟨k, hk⟩ : ∃ k, (Nat.toDigits 10 parts).length = k + 1 :=
      ⟨_, (Nat.sub_add_cancel Nat.length_toDigits_pos).symm⟩
    have hle : 10 ^ k ≤ parts := pow_le_of_length_toDigits hone hk
    have hnum : 10 ^ k * n < Double.scale := by
      have hmul := Nat.mul_le_mul_right n hle
      have hdiv : parts * n ≤ Double.scale - 1 := hparts ▸ Nat.div_mul_le_self _ n
      have := scale_pos
      omega
    have hexponent : -((k + 1 : ℕ) : ℤ) + 1 = -(k : ℤ) := by omega
    rw [hk, hexponent, zpow_neg, zpow_natCast, inv_mul_eq_div, lt_div_iff₀ (by positivity),
      mul_comm]
    exact_mod_cast hnum

end Decimal

end SvgDrawing
