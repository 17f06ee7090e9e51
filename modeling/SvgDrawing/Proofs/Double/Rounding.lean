import SvgDrawing.Double.Basic

/-!
# Rounding to the grid

Grid points are their own roundings, a common factor of a quotient does not matter, and rounding
stays between the powers of two around a quotient.  From these bounds follows which whole numbers
round beyond the finite doubles: those from half a spacing below the limit on, since the tie there
goes up (`nearest_lt_limit_iff`).
-/
namespace SvgDrawing.Double

-- powers are those of natural numbers, whatever other powers are in scope
attribute [local instance (high)] instPowNat

theorem divNearest_mul_mul {k : Nat} (hk : 0 < k) (num den : Nat) :
    divNearest (k * num) (k * den) = divNearest num den := by
  simp only [divNearest, Nat.mul_div_mul_left num den hk, Nat.mul_mod_mul_left]
  have hlt : k * den < 2 * (k * (num % den)) ↔ den < 2 * (num % den) := by
    rw [Nat.mul_left_comm, Nat.mul_lt_mul_left hk]
  have heq : 2 * (k * (num % den)) = k * den ↔ 2 * (num % den) = den := by
    rw [Nat.mul_left_comm, Nat.mul_right_inj (by omega)]
  simp only [hlt, heq]

/-- A common factor of numerator and denominator does not change a rounding. -/
theorem nearest_mul_mul {k : Nat} (hk : 0 < k) (num den : Nat) :
    nearest (k * num) (k * den) = nearest num den := by
  simp only [nearest, Nat.mul_div_mul_left num den hk, Nat.mul_assoc, divNearest_mul_mul hk]

/-- A multiple is divided without rounding. -/
theorem divNearest_of_dvd {num den : Nat} (h : den ∣ num) : divNearest num den = num / den := by
  have hmod : num % den = 0 := Nat.mod_eq_zero_of_dvd h
  simp only [divNearest, hmod]
  rw [if_neg]
  rintro (hlt | ⟨rfl, hodd⟩)
  · omega
  · simp at hodd

/-- A grid point is its own rounding. -/
theorem nearest_of_spacing_dvd {n : Nat} (h : spacing n ∣ n) : nearest n 1 = n := by
  simp only [nearest, Nat.div_one, Nat.one_mul]
  rw [divNearest_of_dvd h, Nat.div_mul_cancel h]

theorem spacing_of_log2_le {n : Nat} (h : n.log2 ≤ 52) : spacing n = 1 := by
  rw [spacing, Nat.sub_eq_zero_of_le h, Nat.pow_zero]

theorem spacing_two_pow_dvd (bits : Nat) : spacing (2 ^ bits) ∣ 2 ^ bits := by
  rw [spacing, Nat.log2_two_pow]
  exact Nat.pow_dvd_pow 2 (Nat.sub_le _ _)

/-- The quotient by the spacing has at most 53 binary digits. -/
theorem div_spacing_lt (n : Nat) : n / spacing n < 2 ^ (53 : Nat) := by
  refine (Nat.div_lt_iff_lt_mul (Nat.two_pow_pos _)).mpr ?_
  rw [← Nat.pow_add]
  exact Nat.lt_of_lt_of_le Nat.lt_log2_self (Nat.pow_le_pow_right (by decide) (by omega))

/-- Rounding stays at or below the next power of two. -/
theorem nearest_le_two_pow (num den : Nat) : nearest num den ≤ 2 ^ ((num / den).log2 + 1) := by
  simp only [nearest]
  generalize hs : spacing (num / den) = s
  have hpos : 0 < s := hs ▸ Nat.two_pow_pos _
  have hdvd : s ∣ 2 ^ ((num / den).log2 + 1) := hs ▸ Nat.pow_dvd_pow 2 (by omega)
  have hlt : num / den / s < 2 ^ ((num / den).log2 + 1) / s := by
    rw [Nat.div_lt_iff_lt_mul hpos, Nat.div_mul_cancel hdvd]
    exact Nat.lt_log2_self
  calc divNearest num (den * s) * s
      ≤ (num / (den * s) + 1) * s := Nat.mul_le_mul_right s (divNearest_le _ _)
    _ ≤ 2 ^ ((num / den).log2 + 1) / s * s := by
      rw [← Nat.div_div_eq_div_mul]
      exact Nat.mul_le_mul_right s hlt
    _ = 2 ^ ((num / den).log2 + 1) := Nat.div_mul_cancel hdvd

/-- Rounding stays at or above the power of two before. -/
theorem two_pow_le_nearest (num den : Nat) (h : num / den ≠ 0) :
    2 ^ (num / den).log2 ≤ nearest num den := by
  simp only [nearest]
  generalize hs : spacing (num / den) = s
  have hdvd : s ∣ 2 ^ (num / den).log2 := hs ▸ Nat.pow_dvd_pow 2 (Nat.sub_le _ _)
  calc 2 ^ (num / den).log2 = 2 ^ (num / den).log2 / s * s := (Nat.div_mul_cancel hdvd).symm
    _ ≤ num / (den * s) * s := by
      rw [← Nat.div_div_eq_div_mul]
      exact Nat.mul_le_mul_right s (Nat.div_le_div_right (Nat.log2_self_le h))
    _ ≤ divNearest num (den * s) * s := Nat.mul_le_mul_right s (div_le_divNearest _ _)

/-- Half a spacing below a power of two that has 53 digits in front of it, the roundings
reach the power.  The tie goes up, as the last point before the power is odd. -/
theorem nearest_lt_two_pow_iff {bits : Nat} (h : 54 ≤ bits) (n : Nat) :
    nearest n 1 < 2 ^ bits ↔ n < 2 ^ bits - 2 ^ (bits - 54) := by
  obtain ⟨k, rfl⟩ : ∃ k, bits = k + 54 := ⟨bits - 54, by omega⟩
  have hk : 0 < 2 ^ k := Nat.two_pow_pos k
  have hbits : 2 ^ (k + 54) = 2 ^ 54 * 2 ^ k := by rw [Nat.pow_add, Nat.mul_comm]
  have hhalf : 2 ^ (k + 53) = 2 ^ 53 * 2 ^ k := by rw [Nat.pow_add, Nat.mul_comm]
  rw [Nat.add_sub_cancel]
  rcases Nat.eq_zero_or_pos n with rfl | hn
  · simp only [nearest_of_spacing_dvd (Nat.dvd_zero _)]
    omega
  rcases Nat.lt_trichotomy n.log2 (k + 53) with hlt | heq | hgt
  · -- both sides hold well below the power
    have hle : 2 ^ (n.log2 + 1) ≤ 2 ^ (k + 53) := Nat.pow_le_pow_right (by decide) hlt
    have h₁ := nearest_le_two_pow n 1
    rw [Nat.div_one] at h₁
    have h₂ : n < 2 ^ (n.log2 + 1) := Nat.lt_log2_self
    omega
  · -- the last binade, where the spacing is `2 * 2 ^ k`
    have hs : spacing n = 2 * 2 ^ k := by
      rw [spacing, heq, show k + 53 - 52 = k + 1 by omega, Nat.pow_succ, Nat.mul_comm]
    have hq := div_spacing_lt n
    have hdiv := Nat.div_add_mod n (spacing n)
    have hmod : n % spacing n < spacing n := Nat.mod_lt _ (Nat.two_pow_pos _)
    have hstep : nearest n 1 < 2 ^ (k + 54) ↔ divNearest n (spacing n) < 2 ^ 53 := by
      simp only [nearest, Nat.div_one, Nat.one_mul]
      rw [show 2 ^ (k + 54) = 2 ^ 53 * spacing n by rw [hs, hbits]; omega]
      exact Nat.mul_lt_mul_right (Nat.two_pow_pos _)
    rw [hstep]
    rw [hs] at hq hdiv hmod ⊢
    rw [hbits]
    generalize 2 ^ k = half at *
    rcases Nat.lt_or_eq_of_le (Nat.le_of_lt_succ hq) with hsmall | hlast
    · have hle := divNearest_le n (2 * half)
      have hprod : 2 * half * (n / (2 * half)) ≤ 2 * half * (2 ^ 53 - 2) :=
        Nat.mul_le_mul_left _ (by omega)
      constructor
      · intro _; omega
      · intro _; omega
    · -- the last point before the power is odd, so from half the spacing on it is left
      simp only [divNearest, hlast, Nat.reduceMod, and_true] at hdiv ⊢
      split <;> omega
  · -- both sides fail beyond the power
    have hle : 2 ^ (k + 54) ≤ 2 ^ n.log2 := Nat.pow_le_pow_right (by decide) hgt
    have h₁ := two_pow_le_nearest n 1
    rw [Nat.div_one] at h₁
    have h₁ := h₁ (Nat.ne_of_gt hn)
    have h₂ := Nat.log2_self_le (Nat.ne_of_gt hn)
    omega

end SvgDrawing.Double
