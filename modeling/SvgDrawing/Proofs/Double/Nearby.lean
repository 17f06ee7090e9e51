import SvgDrawing.Proofs.Double.Rounding

/-!
# Rounding close to a grid point

What is close enough to a grid point is rounded to it.  Close enough is less than half a spacing
(`nearest_eq_of_close`).  A relative error below `2 ^ -54` is so everywhere (`nearest_eq_of_near`):
it is less than half the spacing above the point and, right below a power of two, less than half of
the spacing that is halved there.
-/
namespace SvgDrawing.Double

-- powers are those of natural numbers, whatever other powers are in scope
attribute [local instance (high)] instPowNat

/-- A quotient is rounded to a whole number less than a half away. -/
theorem divNearest_eq {num den q : Nat} (hbelow : 2 * (q * den) < 2 * num + den)
    (habove : 2 * num < 2 * (q * den) + den) : divNearest num den = q := by
  have hden : 0 < den := by omega
  have hdiv : num / den * den + num % den = num := Nat.div_add_mod' num den
  have hmod : num % den < den := Nat.mod_lt num hden
  simp only [divNearest]
  generalize num / den = a at hdiv
  rcases Nat.lt_trichotomy q a with hlt | rfl | hgt
  · have hstep : (q + 1) * den ≤ a * den := Nat.mul_le_mul_right den hlt
    rw [Nat.succ_mul] at hstep
    omega
  · rw [if_neg (by omega)]
  · rcases Nat.eq_or_lt_of_le (Nat.succ_le_of_lt hgt) with rfl | hfar
    · have hstep : a.succ * den = a * den + den := Nat.succ_mul a den
      rw [if_pos (.inl (by omega))]
    · have hstep : (a + 2) * den ≤ q * den := Nat.mul_le_mul_right den hfar
      rw [Nat.add_mul] at hstep
      omega

/-- Rounding to a whole number is off by half of one at most. -/
theorem divNearest_bounds (num : Nat) {den : Nat} (h : 0 < den) :
    2 * (divNearest num den * den) ≤ 2 * num + den ∧
      2 * num ≤ 2 * (divNearest num den * den) + den := by
  have hdiv : num / den * den + num % den = num := Nat.div_add_mod' num den
  have hmod : num % den < den := Nat.mod_lt num h
  simp only [divNearest]
  split
  · have hstep : (num / den + 1) * den = num / den * den + den := Nat.succ_mul _ den
    omega
  · omega

/-- A quotient less than half a spacing away from a grid point is rounded to it. -/
theorem nearest_eq_of_close {num den v : Nat} (hdvd : spacing (num / den) ∣ v)
    (hbelow : 2 * (v * den) < 2 * num + den * spacing (num / den))
    (habove : 2 * num < 2 * (v * den) + den * spacing (num / den)) : nearest num den = v := by
  obtain ⟨m, hm⟩ := hdvd
  have hproduct : v * den = m * (den * spacing (num / den)) := by
    rw [hm, Nat.mul_comm _ m, Nat.mul_assoc, Nat.mul_comm den]
  rw [hproduct] at hbelow habove
  simp only [nearest]
  rw [divNearest_eq hbelow habove, hm, Nat.mul_comm]

/-- A quotient that differs from `v` by less than `2 ^ -54` of `v`. -/
structure Near (num den v : Nat) : Prop where
  below : 2 ^ (54 : Nat) * (v * den) < 2 ^ (54 : Nat) * num + v * den
  above : 2 ^ (54 : Nat) * num < 2 ^ (54 : Nat) * (v * den) + v * den

section Near

variable {num den v : Nat}

theorem Near.den_pos (h : Near num den v) : 0 < den := by
  rcases Nat.eq_zero_or_pos den with rfl | hpos
  · have := h.above
    omega
  · exact hpos

/-- A grid point is fewer than `2 ^ 53` spacings from zero. -/
theorem lt_mul_spacing (v : Nat) : v < 2 ^ (53 : Nat) * spacing v :=
  (Nat.div_lt_iff_lt_mul (Nat.two_pow_pos _)).mp (div_spacing_lt v)

/-- Above a grid point there is room for a spacing below the next power of two. -/
theorem add_spacing_le (h : spacing v ∣ v) : v + spacing v ≤ 2 ^ (v.log2 + 1) := by
  have hlt : v < 2 ^ (v.log2 + 1) := Nat.lt_log2_self
  have hpow : spacing v ∣ 2 ^ (v.log2 + 1) := Nat.pow_dvd_pow 2 (by omega)
  have hle : spacing v ≤ 2 ^ (v.log2 + 1) - v :=
    Nat.le_of_dvd (Nat.sub_pos_of_lt hlt) (Nat.dvd_sub hpow h)
  omega

/-- A grid point above a power of two is above it by a spacing. -/
theorem two_pow_add_spacing_le (h : spacing v ∣ v) (hlt : 2 ^ v.log2 < v) :
    2 ^ v.log2 + spacing v ≤ v := by
  have hpow : spacing v ∣ 2 ^ v.log2 := Nat.pow_dvd_pow 2 (Nat.sub_le _ _)
  have hle : spacing v ≤ v - 2 ^ v.log2 :=
    Nat.le_of_dvd (Nat.sub_pos_of_lt hlt) (Nat.dvd_sub h hpow)
  omega

theorem Near.log2_le (h : Near num den v) (hdvd : spacing v ∣ v) : (num / den).log2 ≤ v.log2 := by
  have hlt : num < 2 ^ (v.log2 + 1) * den := by
    have hroom := Nat.mul_le_mul_right den (add_spacing_le hdvd)
    have hhalf := Nat.mul_lt_mul_of_pos_right (lt_mul_spacing v) h.den_pos
    have habove := h.above
    rw [Nat.add_mul] at hroom
    rw [Nat.mul_assoc] at hhalf
    omega
  have hquotient : num / den < 2 ^ (v.log2 + 1) := (Nat.div_lt_iff_lt_mul h.den_pos).mpr hlt
  rcases Nat.eq_zero_or_pos (num / den) with hzero | hpos
  · rw [hzero]
    exact Nat.zero_le _
  · exact Nat.le_of_lt_succ ((Nat.log2_lt (Nat.ne_of_gt hpos)).mpr hquotient)

/-- The spacing at the quotient is at most halved, and only if the point is a power of two. -/
theorem Near.le_mul_spacing (h : Near num den v) (hdvd : spacing v ∣ v) (hv : v ≠ 0) :
    v ≤ 2 ^ (53 : Nat) * spacing (num / den) := by
  have hpow : 2 ^ v.log2 ≤ v := Nat.log2_self_le hv
  have hbelow := h.below
  have hspacing : 2 ^ (53 : Nat) * spacing (num / den) = 2 ^ (53 + ((num / den).log2 - 52)) := by
    rw [spacing, Nat.pow_add]
  by_cases hquotient : 2 ^ v.log2 ≤ num / den
  · have hlog : v.log2 ≤ (num / den).log2 :=
      (Nat.le_log2 (by have := Nat.two_pow_pos v.log2; omega)).mpr hquotient
    rw [hspacing]
    calc v ≤ 2 ^ (v.log2 + 1) := Nat.le_of_lt Nat.lt_log2_self
      _ ≤ 2 ^ (53 + ((num / den).log2 - 52)) := Nat.pow_le_pow_right (by decide) (by omega)
  · have hnum : num < 2 ^ v.log2 * den :=
      (Nat.div_lt_iff_lt_mul h.den_pos).mp (Nat.lt_of_not_le hquotient)
    -- any other grid point is a spacing above the power of two, too far from the quotient
    have hv : v = 2 ^ v.log2 := by
      rcases Nat.eq_or_lt_of_le hpow with heq | hlt
      · exact heq.symm
      · have hroom := Nat.mul_le_mul_right den (two_pow_add_spacing_le hdvd hlt)
        have hhalf := Nat.mul_lt_mul_of_pos_right (lt_mul_spacing v) h.den_pos
        rw [Nat.add_mul] at hroom
        rw [Nat.mul_assoc] at hhalf
        omega
    have hlog : v.log2 - 1 ≤ (num / den).log2 := by
      rcases Nat.eq_zero_or_pos v.log2 with hzero | hpos
      · omega
      · have hdouble : v * den = 2 * (2 ^ (v.log2 - 1) * den) := by
          rw [← Nat.mul_assoc, ← Nat.pow_succ', Nat.succ_eq_add_one, Nat.sub_add_cancel hpos, ← hv]
        have hle : 2 ^ (v.log2 - 1) ≤ num / den :=
          (Nat.le_div_iff_mul_le h.den_pos).mpr (by omega)
        exact (Nat.le_log2 (by have := Nat.two_pow_pos (v.log2 - 1); omega)).mpr hle
    rw [hspacing]
    calc v ≤ 2 ^ v.log2 := Nat.le_of_eq hv
      _ ≤ 2 ^ (53 + ((num / den).log2 - 52)) := Nat.pow_le_pow_right (by decide) (by omega)

/-- A quotient with a relative error below `2 ^ -54` is rounded to the grid point. -/
theorem nearest_eq_of_near (h : Near num den v) (hdvd : spacing v ∣ v) (hv : v ≠ 0) :
    nearest num den = v := by
  have hhalf := Nat.mul_le_mul_right den (h.le_mul_spacing hdvd hv)
  rw [Nat.mul_assoc, Nat.mul_comm (spacing _) den] at hhalf
  have hbelow := h.below
  have habove := h.above
  refine nearest_eq_of_close ?_ (by omega) (by omega)
  exact Nat.dvd_trans (Nat.pow_dvd_pow 2 (Nat.sub_le_sub_right (h.log2_le hdvd) 52)) hdvd

end Near

end SvgDrawing.Double
