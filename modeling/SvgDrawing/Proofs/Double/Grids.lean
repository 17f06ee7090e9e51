import SvgDrawing.Proofs.Double.DecimalValue

/-!
# The grids of the shortest decimal

The search for the shortest decimal of a double stops at the first grid that has a decimal that is
read as the double: reading is monotone, so if any decimal of a grid is, one of the two neighbours
of the double is.  The shortest decimal is therefore on every grid that has one,
`Decimal.shortest_onGrid`.

A grid that is too coarse for the double to have a digit on it is never tried.  If one of its
decimals is read as the double, the double is right below the power of ten, close enough for its
nearest neighbour on the first grid that is tried to be that power.
-/
namespace SvgDrawing.Decimal

-- powers are those of natural numbers, whatever other powers are in scope
attribute [local instance (high)] instPowNat

open Double hiding add_comm mul_comm

/-- The decimal is a multiple of `10 ^ e`. -/
def OnGrid (d : Decimal) (e : ℤ) : Prop := ∃ k : ℕ, d.value = k * 10 ^ e

theorem onGrid_of_le {d : Decimal} {e : ℤ} (h : e ≤ d.exponent) : d.OnGrid e := by
  obtain ⟨i, hi⟩ : ∃ i : ℕ, e = d.exponent - i := ⟨(d.exponent - e).toNat, by omega⟩
  refine ⟨d.digits * 10 ^ i, ?_⟩
  rw [hi]
  exact (value_shift d.digits i d.exponent).symm

variable {n k grids : ℕ} {e first : ℤ}

/-! ## One grid -/

/-- The digits of the neighbour below a magnitude. -/
def digitsBelow (n : ℕ) (e : ℤ) : ℕ := 10 ^ (-e).toNat * n / (scale * 10 ^ e.toNat)

/-- The neighbours are tried in the order of their distance. -/
theorem onGrid?_eq (n : ℕ) (e : ℤ) :
    ∃ near far, (near = digitsBelow n e ∧ far = digitsBelow n e + 1 ∨
        near = digitsBelow n e + 1 ∧ far = digitsBelow n e) ∧
      near = (ofUnits n (-e)).digits ∧
      onGrid? n e = if readsBack n ⟨near, e⟩ then some ⟨near, e⟩
        else if readsBack n ⟨far, e⟩ then some ⟨far, e⟩ else none := by
  have hlow := div_le_divNearest (10 ^ (-e).toNat * n) (scale * 10 ^ (- -e).toNat)
  have hhigh := divNearest_le (10 ^ (-e).toNat * n) (scale * 10 ^ (- -e).toNat)
  rw [neg_neg] at hlow hhigh
  refine ⟨(ofUnits n (-e)).digits,
    if (ofUnits n (-e)).digits = digitsBelow n e then digitsBelow n e + 1 else digitsBelow n e,
    ?_, rfl, ?_⟩
  · simp only [ofUnits, digitsBelow, neg_neg] at hlow hhigh ⊢
    split <;> omega
  · have hnear : ofUnits n (-e) = ⟨(ofUnits n (-e)).digits, e⟩ := by
      rw [ofUnits, neg_neg]
    rw [onGrid?, hnear]
    rfl

theorem value_digitsBelow_le (n : ℕ) (e : ℤ) : value ⟨digitsBelow n e, e⟩ ≤ magnitude n := by
  rw [value_le_magnitude_iff, num, den, Nat.mul_comm n]
  exact Nat.mul_div_le _ _

theorem magnitude_le_value_digitsBelow (n : ℕ) (e : ℤ) :
    magnitude n ≤ value ⟨digitsBelow n e + 1, e⟩ := by
  have hpos : 0 < scale * 10 ^ e.toNat := Nat.mul_pos scale_pos (Nat.pow_pos (by decide))
  rw [magnitude_le_value_iff, num, den, Nat.mul_comm n]
  exact Nat.le_of_lt (Nat.lt_mul_div_succ _ hpos)

theorem value_mono {j : ℕ} (h : j ≤ k) (e : ℤ) : value ⟨j, e⟩ ≤ value ⟨k, e⟩ :=
  mul_le_mul_of_nonneg_right (Nat.cast_le.mpr h) (ten_zpow_pos e).le

/-- If a decimal of a grid is read as the magnitude, a neighbour is. -/
theorem isSome_onGrid? (hn : spacing n ∣ n) (h : nearestUnits ⟨k, e⟩ = n) :
    (onGrid? n e).isSome := by
  have hneighbour : readsBack n ⟨digitsBelow n e, e⟩ ∨ readsBack n ⟨digitsBelow n e + 1, e⟩ := by
    simp only [readsBack, beq_iff_eq]
    rcases Nat.lt_or_ge (digitsBelow n e) k with habove | hbelow
    · exact .inr (nearestUnits_eq_of_ge hn h (value_mono habove e)
        (magnitude_le_value_digitsBelow n e))
    · exact .inl (nearestUnits_eq_of_le hn h (value_mono hbelow e) (value_digitsBelow_le n e))
  obtain ⟨near, far, hdigits, -, hgrid⟩ := onGrid?_eq n e
  rw [hgrid]
  split
  · rfl
  · next hnear =>
    rw [if_pos]
    · rfl
    · rcases hdigits with ⟨rfl, rfl⟩ | ⟨rfl, rfl⟩
      · exact hneighbour.resolve_left hnear
      · exact hneighbour.resolve_right hnear

theorem exponent_of_onGrid? {d : Decimal} (h : onGrid? n e = some d) : d.exponent = e := by
  obtain ⟨near, far, -, -, hgrid⟩ := onGrid?_eq n e
  rw [hgrid] at h
  split at h
  · cases h
    rfl
  · split at h
    · cases h
      rfl
    · cases h

/-! ## The search -/

/-- The search does not go beyond a grid where a decimal is read as the magnitude. -/
theorem le_exponent_search (hn : spacing n ∣ n) (h : nearestUnits ⟨k, e⟩ = n)
    (hfirst : e ≤ first) : e ≤ (search n grids first).exponent := by
  induction grids generalizing first with
  | zero =>
    rw [search_zero, ofUnits, neg_neg]
    exact hfirst
  | succ grids ih =>
    rw [search_succ]
    cases hgrid : onGrid? n first with
    | some d =>
      rw [← exponent_of_onGrid? hgrid] at hfirst
      exact hfirst
    | none =>
      refine ih (Int.le_sub_one_of_lt (lt_of_le_of_ne hfirst ?_))
      rintro rfl
      have hsome := isSome_onGrid? hn h
      rw [hgrid] at hsome
      cases hsome

/-! ## Right below a power of ten -/

theorem value_ten (e : ℤ) : value ⟨10, e⟩ = 10 ^ (e + 1) := by
  rw [value, zpow_add_one₀ (by norm_num), mul_comm]
  rfl

/-- Fewer than ten units, where the spacing does not shrink with the number.  Only two units are
right below a power of ten. -/
theorem digits_ofUnits_few : ∀ n < 10, n ≠ 0 → nearestUnits ⟨10, leadingExponent n⟩ = n →
    (ofUnits n (-leadingExponent n)).digits = 10 := by
  decide +kernel

/-- Ten units or more are ten spacings or more. -/
theorem ten_mul_spacing_le {num den : ℕ} (h : 10 ≤ nearest num den) :
    10 * spacing (num / den) ≤ nearest num den := by
  rcases Nat.lt_or_ge 52 (num / den).log2 with hlarge | hsmall
  · have hne : num / den ≠ 0 := by
      intro hzero
      simp [hzero] at hlarge
    calc 10 * spacing (num / den) ≤ 2 ^ (52 : ℕ) * spacing (num / den) :=
          Nat.mul_le_mul_right _ (by decide)
      _ = 2 ^ (num / den).log2 := by
        rw [spacing, ← Nat.pow_add]
        congr 1
        omega
      _ ≤ nearest num den := two_pow_le_nearest _ _ hne
  · rwa [spacing_of_log2_le hsmall]

/-- If the next power of ten is read as a magnitude, it is the nearest neighbour. -/
theorem digits_ofUnits_of_power (hpos : 0 < n)
    (h : nearestUnits ⟨10, leadingExponent n⟩ = n) :
    (ofUnits n (-leadingExponent n)).digits = 10 := by
  rcases Nat.lt_or_ge n 10 with hfew | hmany
  · exact digits_ofUnits_few n hfew (Nat.ne_of_gt hpos) h
  have hlt : ¬ value ⟨10, leadingExponent n⟩ ≤ magnitude n := by
    rw [value_ten]
    exact not_le_of_gt (magnitude_lt_pow hpos)
  rw [value_le_magnitude_iff] at hlt
  have hspacing := ten_mul_spacing_le (h.symm ▸ hmany)
  obtain ⟨m, hm, hbound⟩ := exists_nearest_eq (num ⟨10, leadingExponent n⟩) (den_pos _)
  rw [← nearestUnits, h] at hspacing hm
  simp only [ofUnits, neg_neg, num, den] at hlt hbound hspacing hm ⊢
  generalize 10 ^ (-leadingExponent n).toNat = d at hlt hbound hspacing hm ⊢
  generalize scale * 10 ^ (leadingExponent n).toNat = b at hlt hbound hspacing hm ⊢
  generalize spacing (b * 10 / d) = s at hbound hspacing hm
  -- the power is half a spacing above the magnitude at most, nearer than its nine tenths
  have hhalf : 10 * (d * s) ≤ d * n := by
    rw [Nat.mul_left_comm]
    exact Nat.mul_le_mul_left d hspacing
  have hmul : m * (d * s) = d * n := by rw [hm, Nat.mul_left_comm]
  rw [Nat.add_mul, Nat.one_mul, Nat.mul_assoc, hmul] at hbound
  rw [Nat.mul_comm n] at hlt
  exact divNearest_eq (by omega) (by omega)

/-- The search stops at the first grid with a power of ten that is read as the magnitude. -/
theorem shortest_of_power (hpos : 0 < n) (h : nearestUnits ⟨10, leadingExponent n⟩ = n) :
    shortest n = ⟨10, leadingExponent n⟩ := by
  obtain ⟨near, far, -, hnear, hgrid⟩ := onGrid?_eq n (leadingExponent n)
  rw [digits_ofUnits_of_power hpos h] at hnear
  subst hnear
  have hreads : readsBack n ⟨10, leadingExponent n⟩ := beq_iff_eq.mpr h
  rw [if_pos hreads] at hgrid
  rw [shortest, search_succ, hgrid]

/-- The shortest decimal of a magnitude is on each grid where a decimal is read as the magnitude. -/
theorem shortest_onGrid (hpos : 0 < n) (hn : spacing n ∣ n) (h : nearestUnits ⟨k, e⟩ = n) :
    (shortest n).OnGrid e := by
  rcases Int.lt_or_le (leadingExponent n) e with hcoarse | hfine
  · -- the decimal is above the next power of ten, and not far above
    have hk : (1 : ℚ) ≤ k := by
      rcases Nat.eq_zero_or_pos k with rfl | hk
      · have hzero : nearestUnits ⟨0, e⟩ = 0 := nearest_eq_zero (by simp [num, den_pos])
        exact absurd (h.symm.trans hzero) (Nat.ne_of_gt hpos)
      · exact_mod_cast hk
    have hge : (10 : ℚ) ^ e ≤ value ⟨k, e⟩ := le_mul_of_one_le_left (ten_zpow_pos e).le hk
    have hpower : nearestUnits ⟨10, leadingExponent n⟩ = n := by
      apply nearestUnits_eq_of_ge hn h
      · rw [value_ten]
        exact (zpow_le_zpow_right₀ (by norm_num) hcoarse).trans hge
      · rw [value_ten]
        exact (magnitude_lt_pow hpos).le
    have he : e = leadingExponent n + 1 := by
      refine le_antisymm (Int.not_lt.mp fun hlt => ?_) hcoarse
      have hstep : (10 : ℚ) ^ (leadingExponent n + 1 + 1) ≤ 10 ^ e :=
        zpow_le_zpow_right₀ (by norm_num) hlt
      rw [zpow_add_one₀ (by norm_num)] at hstep
      have hclose := value_le_of_nearestUnits h (Nat.ne_of_gt hpos)
      have hbelow := magnitude_lt_pow hpos
      have hten := ten_zpow_pos (leadingExponent n + 1)
      linarith
    refine ⟨1, ?_⟩
    rw [shortest_of_power hpos hpower, value_ten, he, Nat.cast_one, one_mul]
  · exact onGrid_of_le (le_exponent_search hn h hfine)

end SvgDrawing.Decimal
