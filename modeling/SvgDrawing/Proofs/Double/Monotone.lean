import SvgDrawing.Proofs.Double.Nearby

/-!
# Rounding is monotone

A larger quotient has no smaller rounding: with the same spacing because that is so of whole
numbers, and otherwise because a power of two lies between the roundings.  So what lies between two
quotients with one rounding has this rounding too.
-/
namespace SvgDrawing.Double

-- powers are those of natural numbers, whatever other powers are in scope
attribute [local instance (high)] instPowNat

theorem divNearest_mono {num num' : Nat} (h : num ≤ num') (den : Nat) :
    divNearest num den ≤ divNearest num' den := by
  have hquotient : num / den ≤ num' / den := Nat.div_le_div_right h
  rcases Nat.lt_or_eq_of_le hquotient with hlt | heq
  · calc divNearest num den ≤ num / den + 1 := divNearest_le _ _
      _ ≤ num' / den := hlt
      _ ≤ divNearest num' den := div_le_divNearest _ _
  · have hrest : num % den ≤ num' % den := by
      have hdiv := Nat.div_add_mod num den
      have hdiv' := Nat.div_add_mod num' den
      rw [heq] at hdiv
      omega
    simp only [divNearest, heq]
    split
    · refine Nat.le_of_eq ?_
      rw [if_pos (by omega)]
    · split <;> omega

theorem log2_mono {m n : Nat} (h : m ≤ n) : m.log2 ≤ n.log2 := by
  rcases Nat.eq_zero_or_pos m with rfl | hm
  · exact Nat.zero_le _
  · have hm : m ≠ 0 := Nat.ne_of_gt hm
    have hn : n ≠ 0 := by omega
    exact (Nat.le_log2 hn).mpr (Nat.le_trans (Nat.log2_self_le hm) h)

theorem spacing_mono {m n : Nat} (h : m ≤ n) : spacing m ≤ spacing n :=
  Nat.pow_le_pow_right (by decide) (Nat.sub_le_sub_right (log2_mono h) 52)

/-- A larger numerator has no smaller rounding. -/
theorem nearest_le_nearest {num num' : Nat} (h : num ≤ num') (den : Nat) :
    nearest num den ≤ nearest num' den := by
  have hquotient : num / den ≤ num' / den := Nat.div_le_div_right h
  rcases Nat.eq_or_lt_of_le (spacing_mono hquotient) with heq | hlt
  · simp only [nearest, heq]
    exact Nat.mul_le_mul_right _ (divNearest_mono h _)
  · -- a power of two lies between
    have hlog : (num / den).log2 + 1 ≤ (num' / den).log2 := by
      refine Nat.lt_of_not_le fun hle => Nat.not_le_of_lt hlt ?_
      exact Nat.pow_le_pow_right (by decide) (Nat.sub_le_sub_right hle 52)
    have hne : num' / den ≠ 0 := by
      intro hzero
      rw [hzero] at hlog
      simp at hlog
    calc nearest num den ≤ 2 ^ ((num / den).log2 + 1) := nearest_le_two_pow _ _
      _ ≤ 2 ^ (num' / den).log2 := Nat.pow_le_pow_right (by decide) hlog
      _ ≤ nearest num' den := two_pow_le_nearest _ _ hne

/-- A larger quotient has no smaller rounding. -/
theorem nearest_mono {num den num' den' : Nat} (hden : 0 < den) (hden' : 0 < den')
    (h : num * den' ≤ num' * den) : nearest num den ≤ nearest num' den' := by
  rw [← nearest_mul_mul hden' num den, ← nearest_mul_mul hden num' den', Nat.mul_comm den' den,
    Nat.mul_comm den' num, Nat.mul_comm den num']
  exact nearest_le_nearest h _

/-- A quotient is above its rounding by half of the spacing at most, and the rounding is a number
of spacings. -/
theorem exists_nearest_eq (num : Nat) {den : Nat} (hden : 0 < den) :
    ∃ m, nearest num den = m * spacing (num / den) ∧
      2 * num ≤ (2 * m + 1) * (den * spacing (num / den)) := by
  refine ⟨divNearest num (den * spacing (num / den)), rfl, ?_⟩
  have hpos : 0 < den * spacing (num / den) := Nat.mul_pos hden (Nat.two_pow_pos _)
  rw [Nat.add_mul, Nat.one_mul, Nat.mul_assoc]
  exact (divNearest_bounds num hpos).2

end SvgDrawing.Double
