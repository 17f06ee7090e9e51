import SvgDrawing.Double.Decimal
import SvgDrawing.Proofs.Double.Mirror
import SvgDrawing.Proofs.Double.Nearby

/-!
# Decimals that are read

A decimal is read as the double nearest to it, however its digits and its exponent share the work
and however far out the exponent is.  The shortest decimal of a double is read as this double,
`Decimal.nearestUnits_shortest`: a decimal of the search is tried before it is taken, and the last
one, which is not, has seventeen digits, so it differs from the double by less than `2 ^ -54` of it.
-/
namespace SvgDrawing

-- powers are those of natural numbers, whatever other powers are in scope
attribute [local instance (high)] instPowNat

namespace Double

theorem ofUnits_congr (negative : Bool) {num den num' den' : Nat}
    (h : nearest num den = nearest num' den') :
    ofUnits negative num den = ofUnits negative num' den' := by
  rcases Nat.lt_or_ge (nearest num' den') limit with hlt | hle
  · rw [ofUnits_of_lt negative hlt, ofUnits_of_lt negative (by rw [h]; exact hlt)]
    simp only [h]
  · rw [ofUnits_of_le negative hle, ofUnits_of_le negative (by rw [h]; exact hle)]

theorem nearest_eq_zero {num den : Nat} (h : 2 * num < den) : nearest num den = 0 := by
  have hspacing : spacing (num / den) = 1 := by
    rw [Nat.div_eq_of_lt (by omega)]
    exact spacing_of_log2_le (by simp)
  apply nearest_eq_of_close
  · exact Nat.dvd_zero _
  · rw [hspacing]
    omega
  · rw [hspacing]
    omega

theorem limit_le_nearest {n : Nat} (h : limit ≤ n) : limit ≤ nearest n 1 := by
  have hn : n ≠ 0 := by
    have := limit_pos
    omega
  have hlog : magnitudeBits ≤ n.log2 := (Nat.le_log2 hn).mpr h
  have hpower := two_pow_le_nearest n 1
  rw [Nat.div_one] at hpower
  exact Nat.le_trans (Nat.pow_le_pow_right (by decide) hlog) (hpower hn)

end Double

namespace Decimal

open Double

/-! ## Far exponents -/

/-- Numbers from `10 ^ 309` on overflow. -/
theorem limit_le_num {d : Decimal} (hexponent : 309 ≤ d.exponent) (hdigits : d.digits ≠ 0) :
    limit ≤ d.num := by
  have hpow : 2 * 2 ^ (1023 : Nat) ≤ 10 ^ (309 : Nat) := by decide +kernel
  have hmono : ∀ a b : Nat, a ≤ b → 10 ^ a ≤ 10 ^ b := fun _ _ => Nat.pow_le_pow_right (by decide)
  have hlimit := limit_eq
  generalize 2 ^ (1023 : Nat) = half at hpow hlimit
  generalize hten : 10 ^ (309 : Nat) = ten at hpow
  calc limit = scale * (2 * half) := by rw [hlimit, ← Nat.mul_assoc, Nat.mul_comm]
    _ ≤ scale * ten := Nat.mul_le_mul_left _ hpow
    _ ≤ scale * 10 ^ d.exponent.toNat :=
      Nat.mul_le_mul_left _ (hten ▸ hmono 309 _ (by omega))
    _ ≤ d.num := Nat.le_mul_of_pos_right _ (Nat.pos_of_ne_zero hdigits)

/-- Numbers below `10 ^ -324` are less than half a unit. -/
theorem two_mul_num_lt_den {d : Decimal} (h : d.exponent ≤ -(d.digits.log2 + 325)) :
    2 * d.num < d.den := by
  have hexponent : d.exponent.toNat = 0 := by omega
  have hscale : 2 ^ (1074 : Nat) = scale := by rw [scale, fractionBits]
  have hpow : 2 * (2 ^ (1074 : Nat) * 2) ≤ 10 ^ (325 : Nat) := by decide +kernel
  rw [hscale] at hpow
  generalize hten : 10 ^ (325 : Nat) = ten at hpow
  have hdigits : d.digits < 2 * 2 ^ d.digits.log2 := by
    rw [← Nat.pow_succ']
    exact Nat.lt_log2_self
  calc 2 * d.num = 2 * (scale * d.digits) := by rw [num, hexponent, Nat.pow_zero, Nat.mul_one]
    _ < 2 * (scale * (2 * 2 ^ d.digits.log2)) :=
      Nat.mul_lt_mul_of_pos_left (Nat.mul_lt_mul_of_pos_left hdigits scale_pos) (by decide)
    _ = 2 * (scale * 2) * 2 ^ d.digits.log2 := by rw [Nat.mul_assoc, Nat.mul_assoc]
    _ ≤ ten * 10 ^ d.digits.log2 := Nat.mul_le_mul hpow (Nat.pow_le_pow_left (by decide) _)
    _ = 10 ^ (325 + d.digits.log2) := by rw [Nat.pow_add, hten]
    _ ≤ d.den := Nat.pow_le_pow_right (by decide) (by omega)

/-- Moving an exponent that is far out does not change what is read. -/
theorem ofUnits_clamp (negative : Bool) (d : Decimal) :
    Double.ofUnits negative d.clamp.num d.clamp.den = Double.ofUnits negative d.num d.den := by
  obtain ⟨digits, exponent⟩ := d
  rcases Int.lt_or_le exponent (-(digits.log2 + 325)) with hlow | hlow
  · apply ofUnits_congr
    have hclamp : (clamp ⟨digits, exponent⟩).exponent ≤ -(digits.log2 + 325) := by
      simp only [clamp]
      omega
    rw [nearest_eq_zero (two_mul_num_lt_den hclamp),
      nearest_eq_zero (two_mul_num_lt_den (Int.le_of_lt hlow))]
  rcases Int.lt_or_le 309 exponent with hhigh | hhigh
  · have hclamp : clamp ⟨digits, exponent⟩ = ⟨digits, 309⟩ := by
      simp only [clamp, mk.injEq, true_and]
      omega
    have hden : den ⟨digits, exponent⟩ = 1 ∧ den ⟨digits, 309⟩ = 1 := by
      refine ⟨?_, rfl⟩
      rw [den, show (-exponent).toNat = 0 by omega, Nat.pow_zero]
    rw [hclamp, hden.1, hden.2]
    rcases Nat.eq_zero_or_pos digits with rfl | hpos
    · rfl
    · have hdigits : digits ≠ 0 := Nat.ne_of_gt hpos
      rw [ofUnits_of_le negative (limit_le_nearest (limit_le_num (Int.le_refl 309) hdigits)),
        ofUnits_of_le negative (limit_le_nearest (limit_le_num (Int.le_of_lt hhigh) hdigits))]
  · have hclamp : clamp ⟨digits, exponent⟩ = ⟨digits, exponent⟩ := by
      simp only [clamp, mk.injEq, true_and]
      omega
    rw [hclamp]

/-! ## Zeros at the end -/

/-- A zero at the end of the digits is made up for by the exponent. -/
theorem ofUnits_shift_one (negative : Bool) (n : Nat) (e : Int) :
    Double.ofUnits negative (num ⟨n * 10, e - 1⟩) (den ⟨n * 10, e - 1⟩) =
      Double.ofUnits negative (num ⟨n, e⟩) (den ⟨n, e⟩) := by
  rcases Int.lt_or_le 0 e with hpos | hneg
  · obtain ⟨k, rfl⟩ : ∃ k : Nat, e = k + 1 := ⟨(e - 1).toNat, by omega⟩
    have hnum : num ⟨n * 10, (k : Int) + 1 - 1⟩ = num ⟨n, k + 1⟩ := by
      simp only [num, Int.add_sub_cancel, Int.toNat_natCast, Int.toNat_natCast_add_one]
      rw [Nat.pow_succ, Nat.mul_comm n, ← Nat.mul_assoc, Nat.mul_assoc scale]
    have hden : den ⟨n * 10, (k : Int) + 1 - 1⟩ = den ⟨n, k + 1⟩ := by
      simp only [den]
      rw [show (-((k : Int) + 1 - 1)).toNat = 0 by omega,
        show (-((k : Int) + 1)).toNat = 0 by omega]
    rw [hnum, hden]
  · obtain ⟨k, rfl⟩ : ∃ k : Nat, e = -k := ⟨(-e).toNat, by omega⟩
    have hnum : num ⟨n * 10, -(k : Int) - 1⟩ = 10 * num ⟨n, -k⟩ := by
      simp only [num]
      rw [show (-(k : Int) - 1).toNat = 0 by omega, show (-(k : Int)).toNat = 0 by omega,
        Nat.mul_comm n, Nat.mul_left_comm]
    have hden : den ⟨n * 10, -(k : Int) - 1⟩ = 10 * den ⟨n, -k⟩ := by
      simp only [den]
      rw [show (-(-(k : Int) - 1)).toNat = k + 1 by omega, show (-(-(k : Int))).toNat = k by omega,
        Nat.pow_succ']
    rw [hnum, hden]
    exact ofUnits_mul_mul negative (by decide) _ _

/-- Zeros at the end of the digits are made up for by the exponent. -/
theorem ofUnits_shift (negative : Bool) (n k : Nat) (e : Int) :
    Double.ofUnits negative (num ⟨n * 10 ^ k, e - k⟩) (den ⟨n * 10 ^ k, e - k⟩) =
      Double.ofUnits negative (num ⟨n, e⟩) (den ⟨n, e⟩) := by
  induction k with
  | zero => simp
  | succ k ih =>
    have hdigits : n * 10 ^ (k + 1) = n * 10 ^ k * 10 := by rw [Nat.pow_succ, Nat.mul_assoc]
    have hexponent : e - ((k + 1 : Nat) : Int) = e - k - 1 := by omega
    rw [hdigits, hexponent, ofUnits_shift_one, ih]

/-! ## Seventeen digits -/

/-- A positive number is not below the power of ten of its leading digit. -/
theorem pow_le_of_length_toDigits {n k : Nat} (hn : 0 < n)
    (h : (Nat.toDigits 10 n).length = k + 1) : 10 ^ k ≤ n := by
  rcases Nat.eq_zero_or_pos k with rfl | hpos
  · exact hn
  · refine Nat.le_of_not_lt fun hlt => ?_
    have := (Nat.length_toDigits_le_iff (by decide) hpos).mpr hlt
    omega

theorem lt_pow_length_toDigits (n : Nat) : n < 10 ^ (Nat.toDigits 10 n).length :=
  (Nat.length_toDigits_le_iff (by decide) Nat.length_toDigits_pos).mp (Nat.le_refl _)

/-- A positive magnitude is not below the power of ten of its leading digit. -/
theorem pow_leadingExponent_le {units : Nat} (h : 0 < units) :
    scale * 10 ^ (leadingExponent units).toNat ≤ units * 10 ^ (-leadingExponent units).toNat := by
  rw [leadingExponent]
  split
  · next hscale =>
    have hone : 1 ≤ units / scale := (Nat.le_div_iff_mul_le scale_pos).mpr (by omega)
    generalize hwhole : units / scale = whole at hone ⊢
    obtain ⟨k, hk⟩ : ∃ k, (Nat.toDigits 10 whole).length = k + 1 :=
      ⟨_, (Nat.sub_add_cancel Nat.length_toDigits_pos).symm⟩
    have hle : 10 ^ k ≤ whole := pow_le_of_length_toDigits hone hk
    rw [hk, show (((k + 1 : Nat) : Int) - 1).toNat = k by omega,
      show (-(((k + 1 : Nat) : Int) - 1)).toNat = 0 by omega, Nat.pow_zero, Nat.mul_one]
    calc scale * 10 ^ k ≤ scale * whole := Nat.mul_le_mul_left _ hle
      _ ≤ units := hwhole ▸ Nat.mul_div_le units scale
  · generalize hparts : (scale - 1) / units = parts
    have hlt : parts < 10 ^ (Nat.toDigits 10 parts).length := lt_pow_length_toDigits parts
    generalize (Nat.toDigits 10 parts).length = k at hlt ⊢
    have hmul : scale - 1 < 10 ^ k * units := (Nat.div_lt_iff_lt_mul h).mp (hparts ▸ hlt)
    rw [show (-(k : Int)).toNat = 0 by omega, show (- -(k : Int)).toNat = k by omega, Nat.pow_zero,
      Nat.mul_one, Nat.mul_comm units]
    have := scale_pos
    omega

/-- Sixteen places after the leading digit, the nearest decimal is read as the magnitude. -/
theorem nearestUnits_seventeen {units : Nat} (hpos : 0 < units) (hgrid : spacing units ∣ units) :
    (ofUnits units (-(leadingExponent units - 16))).nearestUnits = units := by
  have hleading := pow_leadingExponent_le hpos
  generalize leadingExponent units = e at hleading ⊢
  rw [nearestUnits, num, den]
  simp only [ofUnits, Int.neg_neg]
  generalize hplaces : 10 ^ (-(e - 16)).toNat = places
  have hplaces_pos : 0 < places := hplaces ▸ Nat.pow_pos (by decide)
  generalize hstep : scale * 10 ^ (e - 16).toNat = step
  -- the grid of the decimals is `10 ^ 16` times finer than the number
  have hfine : 10 ^ (16 : Nat) * step ≤ places * units := by
    refine Nat.le_of_mul_le_mul_right ?_ (Nat.pow_pos (show 0 < 10 by decide) : 0 < 10 ^ (-e).toNat)
    have hpow : 10 ^ (16 : Nat) * 10 ^ (e - 16).toNat * 10 ^ (-e).toNat =
        10 ^ e.toNat * places := by
      rw [← hplaces, ← Nat.pow_add, ← Nat.pow_add, ← Nat.pow_add]
      congr 1
      omega
    calc 10 ^ (16 : Nat) * step * 10 ^ (-e).toNat
        = scale * (10 ^ (16 : Nat) * 10 ^ (e - 16).toNat * 10 ^ (-e).toNat) := by
          rw [← hstep, Nat.mul_left_comm, Nat.mul_assoc, Nat.mul_assoc]
      _ = scale * 10 ^ e.toNat * places := by rw [hpow, Nat.mul_assoc]
      _ ≤ units * 10 ^ (-e).toNat * places := Nat.mul_le_mul_right _ hleading
      _ = places * units * 10 ^ (-e).toNat := by rw [Nat.mul_comm, ← Nat.mul_assoc]
  have hstep_pos : 0 < step := hstep ▸ Nat.mul_pos scale_pos (Nat.pow_pos (by decide))
  have herror := divNearest_bounds (places * units) hstep_pos
  have hnear : Near (step * divNearest (places * units) step) places units := by
    rw [Nat.mul_comm step]
    constructor
    · rw [Nat.mul_comm units]
      omega
    · rw [Nat.mul_comm units]
      omega
  exact nearest_eq_of_near hnear hgrid (Nat.ne_of_gt hpos)

/-! ## The search -/

theorem nearestUnits_of_onGrid? {units : Nat} {e : Int} {d : Decimal}
    (h : onGrid? units e = some d) : d.nearestUnits = units := by
  obtain ⟨near, far, hgrid⟩ : ∃ near far, onGrid? units e =
      if readsBack units near then some near
      else if readsBack units far then some far else none := ⟨_, _, rfl⟩
  rw [hgrid] at h
  split at h
  · next hnear =>
    cases h
    exact beq_iff_eq.mp hnear
  · split at h
    · next hfar =>
      cases h
      exact beq_iff_eq.mp hfar
    · cases h

theorem search_zero (units : Nat) (e : Int) : search units 0 e = ofUnits units (-e) := rfl

section

-- the search is unfolded without trying the grid
attribute [local irreducible] onGrid?

theorem search_succ (units grids : Nat) (e : Int) :
    search units (grids + 1) e =
      match onGrid? units e with
      | some d => d
      | none => search units grids (e - 1) := rfl

end

/-- Whatever the search finds is read as the magnitude, if the decimal that it falls back on is. -/
theorem nearestUnits_search {units grids : Nat} {e : Int}
    (h : (ofUnits units (-(e - grids))).nearestUnits = units) :
    (search units grids e).nearestUnits = units := by
  induction grids generalizing e with
  | zero =>
    rw [search_zero]
    rw [Int.natCast_zero, Int.sub_zero] at h
    exact h
  | succ grids ih =>
    rw [search_succ]
    cases hgrid : onGrid? units e with
    | some d => exact nearestUnits_of_onGrid? hgrid
    | none =>
      apply ih
      rw [show e - 1 - (grids : Int) = e - ((grids + 1 : Nat) : Int) by omega]
      exact h

/-- The shortest decimal of a positive double is read as this double. -/
theorem nearestUnits_shortest {units : Nat} (hpos : 0 < units) (hgrid : spacing units ∣ units) :
    (shortest units).nearestUnits = units :=
  nearestUnits_search (nearestUnits_seventeen hpos hgrid)

theorem digits_shortest_ne_zero {units : Nat} (hpos : 0 < units) (hgrid : spacing units ∣ units) :
    (shortest units).digits ≠ 0 := by
  intro hzero
  have hnearest := nearestUnits_shortest hpos hgrid
  rw [nearestUnits, num, hzero, Nat.mul_zero, nearest_eq_zero (Nat.pow_pos (by decide))] at hnearest
  omega

end Decimal

namespace Double

/-- A decimal is read as the double nearest to it. -/
theorem ofDecimal_eq (negative : Bool) (d : Decimal) :
    ofDecimal negative d = ofUnits negative d.num d.den := Decimal.ofUnits_clamp negative d

/-- The shortest decimal of a positive double is read as this double. -/
theorem ofDecimal_shortest (negative : Bool) {n : Nat} (h : Representable n) (hpos : 0 < n) :
    ofDecimal negative (Decimal.shortest n) = .finite negative n h := by
  have hnearest : nearest (Decimal.shortest n).num (Decimal.shortest n).den = nearest n 1 := by
    rw [nearest_of_spacing_dvd h.2]
    exact Decimal.nearestUnits_shortest hpos h.2
  rw [ofDecimal_eq, ofUnits_congr negative hnearest, ofUnits_of_representable negative h]

end Double

end SvgDrawing
