import Mathlib.Data.Nat.Dist
import SvgDrawing.Proofs.Double.Monotone
import SvgDrawing.Proofs.Double.Reading

/-!
# Rounding to decimal places is a projection

Rounding to decimal places goes from a double to a decimal and on to a double that need not be the
one it started from, so it is not plain that a second rounding finds the same decimal.  It does:
the double that the decimal is read as is at least as close to the decimal as the first one, and
that one was within half a step.  Where both are half a step away, the decimal was the even one of
two, and it is so again.

The argument does not depend on which of the two grids is the finer one, nor on the spacing being
halved below a power of two.

## Main definitions

* `Double.roundedUnits n places` — a magnitude after rounding to decimal places.

## Main statements

* `Double.nearest_closest` — no grid point is closer to a quotient than its rounding.
* `Decimal.ofUnits_nearestUnits` — a decimal is found again from the double it is read as.
* `Double.roundTo?_of_roundTo?` — rounding to decimal places a second time changes nothing.
* `Double.units_le_units_of_roundTo?` — and it is monotone.
-/
namespace SvgDrawing

-- powers are those of natural numbers, whatever other powers are in scope
attribute [local instance (high)] instPowNat

namespace Double

section Closest

variable {num den q : ℕ}

/-- The nearest whole number is at most a half away, and even if it is a half. -/
theorem divNearest_eq_iff (hden : 0 < den) :
    divNearest num den = q ↔
      2 * Nat.dist (q * den) num ≤ den ∧ (2 * Nat.dist (q * den) num = den → q % 2 = 0) := by
  have hdiv : num / den * den + num % den = num := Nat.div_add_mod' num den
  have hmod : num % den < den := Nat.mod_lt num hden
  constructor
  · intro h
    subst h
    have hnext : (num / den + 1) * den = num / den * den + den := Nat.succ_mul _ den
    simp only [divNearest, Nat.dist]
    split
    · omega
    · omega
  · intro h
    obtain ⟨hle, heven⟩ := h
    simp only [Nat.dist] at hle heven
    by_cases htie : 2 * (q * den - num + (num - q * den)) = den
    · have hq := heven htie
      simp only [divNearest]
      rcases Nat.lt_trichotomy q (num / den) with hlt | heq | hgt
      · have hstep : (q + 1) * den ≤ num / den * den := Nat.mul_le_mul_right den hlt
        rw [Nat.succ_mul] at hstep
        omega
      · subst heq
        rw [if_neg (by omega)]
      · have hstep : (num / den + 1) * den ≤ q * den := Nat.mul_le_mul_right den hgt
        rw [Nat.succ_mul] at hstep
        have hq' : q = num / den + 1 := by
          refine Nat.le_antisymm (Nat.le_of_not_lt fun hfar => ?_) hgt
          have hstep' : (num / den + 2) * den ≤ q * den := Nat.mul_le_mul_right den hfar
          rw [Nat.add_mul] at hstep'
          omega
        subst hq'
        rw [if_pos (by omega)]
    · exact divNearest_eq (by omega) (by omega)

theorem divNearest_closest (num : ℕ) (hden : 0 < den) (j : ℕ) :
    Nat.dist (divNearest num den * den) num ≤ Nat.dist (j * den) num := by
  obtain ⟨hhalf, -⟩ := (divNearest_eq_iff hden).mp (rfl : divNearest num den = _)
  generalize divNearest num den = q at hhalf ⊢
  simp only [Nat.dist] at hhalf ⊢
  rcases Nat.lt_trichotomy j q with hlt | heq | hgt
  · have hstep : (j + 1) * den ≤ q * den := Nat.mul_le_mul_right den hlt
    rw [Nat.succ_mul] at hstep
    omega
  · subst heq
    exact Nat.le_refl _
  · have hstep : (q + 1) * den ≤ j * den := Nat.mul_le_mul_right den hgt
    rw [Nat.succ_mul] at hstep
    omega

/-- No grid point is closer to a quotient than its rounding. -/
theorem nearest_closest (num : ℕ) (hden : 0 < den) {n : ℕ} (hn : spacing n ∣ n) :
    Nat.dist (nearest num den * den) num ≤ Nat.dist (n * den) num := by
  have hspacing : 0 < den * spacing (num / den) := Nat.mul_pos hden (Nat.two_pow_pos _)
  have hmultiple : ∀ m, spacing (num / den) ∣ m →
      Nat.dist (nearest num den * den) num ≤ Nat.dist (m * den) num := by
    intro m hm
    obtain ⟨j, hj⟩ := hm
    have hclosest := divNearest_closest num hspacing j
    have hproduct : ∀ i, i * (den * spacing (num / den)) = i * spacing (num / den) * den := by
      intro i
      rw [Nat.mul_comm den, Nat.mul_assoc]
    rw [hproduct, hproduct, Nat.mul_comm j, ← hj] at hclosest
    exact hclosest
  by_cases hlog : (num / den).log2 ≤ n.log2
  · exact hmultiple n (Nat.dvd_trans (Nat.pow_dvd_pow 2 (Nat.sub_le_sub_right hlog 52)) hn)
  · -- a point with a smaller spacing lies below the power of two before the quotient
    have hlt : n.log2 < (num / den).log2 := Nat.lt_of_not_le hlog
    have hquotient : num / den ≠ 0 := by
      intro hzero
      simp [hzero] at hlt
    have hpower := hmultiple (2 ^ (num / den).log2) (Nat.pow_dvd_pow 2 (Nat.sub_le _ _))
    have hbelow : 2 ^ (num / den).log2 * den ≤ num :=
      (Nat.le_div_iff_mul_le hden).mp (Nat.log2_self_le hquotient)
    have hfar : n * den ≤ 2 ^ (num / den).log2 * den := by
      refine Nat.mul_le_mul_right den (Nat.le_of_lt ?_)
      exact Nat.lt_of_lt_of_le Nat.lt_log2_self (Nat.pow_le_pow_right (by decide) hlt)
    simp only [Nat.dist] at hpower ⊢
    omega

end Closest

end Double

/-! ## Decimals -/

namespace Decimal

open Double hiding add_comm mul_comm

/-- A magnitude and what its decimal is read as are rounded to the same decimal. -/
theorem ofUnits_nearestUnits {n : ℕ} (hn : spacing n ∣ n) (places : ℤ) :
    ofUnits (ofUnits n places).nearestUnits places = ofUnits n places := by
  have hdigits : (ofUnits (ofUnits n places).nearestUnits places).digits =
      (ofUnits n places).digits := by
    rw [nearestUnits, num, den]
    simp only [ofUnits, neg_neg]
    generalize ha : 10 ^ places.toNat = a
    generalize hb : scale * 10 ^ (-places).toNat = b
    have ha : 0 < a := ha ▸ Nat.pow_pos (by decide)
    have hb : 0 < b := hb ▸ Nat.mul_pos scale_pos (Nat.pow_pos (by decide))
    generalize hq : divNearest (a * n) b = q
    obtain ⟨hhalf, heven⟩ := (divNearest_eq_iff hb).mp hq
    -- what is read is at least as close to the decimal, and as the decimal is even where the
    -- magnitude is a half away, it does not matter if this is so again
    have hclosest := nearest_closest (b * q) ha hn
    rw [divNearest_eq_iff hb]
    rw [Nat.mul_comm b, Nat.mul_comm _ a, Nat.mul_comm n] at hclosest
    rw [Nat.mul_comm b]
    simp only [Nat.dist] at hhalf heven hclosest ⊢
    omega
  exact congrArg (fun digits => Decimal.mk digits (-places)) hdigits

theorem nearestUnits_ofUnits_mono {m n : ℕ} (h : m ≤ n) (places : ℤ) :
    (ofUnits m places).nearestUnits ≤ (ofUnits n places).nearestUnits := by
  apply nearest_le_nearest
  apply Nat.mul_le_mul_left
  apply divNearest_mono
  exact Nat.mul_le_mul_left _ h

theorem nearestUnits_ofUnits_zero (places : ℤ) : (ofUnits 0 places).nearestUnits = 0 := by
  apply nearest_eq_zero
  have hdigits : (ofUnits 0 places).digits = 0 := by
    simp [ofUnits, divNearest]
  rw [num, hdigits]
  exact Nat.pow_pos (by decide)

end Decimal

/-! ## Doubles -/

namespace Double

/-- The places that a double is rounded to: from 324 on it is its own rounding, and with fewer
than -308 it becomes a zero. -/
def clampPlaces (places : ℤ) : ℤ := max (-309) (min 324 places)

/-- A magnitude after rounding to decimal places, if that is in range. -/
def roundedUnits (n : ℕ) (places : ℤ) : ℕ :=
  (Decimal.ofUnits n (clampPlaces places)).nearestUnits

theorem roundTo?_finite_eq_some_iff (s : Bool) {m : ℕ} (h : Representable m) {places : ℤ}
    {y : Double} :
    (finite s m h).roundTo? places = some y ↔
      ∃ hn : Representable (roundedUnits m places), y = .finite s (roundedUnits m places) hn := by
  have hread : ofDecimal s (Decimal.ofUnits m (max (-309) (min 324 places))) =
      ofUnits s (Decimal.ofUnits m (clampPlaces places)).num
        (Decimal.ofUnits m (clampPlaces places)).den := ofDecimal_eq _ _
  rw [roundTo?, hread]
  by_cases hlt : roundedUnits m places < limit
  · have hn : Representable (roundedUnits m places) := ⟨hlt, spacing_dvd_nearest _ _⟩
    rw [ofUnits_of_lt s hlt]
    constructor
    · intro hy
      cases hy
      exact ⟨hn, rfl⟩
    · intro hy
      obtain ⟨-, rfl⟩ := hy
      rfl
  · rw [ofUnits_of_le s (Nat.le_of_not_lt hlt)]
    constructor
    · intro hy
      cases hy
    · intro hy
      exact absurd hy.choose.1 hlt

/-- Rounding to decimal places a second time changes nothing. -/
theorem roundTo?_of_roundTo? {x y : Double} {places : ℤ} (h : x.roundTo? places = some y) :
    y.roundTo? places = some y := by
  cases x with
  | nan =>
    cases h
    rfl
  | infinite s =>
    cases h
    rfl
  | finite s n hn =>
    obtain ⟨hrounded, rfl⟩ := (roundTo?_finite_eq_some_iff s hn).mp h
    have htwice : roundedUnits (roundedUnits n places) places = roundedUnits n places :=
      congrArg Decimal.nearestUnits (Decimal.ofUnits_nearestUnits hn.2 _)
    rw [roundTo?_finite_eq_some_iff]
    simp only [htwice]
    exact ⟨hrounded, trivial⟩

theorem roundTo?_zero (s : Bool) (places : ℤ) : (zero s).roundTo? places = some (zero s) := by
  have hzero : roundedUnits 0 places = 0 := Decimal.nearestUnits_ofUnits_zero _
  rw [zero, roundTo?_finite_eq_some_iff]
  simp only [hzero]
  exact ⟨representable_zero, trivial⟩

/-- Of two finite doubles the larger one has no smaller rounding. -/
theorem units_le_units_of_roundTo? {x y x' y' : Double} {places : ℤ} (hx : x.isFinite)
    (hy : y.isFinite) (h : x.units ≤ y.units) (hx' : x.roundTo? places = some x')
    (hy' : y.roundTo? places = some y') : x'.units ≤ y'.units := by
  cases x with
  | nan => cases hx
  | infinite s => cases hx
  | finite s m hm =>
    cases y with
    | nan => cases hy
    | infinite t => cases hy
    | finite t n hn =>
      obtain ⟨-, rfl⟩ := (roundTo?_finite_eq_some_iff s hm).mp hx'
      obtain ⟨-, rfl⟩ := (roundTo?_finite_eq_some_iff t hn).mp hy'
      have hmono : ∀ i j, i ≤ j → roundedUnits i places ≤ roundedUnits j places :=
        fun i j hij => Decimal.nearestUnits_ofUnits_mono hij _
      have hzero : roundedUnits 0 places = 0 := Decimal.nearestUnits_ofUnits_zero _
      have hup := hmono m n
      have hdown := hmono n m
      cases s
      · cases t
        · simp only [units, Bool.false_eq_true, if_false] at h ⊢
          omega
        · -- both are zeros
          simp only [units, Bool.false_eq_true, if_false, if_true] at h ⊢
          obtain ⟨rfl, rfl⟩ : m = 0 ∧ n = 0 := by omega
          omega
      · cases t
        · simp only [units, Bool.false_eq_true, if_false, if_true]
          omega
        · simp only [units, if_true] at h ⊢
          omega

end Double

end SvgDrawing
