import SvgDrawing.Proofs.Double.Range

/-!
# Points that are their own mirror images

A point mirrored in itself should stay where it is.  It does as long as doubling its coordinates
stays among the finite doubles, `Double.CanDouble`: a doubled grid point is on the grid, so nothing
is rounded, and the difference to the coordinate is the coordinate again.  From `2 ^ 1023` on
doubling overflows, and the mirror image is infinite or not-a-number.
-/
namespace SvgDrawing

-- powers are those of natural numbers, whatever other powers are in scope
attribute [local instance (high)] instPowNat

namespace Double

/-- Finite and below `2 ^ 1023` in magnitude. -/
def CanDouble (x : Double) : Prop := x.isFinite ∧ x.units.natAbs < 2 ^ (1023 : Nat) * scale

instance (x : Double) : Decidable (CanDouble x) := inferInstanceAs (Decidable (_ ∧ _))

/-- The limit is twice the bound for doubling. -/
theorem limit_eq : limit = 2 * (2 ^ (1023 : Nat) * scale) := by
  have hpow : ∀ a b : Nat, 2 ^ (a + b + 1) = 2 * (2 ^ a * 2 ^ b) := by
    intro a b
    rw [Nat.pow_succ, Nat.pow_add, Nat.mul_comm]
  have hbits : magnitudeBits = 1023 + fractionBits + 1 := by rw [magnitudeBits, fractionBits]
  rw [limit, scale, hbits]
  exact hpow 1023 fractionBits

theorem canDouble_finite_iff (negative : Bool) {n : Nat} (h : Representable n) :
    CanDouble (.finite negative n h) ↔ 2 * n < limit := by
  rw [CanDouble, natAbs_units, limit_eq]
  generalize 2 ^ (1023 : Nat) * scale = half
  constructor
  · rintro ⟨-, hlt⟩
    omega
  · intro hlt
    exact ⟨rfl, by omega⟩

/-! ## Comparing -/

/-- The comparison does not see the sign of a zero. -/
theorem Same.equals_eq {x x' : Double} (h : Same x x') (y : Double) : x.equals y = x'.equals y := by
  rcases h with rfl | ⟨hx, hx'⟩
  · rfl
  · obtain ⟨s, rfl⟩ := eq_zero_of_isZero hx
    obtain ⟨s', rfl⟩ := eq_zero_of_isZero hx'
    cases y with
    | nan => rfl
    | infinite t => rfl
    | finite t n h =>
      simp only [zero, equals]
      by_cases hn : 0 = n <;> simp [hn]

theorem equals_self (negative : Bool) {n : Nat} (h : Representable n) :
    equals (.finite negative n h) (.finite negative n h) := by
  simp [equals]

/-- A finite number compares equal to the same number. -/
theorem Same.equals {x y : Double} (h : Same x y) (hy : y.isFinite) : x.equals y := by
  rw [h.equals_eq]
  cases y with
  | nan => cases hy
  | infinite s => cases hy
  | finite s n hn => exact equals_self s hn

/-- Nothing less an infinity is this infinity. -/
theorem not_equals_sub_infinite (x : Double) (negative : Bool) :
    ¬ (x - .infinite negative).equals (.infinite negative) := by
  change ¬ (add x (.infinite !negative)).equals (.infinite negative)
  cases x with
  | nan => simp [add, equals]
  | infinite s => cases s <;> cases negative <;> simp [add, equals]
  | finite s n h => cases negative <;> simp [add, equals]

/-- Only finite numbers can be their own mirror images. -/
theorem isFinite_of_sub_equals {x y : Double} (h : (x - y).equals y) : y.isFinite := by
  cases y with
  | nan => cases x <;> simp [HSub.hSub, Sub.sub, sub, neg, add, equals] at h
  | infinite s => exact absurd h (not_equals_sub_infinite x s)
  | finite s n hn => rfl

/-! ## Mirroring -/

/-- A finite number is mirrored in itself without rounding if its double is finite. -/
theorem mirror_self_equals_iff {x : Double} (h : x.isFinite) :
    (ofNat 2 * x - x).equals x ↔ CanDouble x := by
  cases x with
  | nan => cases h
  | infinite s => cases h
  | finite s n hn =>
    rw [canDouble_finite_iff, two_mul_finite]
    have hnearest : nearest (2 * n) 1 = 2 * n := nearest_of_spacing_dvd (spacing_two_mul_dvd hn.2)
    rcases Nat.lt_or_ge (2 * n) limit with hlt | hle
    · refine iff_of_true ?_ hlt
      have hdouble : Representable (2 * n) := ⟨hlt, spacing_two_mul_dvd hn.2⟩
      rw [ofUnits_of_representable s hdouble]
      change (add (.finite s (2 * n) hdouble) (.finite (!s) n hn)).equals (.finite s n hn)
      rcases Nat.eq_zero_or_pos n with rfl | hpos
      · cases s <;> simp [add, zero, equals]
      · have hsub : 2 * n - n = n := by omega
        have hs : s ≠ !s := by cases s <;> simp
        simp only [add, if_neg hs, if_pos (show n < 2 * n by omega), hsub]
        rw [ofUnits_of_representable s hn]
        exact equals_self s hn
    · refine iff_of_false ?_ (Nat.not_lt.mpr hle)
      rw [ofUnits_of_le s (by rw [hnearest]; exact hle)]
      change ¬ (add (.infinite s) (.finite (!s) n hn)).equals (.finite s n hn)
      simp [add, equals]

end Double

/-- A point mirrored in itself is where it was exactly if both coordinates can be doubled. -/
theorem Point.reflect_self_equals_iff (p : Point) :
    (p.reflect p).equals p ↔ p.x.CanDouble ∧ p.y.CanDouble := by
  rw [Point.equals, Bool.and_eq_true]
  have hreflect : p.x.isFinite → p.y.isFinite →
      (((p.reflect p).x.equals p.x ∧ (p.reflect p).y.equals p.y) ↔
        p.x.CanDouble ∧ p.y.CanDouble) := by
    intro hx hy
    -- the products with the zero part of the factor do not count
    have hsamex : (p.reflect p).x.Same (.ofNat 2 * p.x - p.x) :=
      (Double.sub_zero_same (Double.isZero_zero_mul hy false) _).sub (.refl p.x)
    have hsamey : (p.reflect p).y.Same (.ofNat 2 * p.y - p.y) :=
      (Double.add_zero_same (Double.isZero_zero_mul hx false) _).sub (.refl p.y)
    rw [hsamex.equals_eq, hsamey.equals_eq, Double.mirror_self_equals_iff hx,
      Double.mirror_self_equals_iff hy]
  constructor
  · rintro ⟨hx, hy⟩
    have hfx : p.x.isFinite := Double.isFinite_of_sub_equals hx
    have hfy : p.y.isFinite := Double.isFinite_of_sub_equals hy
    exact (hreflect hfx hfy).mp ⟨hx, hy⟩
  · rintro ⟨hx, hy⟩
    exact (hreflect hx.1 hy.1).mpr ⟨hx, hy⟩

end SvgDrawing
