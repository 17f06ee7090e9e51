import SvgDrawing.Proofs.Double.SameNumber

/-!
# When sums stay finite

Finite doubles are whole numbers of units, so their sums, differences and doubles have
exact values among the integers.  Rounding such a value stays finite as long as it is in
range: its magnitude is below the limit by more than half a spacing.

## Main statements

* `Double.units` — the exact value of a finite double.
* `Double.InRange n` — a whole number of units that is rounded to a finite double.
* `Double.isFinite_add_iff`, `Double.isFinite_sub_iff`, `Double.isFinite_two_mul_iff` — sums,
  differences and doubles.
* `Point.isFinite_add_iff`, `Point.isFinite_reflect_iff` — the same for points.
-/
namespace SvgDrawing

-- powers are those of natural numbers, whatever other powers are in scope
attribute [local instance (high)] instPowNat

namespace Double

/-! ## Exact values -/

/-- The value of a finite double as a whole number of units. -/
def units : Double → Int
  | finite negative n _ => if negative then -(n : Int) else n
  | _ => 0

/-- The first whole number of units that is rounded beyond the finite doubles. -/
def overflowUnits : Nat := limit - 2 ^ (magnitudeBits - 54)

/-- A whole number of units that is rounded to a finite double. -/
def InRange (n : Int) : Prop := n.natAbs < overflowUnits

instance (n : Int) : Decidable (InRange n) := inferInstanceAs (Decidable (_ < _))

theorem nearest_lt_limit_iff (n : Nat) : nearest n 1 < limit ↔ n < overflowUnits :=
  nearest_lt_two_pow_iff (by rw [magnitudeBits]; omega) n

theorem isFinite_ofUnits_iff (negative : Bool) (n : Nat) :
    (ofUnits negative n 1).isFinite ↔ n < overflowUnits := by
  rw [← nearest_lt_limit_iff]
  rcases Nat.lt_or_ge (nearest n 1) limit with h | h
  · simp [ofUnits_of_lt negative h, isFinite, h]
  · simp [ofUnits_of_le negative h, isFinite, Nat.not_lt.mpr h]

theorem natAbs_units (negative : Bool) {n : Nat} (h : Representable n) :
    (units (.finite negative n h)).natAbs = n := by
  cases negative <;> simp [units]

/-- The value of a finite double is in range. -/
theorem inRange_units (x : Double) : InRange x.units := by
  cases x with
  | nan => exact (nearest_lt_limit_iff 0).mp (by simp [nearest, divNearest_of_dvd, limit_pos])
  | infinite s => exact (nearest_lt_limit_iff 0).mp (by simp [nearest, divNearest_of_dvd, limit_pos])
  | finite s n h =>
    rw [InRange, natAbs_units, ← nearest_lt_limit_iff, nearest_of_spacing_dvd h.2]
    exact h.1

theorem Same.isFinite_eq {x y : Double} (h : Same x y) : x.isFinite = y.isFinite := by
  rcases h with rfl | ⟨hx, hy⟩
  · rfl
  · obtain ⟨s, rfl⟩ := eq_zero_of_isZero hx
    obtain ⟨t, rfl⟩ := eq_zero_of_isZero hy
    rfl

/-! ## Sums and differences -/

theorem isFinite_neg (x : Double) : (-x).isFinite = x.isFinite := by
  cases x <;> rfl

theorem units_neg (x : Double) : (-x).units = -x.units := by
  cases x with
  | nan => rfl
  | infinite s => rfl
  | finite s n h =>
    change (if !s then -(n : Int) else n) = -(if s then -(n : Int) else n)
    cases s <;> simp

/-- A finite sum has finite summands. -/
theorem isFinite_of_isFinite_add {x y : Double} (h : (x + y).isFinite) :
    x.isFinite ∧ y.isFinite := by
  change (add x y).isFinite at h
  cases x with
  | nan => cases h
  | infinite s =>
    cases y with
    | nan => cases h
    | infinite t => cases s <;> cases t <;> cases h
    | finite t n k => cases h
  | finite s m k =>
    cases y with
    | nan => cases h
    | infinite t => cases h
    | finite t n k' => exact ⟨rfl, rfl⟩

/-- A sum of finite doubles is finite exactly if its exact value is in range. -/
theorem isFinite_add_iff {x y : Double} (hx : x.isFinite) (hy : y.isFinite) :
    (x + y).isFinite ↔ InRange (x.units + y.units) := by
  change (add x y).isFinite ↔ _
  cases x with
  | nan => cases hx
  | infinite s => cases hx
  | finite s m h =>
    cases y with
    | nan => cases hy
    | infinite t => cases hy
    | finite t n k =>
      have abs : ∀ i : Nat, (units (.finite s m h) + units (.finite t n k)).natAbs = i →
          ∀ negative, ((ofUnits negative i 1).isFinite ↔
            InRange (units (.finite s m h) + units (.finite t n k))) := by
        intro i hi negative
        rw [isFinite_ofUnits_iff, InRange, hi]
      simp only [add]
      split
      · next hst =>
        subst hst
        exact abs _ (by cases s <;> simp only [units, Bool.false_eq_true, if_true, if_false] <;>
          omega) s
      · next hst =>
        split
        · exact abs _ (by cases s <;> cases t <;> simp [units] at hst ⊢ <;> omega) s
        · split
          · exact abs _ (by cases s <;> cases t <;> simp [units] at hst ⊢ <;> omega) t
          · have hz : units (.finite s m h) + units (.finite t n k) = units (zero false) := by
              cases s <;> cases t <;> simp [units, zero] at hst ⊢ <;> omega
            rw [hz]
            exact iff_of_true rfl (inRange_units _)

theorem isFinite_sub_iff {x y : Double} (hx : x.isFinite) (hy : y.isFinite) :
    (x - y).isFinite ↔ InRange (x.units - y.units) := by
  change (x + -y).isFinite ↔ _
  rw [isFinite_add_iff hx (by rw [isFinite_neg]; exact hy), units_neg, Int.sub_eq_add_neg]

/-- A finite difference is between finite numbers. -/
theorem isFinite_of_isFinite_sub {x y : Double} (h : (x - y).isFinite) :
    x.isFinite ∧ y.isFinite := by
  have hxy := isFinite_of_isFinite_add (x := x) (y := -y) h
  rw [isFinite_neg] at hxy
  exact hxy

/-! ## Doubling -/

theorem representable_two : Representable (scale * 2) := by
  have hpow : scale * 2 = 2 ^ (fractionBits + 1) := (Nat.pow_succ ..).symm
  have hbits : fractionBits + 1 < magnitudeBits := by rw [fractionBits, magnitudeBits]; decide
  rw [hpow]
  exact ⟨Nat.pow_lt_pow_right (by decide) hbits, spacing_two_pow_dvd _⟩

theorem ofNat_two : ofNat 2 = .finite false (scale * 2) representable_two :=
  ofUnits_of_representable false representable_two

theorem ofUnits_mul_mul (negative : Bool) {k : Nat} (hk : 0 < k) (num den : Nat) :
    ofUnits negative (k * num) (k * den) = ofUnits negative num den := by
  have hn : nearest (k * num) (k * den) = nearest num den := nearest_mul_mul hk num den
  rcases Nat.lt_or_ge (nearest num den) limit with h | h
  · rw [ofUnits_of_lt negative h, ofUnits_of_lt negative (by rw [hn]; exact h)]
    simp only [hn]
  · rw [ofUnits_of_le negative h, ofUnits_of_le negative (by rw [hn]; exact h)]

theorem spacing_two_mul_dvd {n : Nat} (h : spacing n ∣ n) : spacing (2 * n) ∣ 2 * n := by
  rcases Nat.eq_zero_or_pos n with rfl | hn
  · exact Nat.dvd_zero _
  · have hlog : (2 * n).log2 = n.log2 + 1 := Nat.log2_two_mul (Nat.ne_of_gt hn)
    refine Nat.dvd_trans ?_ (Nat.mul_dvd_mul_left 2 h)
    rw [spacing, spacing, hlog, ← Nat.pow_succ']
    exact Nat.pow_dvd_pow 2 (by omega)

theorem two_mul_finite (negative : Bool) (n : Nat) (h : Representable n) :
    ofNat 2 * .finite negative n h = ofUnits negative (2 * n) 1 := by
  rw [ofNat_two]
  change ofUnits (false != negative) (scale * 2 * n) scale = _
  rw [Nat.mul_assoc, Bool.false_bne]
  exact (congrArg (ofUnits negative (scale * (2 * n))) (Nat.mul_one scale).symm).trans
    (ofUnits_mul_mul negative scale_pos (2 * n) 1)

/-- Doubling is exact as long as the result is in range. -/
theorem isFinite_two_mul_iff {x : Double} (h : x.isFinite) :
    (ofNat 2 * x).isFinite ↔ InRange (2 * x.units) := by
  cases x with
  | nan => cases h
  | infinite s => cases h
  | finite s n k =>
    rw [two_mul_finite, isFinite_ofUnits_iff, InRange, Int.natAbs_mul, natAbs_units]
    rfl

/-- A finite product is of finite factors. -/
theorem isFinite_of_isFinite_mul {x y : Double} (h : (x * y).isFinite) : y.isFinite := by
  change (mul x y).isFinite at h
  cases y with
  | finite t n k => rfl
  | nan => cases x <;> cases h
  | infinite t =>
    cases x with
    | nan => cases h
    | infinite s => cases h
    | finite s m k =>
      simp only [mul] at h
      split at h <;> cases h

theorem units_two_mul {x : Double} (h : (ofNat 2 * x).isFinite) :
    (ofNat 2 * x).units = 2 * x.units := by
  have hx : x.isFinite := isFinite_of_isFinite_mul h
  cases x with
  | nan => cases hx
  | infinite s => cases hx
  | finite s n k =>
    rw [two_mul_finite] at h ⊢
    have hlt : nearest (2 * n) 1 < limit :=
      (nearest_lt_limit_iff _).mpr ((isFinite_ofUnits_iff s _).mp h)
    rw [ofUnits_of_lt s hlt]
    simp only [units, nearest_of_spacing_dvd (spacing_two_mul_dvd k.2)]
    split <;> omega

/-- A number is mirrored in `c` by doubling `c` and taking the number away; both steps stay
in range. -/
def MirrorInRange (x c : Double) : Prop :=
  InRange (2 * c.units) ∧ InRange (2 * c.units - x.units)

instance (x c : Double) : Decidable (MirrorInRange x c) := inferInstanceAs (Decidable (_ ∧ _))

theorem isFinite_mirror_iff {x c : Double} (hx : x.isFinite) (hc : c.isFinite) :
    (ofNat 2 * c - x).isFinite ↔ MirrorInRange x c := by
  constructor
  · intro h
    have htwice : (ofNat 2 * c).isFinite := (isFinite_of_isFinite_sub h).1
    rw [isFinite_sub_iff htwice hx, units_two_mul htwice] at h
    exact ⟨(isFinite_two_mul_iff hc).mp htwice, h⟩
  · rintro ⟨htwice, h⟩
    have htwice : (ofNat 2 * c).isFinite := (isFinite_two_mul_iff hc).mpr htwice
    rw [isFinite_sub_iff htwice hx, units_two_mul htwice]
    exact h

/-- The products with a zero factor are zeros among finite numbers. -/
theorem isZero_zero_mul {x : Double} (h : x.isFinite) (s : Bool) : (zero s * x).isZero := by
  cases x with
  | nan => cases h
  | infinite t => cases h
  | finite t n k =>
    change (ofUnits (s != t) (0 * n) scale).isZero
    rw [Nat.zero_mul]
    exact isZero_ofUnits_zero _ _

theorem add_zero_same {z : Double} (hz : z.isZero) (x : Double) : Same (x + z) x := by
  rw [add_comm]
  exact zero_add_same hz x

theorem sub_zero_same {z : Double} (hz : z.isZero) (x : Double) : Same (x - z) x := by
  obtain ⟨s, rfl⟩ := eq_zero_of_isZero hz
  exact add_zero_same (isZero_zero !s) x

end Double

namespace Point

/-! ## Points -/

theorem isFinite_iff (p : Point) : p.isFinite ↔ p.x.isFinite ∧ p.y.isFinite := by
  rw [isFinite, Bool.and_eq_true]

theorem isFinite_origin : origin.isFinite := rfl

/-- Both coordinates of a sum are in range. -/
def SumInRange (p q : Point) : Prop :=
  Double.InRange (p.x.units + q.x.units) ∧ Double.InRange (p.y.units + q.y.units)

instance (p q : Point) : Decidable (SumInRange p q) := inferInstanceAs (Decidable (_ ∧ _))

/-- Both coordinates of a reflection are in range. -/
def ReflectionInRange (p center : Point) : Prop :=
  Double.MirrorInRange p.x center.x ∧ Double.MirrorInRange p.y center.y

instance (p center : Point) : Decidable (ReflectionInRange p center) :=
  inferInstanceAs (Decidable (_ ∧ _))

theorem isFinite_add_iff {p q : Point} (hp : p.isFinite) (hq : q.isFinite) :
    (p + q).isFinite ↔ SumInRange p q := by
  rw [isFinite_iff] at hp hq ⊢
  exact and_congr (Double.isFinite_add_iff hp.1 hq.1) (Double.isFinite_add_iff hp.2 hq.2)

/-- Counting from the origin stays in range. -/
theorem sumInRange_origin (p : Point) : SumInRange origin p := by
  have horigin : origin.x.units = 0 ∧ origin.y.units = 0 := ⟨rfl, rfl⟩
  simp only [SumInRange, horigin, Int.zero_add]
  exact ⟨Double.inRange_units p.x, Double.inRange_units p.y⟩

/-- A reflection among finite points is finite exactly if it is in range.  The products with
the zero part of the factor are zeros then and do not count. -/
theorem isFinite_reflect_iff {p center : Point} (hp : p.isFinite) (hc : center.isFinite) :
    (p.reflect center).isFinite ↔ ReflectionInRange p center := by
  rw [isFinite_iff] at hp hc ⊢
  have hx : (p.reflect center).x.Same (.ofNat 2 * center.x - p.x) :=
    (Double.sub_zero_same (Double.isZero_zero_mul hc.2 false) _).sub (.refl p.x)
  have hy : (p.reflect center).y.Same (.ofNat 2 * center.y - p.y) :=
    (Double.add_zero_same (Double.isZero_zero_mul hc.1 false) _).sub (.refl p.y)
  rw [hx.isFinite_eq, hy.isFinite_eq, Double.isFinite_mirror_iff hp.1 hc.1,
    Double.isFinite_mirror_iff hp.2 hc.2]
  rfl

end Point

end SvgDrawing
