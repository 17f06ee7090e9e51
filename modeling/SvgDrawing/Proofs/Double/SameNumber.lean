import SvgDrawing.Drawing.Operation
import SvgDrawing.Proofs.Double.Rounding

/-!
# Doubles up to the sign of zero

Two doubles show the same number, `Double.Same`, if they are equal or both zero.  Not-a-number is
the same as itself here, unlike in the comparison of the number line.  Sums, differences and
products of same numbers are same numbers, although the sign of a zero may decide the sign of a zero
result, and adding a zero does not change the number.  Points are the same if their coordinates are.
-/
namespace SvgDrawing

namespace Double

/-! ## Exact sums and products -/

/-- Rounding a grid point that is in range gives it back. -/
theorem ofUnits_of_representable (negative : Bool) {n : Nat} (h : Representable n) :
    ofUnits negative n 1 = .finite negative n h := by
  have hn : nearest n 1 = n := nearest_of_spacing_dvd h.2
  rw [ofUnits_of_lt negative (by rw [hn]; exact h.1)]
  simp only [hn]

/-- Nothing rounds to a zero. -/
theorem isZero_ofUnits_zero (negative : Bool) (den : Nat) : (ofUnits negative 0 den).isZero := by
  have hn : nearest 0 den = 0 := by
    simp [nearest, divNearest_of_dvd]
  rw [ofUnits_of_lt negative (by rw [hn]; exact limit_pos)]
  simp [isZero, hn]

theorem add_comm (x y : Double) : x + y = y + x := by
  change add x y = add y x
  cases x with
  | nan => cases y <;> rfl
  | infinite s =>
    cases y with
    | nan => rfl
    | infinite t => cases s <;> cases t <;> rfl
    | finite t n k => rfl
  | finite s m h =>
    cases y with
    | nan => rfl
    | infinite t => rfl
    | finite t n k =>
      simp only [add]
      by_cases hst : s = t
      · subst hst; simp only [if_true, Nat.add_comm]
      · have hts : t ≠ s := Ne.symm hst
        simp only [hst, hts, if_false]
        rcases Nat.lt_trichotomy m n with hlt | rfl | hgt
        · rw [if_neg (Nat.lt_asymm hlt), if_pos hlt, if_pos hlt]
        · simp only [Nat.lt_irrefl, if_false]
        · rw [if_pos hgt, if_neg (Nat.lt_asymm hgt), if_pos hgt]

/-! ## The relation -/

/-- Equal, or zeros of either sign. -/
def Same (x y : Double) : Prop := x = y ∨ x.isZero ∧ y.isZero

namespace Same

@[refl] theorem refl (x : Double) : Same x x := .inl rfl

theorem symm {x y : Double} (h : Same x y) : Same y x := by
  rcases h with rfl | ⟨hx, hy⟩
  · exact .inl rfl
  · exact .inr ⟨hy, hx⟩

theorem trans {x y z : Double} (h : Same x y) (h' : Same y z) : Same x z := by
  rcases h with rfl | ⟨hx, hy⟩
  · exact h'
  · rcases h' with rfl | ⟨-, hz⟩
    · exact .inr ⟨hx, hy⟩
    · exact .inr ⟨hx, hz⟩

end Same

/-- Zeros are the two values `zero false` and `zero true`. -/
theorem eq_zero_of_isZero {z : Double} (hz : z.isZero) : ∃ s, z = zero s := by
  cases z with
  | nan => cases hz
  | infinite s => cases hz
  | finite s m h =>
    have hm : m = 0 := by simpa [isZero] using hz
    subst hm
    exact ⟨s, rfl⟩

theorem isZero_zero (s : Bool) : (zero s).isZero := rfl

/-- Adding a zero of either sign does not change the number. -/
theorem zero_add_same {z : Double} (hz : z.isZero) (x : Double) : Same (z + x) x := by
  obtain ⟨s, rfl⟩ := eq_zero_of_isZero hz
  change Same (add (zero s) x) x
  cases x with
  | nan => exact .refl _
  | infinite t => exact .refl _
  | finite t n k =>
    simp only [zero, add, Nat.zero_add, Nat.not_lt_zero, if_false, Nat.sub_zero]
    split
    · next hst => rw [ofUnits_of_representable s k, hst]
    · split
      · rw [ofUnits_of_representable t k]
      · next hn =>
        have h0 : n = 0 := by omega
        subst h0
        exact .inr ⟨rfl, rfl⟩

/-- A zero factor makes a zero of any finite number and not-a-number of all else, whatever
the sign of the zero. -/
theorem zero_mul_same {z z' : Double} (hz : z.isZero) (hz' : z'.isZero) (x : Double) :
    Same (z * x) (z' * x) := by
  obtain ⟨s, rfl⟩ := eq_zero_of_isZero hz
  obtain ⟨s', rfl⟩ := eq_zero_of_isZero hz'
  change Same (mul (zero s) x) (mul (zero s') x)
  cases x with
  | nan => exact .refl _
  | infinite t => exact .refl _
  | finite t n k =>
    simp only [zero, mul, Nat.zero_mul]
    exact .inr ⟨isZero_ofUnits_zero _ _, isZero_ofUnits_zero _ _⟩

theorem mul_comm (x y : Double) : x * y = y * x := by
  change mul x y = mul y x
  cases x <;> cases y <;> simp only [mul, bne_comm, Nat.mul_comm]

namespace Same

theorem add {x x' y y' : Double} (hx : Same x x') (hy : Same y y') : Same (x + y) (x' + y') := by
  have left : ∀ {x x'} (y : Double), Same x x' → Same (x + y) (x' + y) := by
    intro x x' y h
    rcases h with rfl | ⟨hx, hx'⟩
    · exact .refl _
    · exact (zero_add_same hx y).trans (zero_add_same hx' y).symm
  refine (left y hx).trans ?_
  rw [add_comm x' y, add_comm x' y']
  exact left x' hy

theorem neg {x x' : Double} (h : Same x x') : Same (-x) (-x') := by
  rcases h with rfl | ⟨hx, hx'⟩
  · exact .refl _
  · obtain ⟨s, rfl⟩ := eq_zero_of_isZero hx
    obtain ⟨s', rfl⟩ := eq_zero_of_isZero hx'
    exact .inr ⟨rfl, rfl⟩

theorem sub {x x' y y' : Double} (hx : Same x x') (hy : Same y y') : Same (x - y) (x' - y') :=
  hx.add hy.neg

theorem mul {x x' y y' : Double} (hx : Same x x') (hy : Same y y') : Same (x * y) (x' * y') := by
  have left : ∀ {x x'} (y : Double), Same x x' → Same (x * y) (x' * y) := by
    intro x x' y h
    rcases h with rfl | ⟨hx, hx'⟩
    · exact .refl _
    · exact zero_mul_same hx hx' y
  refine (left y hx).trans ?_
  rw [mul_comm x' y, mul_comm x' y']
  exact left x' hy

end Same

end Double

namespace Point

/-! ## Points -/

/-- The same numbers as coordinates. -/
structure Same (p q : Point) : Prop where
  x : p.x.Same q.x
  y : p.y.Same q.y

namespace Same

@[refl] theorem refl (p : Point) : Same p p := ⟨.refl _, .refl _⟩

theorem symm {p q : Point} (h : Same p q) : Same q p := ⟨h.x.symm, h.y.symm⟩

theorem trans {p q r : Point} (h : Same p q) (h' : Same q r) : Same p r :=
  ⟨h.x.trans h'.x, h.y.trans h'.y⟩

theorem add {p p' q q' : Point} (hp : Same p p') (hq : Same q q') : Same (p + q) (p' + q') :=
  ⟨hp.x.add hq.x, hp.y.add hq.y⟩

theorem sub {p p' q q' : Point} (hp : Same p p') (hq : Same q q') : Same (p - q) (p' - q') :=
  ⟨hp.x.sub hq.x, hp.y.sub hq.y⟩

theorem scale {p p' : Point} (k : Double) (h : Same p p') : Same (p.scale k) (p'.scale k) :=
  ⟨((Double.Same.refl k).mul h.x).sub ((Double.Same.refl _).mul h.y),
    ((Double.Same.refl k).mul h.y).add ((Double.Same.refl _).mul h.x)⟩

theorem reflect {p p' c c' : Point} (hp : Same p p') (hc : Same c c') :
    Same (p.reflect c) (p'.reflect c') :=
  (hc.scale _).sub hp

end Same

/-- Counting from the origin does not change the numbers of a point. -/
theorem origin_add_same (p : Point) : Same (origin + p) p :=
  ⟨Double.zero_add_same rfl p.x, Double.zero_add_same rfl p.y⟩

end Point

end SvgDrawing
