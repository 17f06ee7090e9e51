/-!
# The grid of the doubles

Every finite double is a whole number of units of `2 ^ -1074`, the least positive
double.  Counted in these units the magnitudes are natural numbers, so order, equality
and exact arithmetic on them are those of `Nat`, and the only thing that makes them
floating is which numbers are on the grid, `Representable`: those below `2 ^ 2098` whose
binary form has at most 53 significant bits.

Rounding to the grid is done once, by `nearest`, on an exact quotient, and a tie goes to
the even neighbour.  Everything that has to be correctly rounded, sums and products as
well as decimals that are read, goes through it.
-/

namespace SvgDrawing.Double

-- powers are those of natural numbers, whatever other powers are in scope
attribute [local instance (high)] instPowNat

/-- The binary digits of a fraction counted in units.  Like `magnitudeBits` it is sealed,
so that no proof computes the power by accident. -/
@[irreducible] def fractionBits : Nat := 1074

/-- The binary digits of a magnitude counted in units: 1024 before the point. -/
@[irreducible] def magnitudeBits : Nat := 2098

/-- The number of units in one: a unit is the least positive double. -/
def scale : Nat := 2 ^ fractionBits

/-- The first magnitude beyond the finite doubles. -/
def limit : Nat := 2 ^ magnitudeBits

theorem scale_pos : 0 < scale := Nat.two_pow_pos _

theorem limit_pos : 0 < limit := Nat.two_pow_pos _

/-- The whole number nearest to `num / den`; a half goes to the even neighbour. -/
def divNearest (num den : Nat) : Nat :=
  let q := num / den
  let twice := 2 * (num % den)
  if den < twice ∨ twice = den ∧ q % 2 = 1 then q + 1 else q

theorem div_le_divNearest (num den : Nat) : num / den ≤ divNearest num den := by
  simp only [divNearest]
  split <;> omega

theorem divNearest_le (num den : Nat) : divNearest num den ≤ num / den + 1 := by
  simp only [divNearest]
  split <;> omega

/-- Neighbouring grid points at `n` are this far apart: 53 significant bits, but never
less than a unit. -/
def spacing (n : Nat) : Nat := 2 ^ (n.log2 - 52)

/-- `n` units are the magnitude of a finite double. -/
def Representable (n : Nat) : Prop := n < limit ∧ spacing n ∣ n

instance (n : Nat) : Decidable (Representable n) :=
  inferInstanceAs (Decidable (_ ∧ _))

theorem representable_zero : Representable 0 := ⟨limit_pos, Nat.dvd_zero _⟩

/-- The grid point nearest to `num / den` units; a half goes to the point with the even
significand.  There is no upper end: the result may be `limit` or more. -/
def nearest (num den : Nat) : Nat :=
  let s := spacing (num / den)
  divNearest num (den * s) * s

/-- What `nearest` returns is on the grid. -/
theorem spacing_dvd_nearest (num den : Nat) :
    spacing (nearest num den) ∣ nearest num den := by
  simp only [nearest]
  generalize hk : (num / den).log2 - 52 = k
  have hs : spacing (num / den) = 2 ^ k := by rw [spacing, hk]
  rw [hs]
  have hq : divNearest num (den * 2 ^ k) ≤ 2 ^ 53 := by
    refine Nat.le_trans (divNearest_le _ _) ?_
    rw [← Nat.div_div_eq_div_mul]
    refine Nat.succ_le_of_lt ((Nat.div_lt_iff_lt_mul (Nat.two_pow_pos k)).2 ?_)
    rw [← Nat.pow_add]
    exact Nat.lt_of_lt_of_le Nat.lt_log2_self (Nat.pow_le_pow_right (by decide) (by omega))
  generalize divNearest num (den * 2 ^ k) = q at hq
  rcases Nat.eq_zero_or_pos q with rfl | hpos
  · simp
  · have hne : q * 2 ^ k ≠ 0 := Nat.ne_of_gt (Nat.mul_pos hpos (Nat.two_pow_pos k))
    rcases Nat.lt_or_eq_of_le hq with hlt | rfl
    · have hlog : (q * 2 ^ k).log2 < 53 + k := by
        rw [Nat.log2_lt hne, Nat.pow_add]
        exact Nat.mul_lt_mul_of_pos_right hlt (Nat.two_pow_pos k)
      refine Nat.dvd_trans (Nat.pow_dvd_pow 2 (by omega)) (Nat.dvd_mul_left _ q)
    · rw [spacing, ← Nat.pow_add, Nat.log2_two_pow]
      exact Nat.pow_dvd_pow 2 (by omega)

end SvgDrawing.Double
