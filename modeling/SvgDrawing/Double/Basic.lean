import SvgDrawing.Double.Grid

/-!
# Doubles

Coordinates are IEEE 754 doubles, and the signs of zero, the infinities and not-a-number
are all visible in what is drawn, so the type has all of them.  A finite double carries
the fact that its magnitude is on the grid; two finite doubles are then equal as values
exactly when sign and magnitude agree.

Arithmetic is exact arithmetic on magnitudes followed by one rounding, `ofUnits`.  On
the number line, where `equals` compares, zeros agree and not-a-number differs from
itself.
-/

namespace SvgDrawing

/-- A double: not-a-number, a signed infinity, or a signed magnitude on the grid. -/
inductive Double where
  | nan
  | infinite (negative : Bool)
  | finite (negative : Bool) (units : Nat) (onGrid : Double.Representable units)
  deriving DecidableEq

namespace Double

/-- The zero with the given sign. -/
def zero (negative : Bool) : Double := .finite negative 0 representable_zero

instance : Inhabited Double := ⟨zero false⟩

/-- The double nearest to `num / den` units with the given sign, infinite when even the
rounded magnitude is beyond the finite doubles.  It is sealed: the two cases are opened by
the lemmas below, and nothing unfolds a rounding by accident. -/
@[irreducible] def ofUnits (negative : Bool) (num den : Nat) : Double :=
  if h : nearest num den < limit then
    .finite negative (nearest num den) ⟨h, spacing_dvd_nearest num den⟩
  else .infinite negative

theorem ofUnits_of_lt (negative : Bool) {num den : Nat} (h : nearest num den < limit) :
    ofUnits negative num den =
      .finite negative (nearest num den) ⟨h, spacing_dvd_nearest num den⟩ := by
  rw [ofUnits, dif_pos h]

theorem ofUnits_of_le (negative : Bool) {num den : Nat} (h : limit ≤ nearest num den) :
    ofUnits negative num den = .infinite negative := by
  rw [ofUnits, dif_neg (Nat.not_lt.mpr h)]

/-- The double nearest to the whole number `n`. -/
def ofNat (n : Nat) : Double := ofUnits false (scale * n) 1

/-! ## Classification -/

/-- Neither infinite nor not-a-number. -/
def isFinite : Double → Bool
  | finite .. => true
  | _ => false

/-- A finite whole number. -/
def isIntegral : Double → Bool
  | finite _ units _ => units % scale == 0
  | _ => false

/-- A zero of either sign. -/
def isZero : Double → Bool
  | finite _ units _ => units == 0
  | _ => false

/-- Equality on the number line: the two zeros are equal and not-a-number equals
nothing, itself included. -/
def equals : Double → Double → Bool
  | nan, _ | _, nan => false
  | infinite s, infinite t => s == t
  | finite s m _, finite t n _ => m == n && (s == t || m == 0)
  | _, _ => false

/-! ## Arithmetic -/

/-- The opposite sign, also of zeros and infinities. -/
def neg : Double → Double
  | nan => nan
  | infinite s => infinite (!s)
  | finite s m h => finite (!s) m h

/-- The rounded sum.  Opposite magnitudes cancel to the positive zero, and opposite
infinities have no sum. -/
def add : Double → Double → Double
  | nan, _ | _, nan => nan
  | infinite s, infinite t => if s = t then infinite s else nan
  | infinite s, finite .. => infinite s
  | finite .., infinite t => infinite t
  | finite s m _, finite t n _ =>
    if s = t then ofUnits s (m + n) 1
    else if n < m then ofUnits s (m - n) 1
    else if m < n then ofUnits t (n - m) 1
    else zero false

/-- The rounded difference. -/
def sub (a b : Double) : Double := add a (neg b)

/-- The rounded product.  The signs multiply, also into zeros; zero times infinity has
no value. -/
def mul : Double → Double → Double
  | nan, _ | _, nan => nan
  | infinite s, infinite t => infinite (s != t)
  | infinite s, finite t n _ => if n = 0 then nan else infinite (s != t)
  | finite s m _, infinite t => if m = 0 then nan else infinite (s != t)
  | finite s m _, finite t n _ => ofUnits (s != t) (m * n) scale

instance : Neg Double := ⟨neg⟩
instance : Add Double := ⟨add⟩
instance : Sub Double := ⟨sub⟩
instance : Mul Double := ⟨mul⟩

end Double

end SvgDrawing
