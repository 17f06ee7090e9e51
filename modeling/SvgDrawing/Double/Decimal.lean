import SvgDrawing.Double.Basic

/-!
# Decimals and doubles

A `Decimal` is read as the double nearest to it, and a double is rounded to a number of
decimal places by way of the decimal nearest to its exact value (`Double.ofDecimal`,
`Double.roundTo?`).  Both steps round an exact quotient once, so nothing is lost between
them.

Exponents and place counts are unbounded integers.  Far out they stop mattering, and
they are cut off there, so that no huge power of ten is ever computed.

A double is written with as few decimal digits as identify it: the shortest decimal
that is read as this double again, and of several the one nearest to its exact value.
The search for it, `Decimal.shortest`, goes through the decimal grids from coarse to
fine, starting where the number has a single digit.  On each grid only the two
neighbours of the value have to be tried, since reading is monotone, and of these the
nearer one first.  It is not enough to try the nearer one: below a power of two the
doubles lie closer together than above, so the farther neighbour may read back where
the nearer does not.

`Double.text` lays the digits out.  A leading digit between the places -4 and 15 is
written positionally and then always with a point and a digit after it, any other with
one digit before the point and an exponent of a sign and at least two digits.
-/

namespace SvgDrawing

-- powers are those of natural numbers, whatever other powers are in scope
attribute [local instance (high)] instPowNat

/-! ## Reading and rounding -/

/-- The number `digits * 10 ^ exponent`. -/
structure Decimal where
  digits : Nat
  exponent : Int
  deriving DecidableEq

namespace Decimal

/-- A decimal as a quotient `num / den` of units.  The large factors stand in front: a
product is evaluated along its second factor. -/
def num (d : Decimal) : Nat := Double.scale * 10 ^ d.exponent.toNat * d.digits

@[inherit_doc num]
def den (d : Decimal) : Nat := 10 ^ (-d.exponent).toNat

/-- The magnitude of the double nearest to a decimal. -/
def nearestUnits (d : Decimal) : Nat := Double.nearest d.num d.den

/-- The same decimal for every purpose of reading.  A number with exponent 309 is zero
or overflows, and one below `10 ^ -324` is less than half a unit, so an exponent
further out can be moved there. -/
def clamp (d : Decimal) : Decimal :=
  { d with exponent := max (-(d.digits.log2 + 325)) (min 309 d.exponent) }

/-- The decimal with `places` places that is nearest to a magnitude; a half goes to the
even digit.  With a negative count the last digits before the point become zero. -/
def ofUnits (units : Nat) (places : Int) : Decimal where
  digits := Double.divNearest (10 ^ places.toNat * units) (Double.scale * 10 ^ (-places).toNat)
  exponent := -places

end Decimal

namespace Double

/-- The double nearest to a decimal with the given sign. -/
def ofDecimal (negative : Bool) (d : Decimal) : Double :=
  ofUnits negative d.clamp.num d.clamp.den

/-- Rounding to `places` decimal places, first as a decimal and then to the double
nearest to that.  Infinities and not-a-number are kept; there is no result if the
rounded value is beyond the finite doubles.

From 324 places on every double is its own rounding, and with fewer than -308 every
double becomes a zero. -/
def roundTo? (places : Int) : Double → Option Double
  | finite s units _ =>
    match ofDecimal s (Decimal.ofUnits units (max (-309) (min 324 places))) with
    | infinite _ => none
    | y => some y
  | x => some x

end Double

/-! ## The fewest digits that read back -/

namespace Decimal

/-- Reading the decimal gives this magnitude. -/
def readsBack (units : Nat) (d : Decimal) : Bool := d.nearestUnits == units

/-- The neighbour of a magnitude among the multiples of `10 ^ exponent` that reads back,
the nearer one if both do. -/
def onGrid? (units : Nat) (exponent : Int) : Option Decimal :=
  let near := ofUnits units (-exponent)
  let below := 10 ^ (-exponent).toNat * units / (Double.scale * 10 ^ exponent.toNat)
  let far := { near with digits := if near.digits = below then below + 1 else below }
  if readsBack units near then some near
  else if readsBack units far then some far
  else none

/-- The exponent of the leading decimal digit of a positive magnitude. -/
def leadingExponent (units : Nat) : Int :=
  if Double.scale ≤ units then ((Nat.toDigits 10 (units / Double.scale)).length : Int) - 1
  else -((Nat.toDigits 10 ((Double.scale - 1) / units)).length : Int)

/-- Tries `grids` grids, from `10 ^ exponent` to finer ones.  On the grid after these the
nearest point is taken untried. -/
def search (units : Nat) : Nat → Int → Decimal
  | 0, exponent => ofUnits units (-exponent)
  | grids + 1, exponent =>
    match onGrid? units exponent with
    | some d => d
    | none => search units grids (exponent - 1)

/-- The shortest decimal that is read as a positive magnitude.  Seventeen digits always
read back, so there are sixteen grids to try. -/
def shortest (units : Nat) : Decimal := search units 16 (leadingExponent units)

end Decimal

/-! ## Layout -/

namespace Decimal

/-- The digits of a decimal without the zeros at their end. -/
def significant (d : Decimal) : List Char :=
  ((Nat.toDigits 10 d.digits).reverse.dropWhile (· == '0')).reverse

/-- The place of the leading digit: 0 for the ones, 1 for the tens, -1 for the tenths. -/
def leadingPlace (d : Decimal) : Int := (Nat.toDigits 10 d.digits).length - 1 + d.exponent

/-- Positional notation of digits whose first one stands at `place`.  There is always a
digit on each side of the point. -/
def positional (digits : List Char) (place : Int) : List Char :=
  if place < 0 then
    '0' :: '.' :: List.replicate (-place - 1).toNat '0' ++ digits
  else
    let whole := place.toNat + 1
    let fraction := digits.drop whole
    digits.take whole ++ List.replicate (whole - digits.length) '0' ++
      '.' :: (if fraction.isEmpty then ['0'] else fraction)

/-- Scientific notation of digits whose first one stands at `place`.  A single digit has
no point; the exponent has a sign and at least two digits. -/
def scientific (digits : List Char) (place : Int) : List Char :=
  let fraction := digits.drop 1
  let exponent := Nat.toDigits 10 place.natAbs
  digits.take 1 ++ (if fraction.isEmpty then [] else '.' :: fraction) ++
    'e' :: (if place < 0 then '-' else '+') ::
      (if exponent.length < 2 then '0' :: exponent else exponent)

/-- The text of a positive decimal. -/
def text (d : Decimal) : List Char :=
  let place := d.leadingPlace
  if -4 ≤ place ∧ place ≤ 15 then positional d.significant place
  else scientific d.significant place

end Decimal

namespace Double

/-- The sign that is written in front of a number. -/
def signText (negative : Bool) : List Char := if negative then ['-'] else []

/-- The text of a double.  Zeros keep their sign, not-a-number has none. -/
def text : Double → String
  | nan => "nan"
  | infinite s => String.ofList (signText s ++ ['i', 'n', 'f'])
  | finite s units _ =>
    String.ofList (signText s ++
      if units = 0 then ['0', '.', '0'] else (Decimal.shortest units).text)

instance : ToString Double := ⟨text⟩
instance : Repr Double := ⟨fun x _ => x.text⟩

end Double

end SvgDrawing
