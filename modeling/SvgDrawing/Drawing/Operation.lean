import SvgDrawing.Double.Decimal

/-!
# Drawing operations

What is drawn is a list of operations in absolute coordinates, to be carried out in
order.  A path draws segments only; around the segments of an element stand the
operations that begin and fill its shape.

A point is a pair of doubles and also a complex number.  Points are added coordinate
by coordinate.  A factor multiplies a point as a complex number does, also a real one:
the products with its zero imaginary part are carried out, and they decide the sign of
a zero and turn an infinite coordinate into not-a-number.

Operations go to a `Sink` in order.  A sink may refuse an operation; it then stays as it
was, and the refusal is its own kind of error.  A `Recording` keeps every operation.
-/

namespace SvgDrawing

/-! ## Points -/

/-- A point of the drawing. -/
structure Point where
  x : Double
  y : Double
  deriving DecidableEq

namespace Point

/-- The point with both coordinates zero. -/
def origin : Point := ⟨.zero false, .zero false⟩

instance : Inhabited Point := ⟨origin⟩

/-- The sum, coordinate by coordinate. -/
def add (p q : Point) : Point := ⟨p.x + q.x, p.y + q.y⟩

/-- The difference, coordinate by coordinate. -/
def sub (p q : Point) : Point := ⟨p.x - q.x, p.y - q.y⟩

instance : Add Point := ⟨add⟩
instance : Sub Point := ⟨sub⟩

/-- The product of two complex numbers given by their parts. -/
def complexScale (c p : Point) : Point :=
  ⟨c.x * p.x - c.y * p.y, c.x * p.y + c.y * p.x⟩

/-- The product of a real factor, taken as a complex number, and a point. -/
def scale (k : Double) (p : Point) : Point := complexScale ⟨k, .zero false⟩ p

/-- The point on the other side of `center`, at the same distance. -/
def reflect (p center : Point) : Point := scale (.ofNat 2) center - p

/-- The same point with another `x`. -/
def withX (p : Point) (x : Double) : Point := { p with x }

/-- The same point with another `y`. -/
def withY (p : Point) (y : Double) : Point := { p with y }

/-- Equality of both coordinates on the number line. -/
def equals (p q : Point) : Bool := p.x.equals q.x && p.y.equals q.y

/-- Both coordinates are finite. -/
def isFinite (p : Point) : Bool := p.x.isFinite && p.y.isFinite

/-- The coordinates with their names. -/
def text (p : Point) : String := "Point(x=" ++ p.x.text ++ ", y=" ++ p.y.text ++ ")"

end Point

/-! ## Operations -/

/-- One step of a path. -/
inductive Segment where
  /-- Starts a new subpath. -/
  | moveTo (point : Point)
  /-- A straight line from the current point. -/
  | lineTo (point : Point)
  /-- A cubic Bézier curve from the current point. -/
  | cubicTo (control₁ control₂ target : Point)
  /-- Closes the current subpath. -/
  | closePath
  deriving DecidableEq

/-- One step of a drawing. -/
inductive Operation where
  /-- Begins a new element with an empty path. -/
  | start
  /-- Ends an element by filling its path. -/
  | fill
  | segment (s : Segment)
  /-- A rectangle with sides along the axes and the upper left corner at `corner`. -/
  | rectangle (corner size : Point)
  deriving DecidableEq

/-- All points of a segment, in order. -/
def Segment.points : Segment → List Point
  | moveTo p | lineTo p => [p]
  | cubicTo c₁ c₂ p => [c₁, c₂, p]
  | closePath => []

/-- Same kind and numerically equal points. -/
def Segment.equals : Segment → Segment → Bool
  | moveTo p, moveTo q | lineTo p, lineTo q => p.equals q
  | cubicTo a b c, cubicTo p q r => a.equals p && b.equals q && c.equals r
  | closePath, closePath => true
  | _, _ => false

namespace Operation

/-- All points of an operation, in order. -/
def points : Operation → List Point
  | start | fill => []
  | segment s => s.points
  | rectangle corner size => [corner, size]

/-- Same kind and numerically equal points. -/
def equals : Operation → Operation → Bool
  | start, start | fill, fill => true
  | segment s, segment t => s.equals t
  | rectangle a b, rectangle p q => a.equals p && b.equals q
  | _, _ => false

/-- The operation with the names of its parts. -/
def text : Operation → String
  | start => "Initialize()"
  | fill => "Fill()"
  | segment (.moveTo p) => "MoveTo(point=" ++ p.text ++ ")"
  | segment (.lineTo p) => "LineTo(point=" ++ p.text ++ ")"
  | segment (.cubicTo c₁ c₂ p) =>
    "CubicCurveTo(control1=" ++ c₁.text ++ ", control2=" ++ c₂.text ++ ", end=" ++ p.text ++ ")"
  | segment .closePath => "ClosePath()"
  | rectangle corner size =>
    "Rectangle(origin=" ++ corner.text ++ ", size=" ++ size.text ++ ")"

end Operation

/-! ## Sinks -/

/-- Consumers of operations. -/
class Sink (σ : Type) (ε : outParam Type) where
  /-- The sink after one more operation. -/
  emit : σ → Operation → Except ε σ

/-- The operations received so far. -/
abbrev Recording := Array Operation

/-- A recording accepts everything. -/
instance : Sink Recording Empty where
  emit recording operation := .ok (recording.push operation)

end SvgDrawing
