import SvgDrawing.Drawing.Operation
import SvgDrawing.PathData.Command

/-!
# The pen

A pen is what later commands depend on: where it stands, what it drew last, and the
control point that a smooth curve continues.  It moves by drawing segments, and a
command is carried out by finding its segments one after the other, each from the pen
that the one before left.  `Pen.after` is the one, `Command.draw` the other.
-/

namespace SvgDrawing.PathData

/-- The kind of the segment drawn last. -/
inductive LastDrawn where
  | nothing
  | move
  | line
  | cubic
  | close
  deriving DecidableEq

/-- The state of a path being drawn.  `control` is the second control point of the last
curve; it matters only right after that curve. -/
structure Pen where
  current : Point
  last : LastDrawn
  control : Point
  deriving DecidableEq

namespace Pen

/-- The pen of a new path. -/
def fresh : Pen := ⟨.origin, .nothing, .origin⟩

/-- The control point that a smooth curve reflects: that of the curve just drawn, or the
current point if something else was drawn last. -/
def previousControl (pen : Pen) : Point :=
  if pen.last = .cubic then pen.control else pen.current

/-- The pen after drawing a segment.  Closing a subpath leaves it where it is. -/
def after (pen : Pen) : Segment → Pen
  | .moveTo p => { pen with current := p, last := .move }
  | .lineTo p => { pen with current := p, last := .line }
  | .cubicTo _ c p => ⟨p, .cubic, c⟩
  | .closePath => { pen with last := .close }

/-- The pen after drawing segments in order. -/
def afterAll (pen : Pen) (segments : List Segment) : Pen := segments.foldl after pen

/-- The point that coordinates count from. -/
def base (pen : Pen) (relative : Bool) : Point := if relative then pen.current else .origin

/-- The segments for a list of arguments, each drawn from where the one before ended. -/
def drawEach {α : Type} (segment : Pen → α → Segment) (pen : Pen) : List α → List Segment
  | [] => []
  | a :: rest => segment pen a :: drawEach segment (pen.after (segment pen a)) rest

/-! ## Single segments -/

/-- A line to `x` at the same height. -/
def horizontal (pen : Pen) (x : Double) : Segment := .lineTo (pen.current.withX x)

/-- A line straight up or down to `y`. -/
def vertical (pen : Pen) (y : Double) : Segment := .lineTo (pen.current.withY y)

/-- A curve that continues the one before: its first control point lies opposite to the
last one of that curve. -/
def smooth (pen : Pen) (control target : Point) : Segment :=
  .cubicTo (pen.previousControl.reflect pen.current) control target

end Pen

/-! ## Grouping values -/

/-- Values as points, two by two. -/
def points : List Double → List Point
  | x :: y :: rest => ⟨x, y⟩ :: points rest
  | _ => []

/-- Two points at a time. -/
def pairs : List Point → List (Point × Point)
  | p :: q :: rest => (p, q) :: pairs rest
  | _ => []

/-- Three points at a time. -/
def triples : List Point → List (Point × Point × Point)
  | p :: q :: r :: rest => (p, q, r) :: triples rest
  | _ => []

namespace Command

/-! ## Commands -/

/-- A line to a point that counts from the base. -/
def line (relative : Bool) (pen : Pen) (p : Point) : Segment := .lineTo (pen.base relative + p)

/-- A horizontal line.  An absolute coordinate is taken as it is. -/
def horizontal (relative : Bool) (pen : Pen) (x : Double) : Segment :=
  pen.horizontal (if relative then pen.current.x + x else x)

/-- A vertical line.  An absolute coordinate is taken as it is. -/
def vertical (relative : Bool) (pen : Pen) (y : Double) : Segment :=
  pen.vertical (if relative then pen.current.y + y else y)

/-- A curve whose three points count from where it starts. -/
def cubic (relative : Bool) (pen : Pen) (group : Point × Point × Point) : Segment :=
  let base := pen.base relative
  .cubicTo (base + group.1) (base + group.2.1) (base + group.2.2)

/-- A smooth curve whose two points count from where it starts. -/
def smooth (relative : Bool) (pen : Pen) (group : Point × Point) : Segment :=
  let base := pen.base relative
  pen.smooth (base + group.1) (base + group.2)

/-- The segments of a command with its values.  After the first point of a move the
further ones are lines. -/
def draw (command : Command) (pen : Pen) (values : List Double) : List Segment :=
  let relative := command.relative
  match command.verb with
  | .moveTo =>
    match points values with
    | [] => []
    | p :: rest =>
      let move := .moveTo (pen.base relative + p)
      move :: (pen.after move).drawEach (line relative) rest
  | .lineTo => pen.drawEach (line relative) (points values)
  | .horizontalTo => pen.drawEach (horizontal relative) values
  | .verticalTo => pen.drawEach (vertical relative) values
  | .cubicTo => pen.drawEach (cubic relative) (triples (points values))
  | .smoothTo => pen.drawEach (smooth relative) (pairs (points values))
  | .closePath => [.closePath]

end Command

end SvgDrawing.PathData
