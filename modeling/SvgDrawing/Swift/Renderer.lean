import SvgDrawing.Drawing.Operation
import SvgDrawing.Failure
import SvgDrawing.Text.Pieces

/-!
# Statements

Each operation becomes one statement in a program that builds a path and fills it in a
graphics context.  A `Renderer` is a sink that collects these statements; a `Style`
tells their precision and the names that they use.

A coordinate is rounded to the wanted number of decimal places and then written as
short as possible: a whole number as an integer with all its digits, any other number
with the fewest digits that read back as the rounded value.  Zero is written without
a sign.
-/

namespace SvgDrawing.Swift

/-! ## Coordinates -/

/-- The digits of a finite whole number, with its sign. -/
def integerText (negative : Bool) (units : Nat) : String :=
  String.ofList (Double.signText negative ++ Nat.toDigits 10 (units / Double.scale))

/-- A rounded coordinate in source code. -/
def number (x : Double) : String :=
  match x with
  | .finite s units _ =>
    if units = 0 then "0" else if x.isIntegral then integerText s units else x.text
  | _ => x.text

/-- A coordinate in source code, rounded to `precision` decimal places. -/
def number? (precision : Int) (x : Double) : Option String := (x.roundTo? precision).map number

/-! ## Statements of operations -/

/-- How statements are written: the decimal places of coordinates and the names of the
path and of the context. -/
structure Style where
  precision : Int := 5
  pathName : String := "path"
  contextName : String := "context"
  deriving DecidableEq

namespace Style

/-- A coordinate, rounded. -/
def number (style : Style) (x : Double) : Except RenderError String :=
  match number? style.precision x with
  | some text => .ok text
  | none => .error .overflow

/-- A point as an expression. -/
def point (style : Style) (p : Point) : Except RenderError String := do
  let x ← style.number p.x
  let y ← style.number p.y
  return "CGPoint(x: " ++ x ++ ", y: " ++ y ++ ")"

/-- The statement that carries out an operation. -/
def statement (style : Style) : Operation → Except RenderError String
  | .start => return "let " ++ style.pathName ++ " = CGMutablePath()"
  | .segment (.moveTo p) => return style.pathName ++ ".move(to: " ++ (← style.point p) ++ ")"
  | .segment (.lineTo p) => return style.pathName ++ ".addLine(to: " ++ (← style.point p) ++ ")"
  | .segment (.cubicTo c₁ c₂ p) => do
    let target ← style.point p
    let first ← style.point c₁
    let second ← style.point c₂
    return style.pathName ++ ".addCurve(to: " ++ target ++ ", control1: " ++ first ++
      ", control2: " ++ second ++ ")"
  | .segment .closePath => return style.pathName ++ ".closeSubpath()"
  | .rectangle corner size => do
    let x ← style.number corner.x
    let y ← style.number corner.y
    let width ← style.number size.x
    let height ← style.number size.y
    return style.pathName ++ ".addRect(CGRect(x: " ++ x ++ ", y: " ++ y ++ ", width: " ++ width ++
      ", height: " ++ height ++ "))"
  | .fill =>
    return style.contextName ++ ".addPath(" ++ style.pathName ++ "); " ++ style.contextName ++
      ".fillPath()"

end Style

/-! ## Renderers -/

/-- What a renderer is asked to write: an operation, or something else known by a name. -/
inductive Request where
  | operation (o : Operation)
  | other (name : String)

/-- The statements written so far. -/
structure Renderer where
  style : Style
  lines : Array String

namespace Renderer

/-- A renderer without statements. -/
def new (style : Style) : Renderer := ⟨style, #[]⟩

/-- The renderer after one more operation. -/
def add (r : Renderer) (o : Operation) : Except RenderError Renderer :=
  (r.style.statement o).map fun line => { r with lines := r.lines.push line }

/-- Coordinates that overflow when they are rounded are refused. -/
instance : Sink Renderer RenderError := ⟨add⟩

/-- The renderer after one more request; only operations can be written. -/
def emit (r : Renderer) : Request → Except RenderError Renderer
  | .operation o => r.add o
  | .other name => .error (.unknownOperation name)

/-- The renderer after requests in order, up to the first that is refused. -/
def emitAll (r : Renderer) : List Request → Renderer × Option RenderError
  | [] => (r, none)
  | request :: rest =>
    match r.emit request with
    | .error e => (r, some e)
    | .ok r' => r'.emitAll rest

/-- The statements as a text, one on each line. -/
def text (r : Renderer) : String := Text.lines r.lines.toList

end Renderer

end SvgDrawing.Swift
