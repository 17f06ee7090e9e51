import SvgDrawing.Element.Attributes
import SvgDrawing.PathData.Trace

/-!
# Shapes

How the attributes of a rectangle, a polygon and a path become what is drawn.  Lengths
may carry the unit `px`.  A shape either has all that it needs or draws nothing.
-/

namespace SvgDrawing.Shape

open PathData Text

/-- A text without the unit at its end. -/
def withoutUnit (s : List Char) : List Char :=
  if ['p', 'x'].isSuffixOf s then s.take (s.length - 2) else s

/-- The value of a required length, with or without a unit. -/
def numericAttribute (a : Attributes) (name : String) : Except ConversionError Double :=
  match a.get? name with
  | none => .error (.requiredAttribute name none)
  | some value =>
    match parseNumber (String.ofList (withoutUnit (strip value.toList))) with
    | .ok x => .ok x
    | .error _ => .error (.requiredAttribute name (some value))

/-! ## Polygons -/

/-- The point that a chunk of a polygon's points stands for: two numbers with one comma
between them. -/
def parsePoint (chunk : List Char) : Except ConversionError Point :=
  match splitOn ',' chunk with
  | [x, y] =>
    match parseNumber (String.ofList x), parseNumber (String.ofList y) with
    | .ok x, .ok y => .ok ⟨x, y⟩
    | _, _ => .error (.requiredAttribute "points" (some (String.ofList chunk)))
  | _ => .error (.requiredAttribute "points" (some (String.ofList chunk)))

/-- The points of a polygon, separated by blanks. -/
def parsePoints (s : String) : Except ConversionError (List Point) :=
  (runs (fun c => !isBlank c) s.toList).mapM parsePoint

/-- A move to the first point and lines to the others.  The outline is left open; filling
closes it. -/
def outline : List Point → Except ConversionError (List Segment)
  | [] => .error .emptyPolygon
  | p :: rest => .ok (.moveTo p :: rest.map .lineTo)

/-- The segments of a polygon. -/
def polygon (a : Attributes) : Except ConversionError (List Segment) :=
  match a.get? "points" with
  | none => .error (.requiredAttribute "points" none)
  | some s => parsePoints s >>= outline

/-! ## Rectangles and paths -/

/-- A rectangle by its corner and its size. -/
def rectangle (a : Attributes) : Except ConversionError Operation := do
  let x ← numericAttribute a "x"
  let y ← numericAttribute a "y"
  let width ← numericAttribute a "width"
  let height ← numericAttribute a "height"
  return .rectangle ⟨x, y⟩ ⟨width, height⟩

/-- What carrying out the data of a path gives. -/
def path (a : Attributes) : Trace :=
  match a.get? "d" with
  | none => .failed (.requiredAttribute "d" none)
  | some data => run .fresh data

end SvgDrawing.Shape
