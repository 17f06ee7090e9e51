import SvgDrawing.Proofs.PathData.Grouping
import SvgDrawing.Proofs.Results
import SvgDrawing.Swift.Source

/-!
# Coordinates in source code

The source of a drawing is fixed text with coordinates in between.  Here it is put together by a
function `write` that gives the text of each coordinate (`functionWith`), and rendering is this with
the texts that rounding gives (`function_eq`).  The only thing that can go wrong is that rounding
overflows, and that depends on the coordinates alone.
-/
namespace SvgDrawing

/-- All coordinates of an operation. -/
def Operation.coordinates (o : Operation) : List Double := o.points.flatMap Point.values

namespace Swift

/-- All coordinates of elements. -/
def coordinates (elements : List Converted) : List Double :=
  elements.flatMap fun e => e.operations.flatMap Operation.coordinates

/-! ## Source with given texts -/

/-- A point as an expression. -/
def pointWith (write : Double → String) (p : Point) : String :=
  "CGPoint(x: " ++ write p.x ++ ", y: " ++ write p.y ++ ")"

/-- The statement of an operation. -/
def Style.statementWith (style : Style) (write : Double → String) : Operation → String
  | .start => "let " ++ style.pathName ++ " = CGMutablePath()"
  | .segment (.moveTo p) => style.pathName ++ ".move(to: " ++ pointWith write p ++ ")"
  | .segment (.lineTo p) => style.pathName ++ ".addLine(to: " ++ pointWith write p ++ ")"
  | .segment (.cubicTo c₁ c₂ p) =>
    style.pathName ++ ".addCurve(to: " ++ pointWith write p ++ ", control1: " ++
      pointWith write c₁ ++ ", control2: " ++ pointWith write c₂ ++ ")"
  | .segment .closePath => style.pathName ++ ".closeSubpath()"
  | .rectangle corner size =>
    style.pathName ++ ".addRect(CGRect(x: " ++ write corner.x ++ ", y: " ++ write corner.y ++
      ", width: " ++ write size.x ++ ", height: " ++ write size.y ++ "))"
  | .fill =>
    style.contextName ++ ".addPath(" ++ style.pathName ++ "); " ++ style.contextName ++
      ".fillPath()"

/-- The block of an element. -/
def elementLinesWith (write : Double → String) (e : Converted) : List String :=
  ("// " ++ e.id.getD e.tag) :: "do \x7b" ::
    (e.operations.map (Style.statementWith {} write)).map indented ++ ["\x7d"]

/-- The source of a drawing function. -/
def functionWith (write : Double → String) (name : String) (elements : List Converted) : String :=
  Text.lines (["import CoreGraphics", "",
    "func draw" ++ identifier name ++ "(in context: CGContext) \x7b"] ++
    (elements.flatMap (elementLinesWith write)).map indented ++ ["\x7d", ""])

/-! ## Rendering -/

/-- A coordinate can be rounded without overflow. -/
def Fits (precision : Int) (x : Double) : Prop := (number? precision x).isSome

instance (precision : Int) (x : Double) : Decidable (Fits precision x) :=
  inferInstanceAs (Decidable (_ = true))

/-- The text of a coordinate that can be rounded. -/
def written (precision : Int) (x : Double) : String := (number? precision x).getD ""

/-- What is rendered with given coordinates, or the overflow of one of them. -/
def orOverflow {α : Type} (precision : Int) (xs : List Double) (a : α) : Except RenderError α :=
  if ∀ x ∈ xs, Fits precision x then .ok a else .error .overflow

section orOverflow

variable {α β : Type} {precision : Int} {xs ys : List Double}

theorem orOverflow_nil (a : α) : orOverflow precision [] a = .ok a :=
  if_pos (List.forall_mem_nil _)

theorem orOverflow_eq_ok_iff {a b : α} :
    orOverflow precision xs a = .ok b ↔ (∀ x ∈ xs, Fits precision x) ∧ a = b := by
  rw [orOverflow]
  by_cases h : ∀ x ∈ xs, Fits precision x
  · rw [if_pos h, Except.ok.injEq, and_iff_right h]
  · rw [if_neg h]
    exact iff_of_false nofun fun hand => h hand.1

theorem orOverflow_congr (h : ∀ x, x ∈ xs ↔ x ∈ ys) (a : α) :
    orOverflow precision xs a = orOverflow precision ys a := by
  simp only [orOverflow, h]

/-- One step after another needs the coordinates of both. -/
theorem orOverflow_bind (a : α) {b : β} {f : α → Except RenderError β}
    (h : f a = orOverflow precision ys b) :
    orOverflow precision xs a >>= f = orOverflow precision (xs ++ ys) b := by
  simp only [orOverflow, List.forall_mem_append] at h ⊢
  by_cases hxs : ∀ x ∈ xs, Fits precision x
  · rw [if_pos hxs]
    simp only [and_iff_right hxs]
    exact h
  · rw [if_neg hxs, if_neg fun hand => hxs hand.1]
    rfl

/-- The last step of a rendering needs no coordinates of its own. -/
theorem orOverflow_map (a : α) {b : β} {f : α → Except RenderError β} (h : f a = .ok b) :
    orOverflow precision xs a >>= f = orOverflow precision xs b := by
  rw [orOverflow_bind a (h.trans (orOverflow_nil b).symm), List.append_nil]

end orOverflow

namespace Style

variable (style : Style)

theorem number_eq (x : Double) :
    style.number x = orOverflow style.precision [x] (written style.precision x) := by
  simp only [number, orOverflow, Fits, written, List.forall_mem_singleton]
  cases number? style.precision x <;> rfl

theorem point_eq (p : Point) :
    style.point p = orOverflow style.precision p.values (pointWith (written style.precision) p) := by
  rw [point, number_eq, number_eq]
  exact orOverflow_bind _ (orOverflow_map _ rfl)

/-- An operation is rendered unless one of its coordinates overflows. -/
theorem statement_eq (o : Operation) :
    style.statement o = orOverflow style.precision o.coordinates
      (style.statementWith (written style.precision) o) := by
  cases o with
  | start => exact (orOverflow_nil _).symm
  | fill => exact (orOverflow_nil _).symm
  | rectangle corner size =>
    simp only [statement, number_eq]
    exact orOverflow_bind _ (orOverflow_bind _ (orOverflow_bind _ (orOverflow_map _ rfl)))
  | segment s =>
    cases s with
    | closePath => exact (orOverflow_nil _).symm
    | moveTo p =>
      simp only [statement, point_eq]
      exact orOverflow_map _ rfl
    | lineTo p =>
      simp only [statement, point_eq]
      exact orOverflow_map _ rfl
    | cubicTo c₁ c₂ p =>
      -- the target is rendered before the control points
      have hmem : ∀ x, x ∈ (Operation.segment (.cubicTo c₁ c₂ p)).coordinates ↔
          x ∈ p.values ++ (c₁.values ++ c₂.values) := by
        intro x
        simp only [Operation.coordinates, Operation.points, Segment.points, List.flatMap_cons,
          List.flatMap_nil, List.append_nil, List.mem_append]
        rw [← or_assoc, or_comm]
      rw [orOverflow_congr hmem]
      simp only [statement, point_eq]
      exact orOverflow_bind _ (orOverflow_bind _ (orOverflow_map _ rfl))

end Style

theorem statements_eq (style : Style) (os : List Operation) :
    statements style os = orOverflow style.precision (os.flatMap Operation.coordinates)
      (os.map (style.statementWith (written style.precision))) := by
  induction os with
  | nil => exact (orOverflow_nil _).symm
  | cons o rest ih =>
    rw [statements, style.statement_eq, ih]
    exact orOverflow_bind _ (orOverflow_map _ rfl)

theorem elementLines_eq (precision : Int) (e : Converted) :
    elementLines precision e = orOverflow precision (e.operations.flatMap Operation.coordinates)
      (elementLinesWith (written precision) e) := by
  have hstyle : Style.statementWith { precision } = Style.statementWith {} := by
    funext write o
    cases o with
    | segment s => cases s <;> rfl
    | _ => rfl
  rw [elementLines, statements_eq, hstyle]
  exact orOverflow_map _ rfl

theorem bodyLines_eq (precision : Int) (elements : List Converted) :
    bodyLines precision elements = orOverflow precision (coordinates elements)
      (elements.flatMap (elementLinesWith (written precision))) := by
  induction elements with
  | nil => exact (orOverflow_nil _).symm
  | cons e rest ih =>
    rw [bodyLines, elementLines_eq, ih]
    exact orOverflow_bind _ (orOverflow_map _ rfl)

/-- A drawing is rendered, each coordinate with its own text, unless one of them overflows. -/
theorem function_eq (name : String) (precision : Int) (elements : List Converted) :
    function name precision elements = orOverflow precision (coordinates elements)
      (functionWith (written precision) name elements) := by
  rw [function, bodyLines_eq]
  exact orOverflow_map _ rfl

/-- A source comes from elements that were converted and whose coordinates can be rounded. -/
theorem functionOf_eq_ok_iff {name code : String} {precision : Int}
    {converted : Logged Failure (List Converted)} :
    (functionOf name precision converted).result = .ok code ↔
      ∃ elements, converted.result = .ok elements ∧
        (∀ x ∈ coordinates elements, Fits precision x) ∧
        functionWith (written precision) name elements = code := by
  rw [functionOf]
  cases converted.result with
  | error e => exact iff_of_false nofun fun ⟨_, h, _⟩ => nomatch h
  | ok elements =>
    change (function name precision elements).mapError Failure.render = .ok code ↔ _
    rw [mapError_eq_ok_iff, function_eq, orOverflow_eq_ok_iff]
    simp

end Swift

end SvgDrawing
