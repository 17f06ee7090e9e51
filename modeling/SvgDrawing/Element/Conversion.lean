import SvgDrawing.Element.Drawable
import SvgDrawing.Element.Shape
import SvgDrawing.Failure

/-!
# Converting elements

A drawable element becomes the operations of its shape between a beginning and an end.
A document becomes the list of its elements so converted, by `convertTree`.  What to do
about an element that cannot be converted is the caller's `Policy`: stop there, or leave
it out with a warning.
-/

namespace SvgDrawing

/-- An element as operations, with the commands of its path that were ignored. -/
structure Converted where
  tag : String
  id : Option String
  operations : List Operation
  diagnostics : List Diagnostic
  deriving DecidableEq

namespace Drawable

/-- The body of a shape, with the trace of its path if it has one. -/
def body (d : Drawable) : Except ConversionError (List Operation) × PathData.Trace :=
  match d.kind with
  | .rect => ((Shape.rectangle d.attributes).map fun r => [r], .empty)
  | .polygon => ((Shape.polygon d.attributes).map fun segments => segments.map .segment, .empty)
  | .path =>
    let t := Shape.path d.attributes
    match t.error with
    | some e => (.error e, t)
    | none => (.ok (t.segments.map .segment), t)

/-- An element as operations: its body between a start and a fill. -/
def convert (d : Drawable) : Logged ConversionError Converted :=
  match d.body with
  | (.error e, t) => ⟨t.log, .error e⟩
  | (.ok body, t) =>
    let operations := .start :: body ++ [.fill]
    let done := "Converted " ++ d.label ++ " into " ++ toString operations.length ++ " operations"
    ⟨t.log ++ [⟨.debug, done⟩], .ok ⟨d.tag, d.id?, operations, t.diagnostics⟩⟩

end Drawable

/-! ## Policies -/

/-- What an element that cannot be converted means for the document. -/
inductive Policy where
  /-- The document cannot be converted. -/
  | stop
  /-- The element is left out. -/
  | skip
  deriving DecidableEq

/-- The policy with a name. -/
def Policy.ofName? : String → Option Policy
  | "raise" => some .stop
  | "skip" => some .skip
  | _ => none

/-! ## Documents -/

/-- Converts the shapes met on the way through a document, in order. -/
def convertVisits (policy : Policy) : List Visit → Logged ConversionError (List Converted)
  | [] => ⟨[], .ok []⟩
  | .hidden d :: rest =>
    let later := convertVisits policy rest
    ⟨⟨.debug, "Skipping hidden element " ++ d.label⟩ :: later.log, later.result⟩
  | .drawn d :: rest =>
    let this := d.convert
    match this.result, policy with
    | .ok converted, _ =>
      let later := convertVisits policy rest
      ⟨this.log ++ later.log, later.result.map (converted :: ·)⟩
    | .error e, .stop => ⟨this.log, .error e⟩
    | .error e, .skip =>
      let later := convertVisits policy rest
      ⟨this.log ++ ⟨.warning, "Skipping " ++ d.label ++ ": " ++ e.message⟩ :: later.log,
        later.result⟩

/-- Converts all drawable elements of a document.  The policy is given by its name, which
is checked before any element is looked at. -/
def convertTree (root : Node) (policy : String) : Logged Failure (List Converted) :=
  match Policy.ofName? policy with
  | none => ⟨[], .error (.invalidPolicy policy)⟩
  | some policy =>
    let done := convertVisits policy root.visitsBelow
    ⟨done.log, done.result.mapError .conversion⟩

end SvgDrawing
