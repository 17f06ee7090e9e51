import SvgDrawing.Drawing.Operation
import SvgDrawing.PathData.Trace

/-!
# Sessions

A session is a path that is drawn step by step into a sink: whole path data, single
commands, or segments given directly.  A step may fail, because of its arguments or
because the sink refuses a segment, and the session goes on from where it got.  The pen
has moved already when the sink sees a segment, so a refused segment is one the pen has
drawn.

What a step means is told by its trace, so `Session.perform` only has to take in the
events of a trace one by one.
-/

namespace SvgDrawing.PathData

/-- One request. -/
inductive Step where
  | run (data : String)
  | execute (command : String) (arguments : String)
  | moveTo (point : Point)
  | lineTo (point : Point)
  | curveTo (control₁ control₂ target : Point)
  | smoothTo (control target : Point)
  | horizontalTo (x : Double)
  | verticalTo (y : Double)
  | closePath

/-- What a request makes a pen do. -/
def Step.trace (pen : Pen) : Step → Trace
  | run data => PathData.run pen data
  | execute command arguments => PathData.execute pen command arguments.toList
  | moveTo p => .ofSegments [.moveTo p]
  | lineTo p => .ofSegments [.lineTo p]
  | curveTo c₁ c₂ p => .ofSegments [.cubicTo c₁ c₂ p]
  | smoothTo c p => .ofSegments [pen.smooth c p]
  | horizontalTo x => .ofSegments [pen.horizontal x]
  | verticalTo y => .ofSegments [pen.vertical y]
  | closePath => .ofSegments [.closePath]

/-- A path being drawn into a sink. -/
structure Session (σ : Type) where
  pen : Pen
  sink : σ
  diagnostics : Array Diagnostic

/-- Why a step failed. -/
inductive StepError (ε : Type) where
  | conversion (e : ConversionError)
  | refused (e : ε)

namespace Session

variable {σ ε : Type} [Sink σ ε]

/-- A new path into a sink. -/
def new (sink : σ) : Session σ := ⟨.fresh, sink, #[]⟩

/-- The session after events, up to the first segment that the sink refuses. -/
def absorb (s : Session σ) : List Event → Session σ × Option ε
  | [] => (s, none)
  | .ignored d :: rest => absorb { s with diagnostics := s.diagnostics.push d } rest
  | .drawn segment :: rest =>
    let moved := { s with pen := s.pen.after segment }
    match Sink.emit s.sink (.segment segment) with
    | .error e => (moved, some e)
    | .ok sink => absorb { moved with sink } rest

/-- The session after a step, and why the step failed if it did. -/
def perform (s : Session σ) (step : Step) : Session σ × Option (StepError ε) :=
  let t := step.trace s.pen
  match s.absorb t.events with
  | (s', some e) => (s', some (.refused e))
  | (s', none) => (s', t.error.map .conversion)

end Session

end SvgDrawing.PathData
