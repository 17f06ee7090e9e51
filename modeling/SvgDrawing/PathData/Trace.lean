import SvgDrawing.Log
import SvgDrawing.PathData.Pen

/-!
# Carrying out path data

Carrying out path data gives a `Trace`: what happened in order, segments drawn and
commands ignored, and the error that ended it, if one did.  A command with unusable
arguments draws nothing at all, so a trace that ends with an error is a trace of the
commands before the failing one.

The trace depends on the pen alone.  Where the segments go, into a list or into program
text, is decided by who consumes the trace.  Traces are sequenced by `Trace.andThen`,
which stops at an error; `execute` gives the trace of one command and `run` that of path
data.
-/

namespace SvgDrawing.PathData

/-- Something that happens while path data are carried out. -/
inductive Event where
  | drawn (s : Segment)
  | ignored (d : Diagnostic)
  deriving DecidableEq

/-- What happened, in order, and what ended it early. -/
structure Trace where
  events : List Event
  error : Option ConversionError
  deriving DecidableEq

namespace Trace

/-- Nothing happened. -/
def empty : Trace := ⟨[], none⟩

/-- Nothing happened but an error. -/
def failed (e : ConversionError) : Trace := ⟨[], some e⟩

/-- Segments drawn without an error. -/
def ofSegments (segments : List Segment) : Trace := ⟨segments.map .drawn, none⟩

/-- The segments drawn, in order. -/
def segments (t : Trace) : List Segment :=
  t.events.filterMap fun | .drawn s => some s | .ignored _ => none

/-- The commands ignored, in order. -/
def diagnostics (t : Trace) : List Diagnostic :=
  t.events.filterMap fun | .drawn _ => none | .ignored d => some d

/-- The log of a trace: a warning for each ignored command. -/
def log (t : Trace) : List Log.Entry := t.diagnostics.map Log.ofDiagnostic

/-- The pen after a trace. -/
def penAfter (pen : Pen) (t : Trace) : Pen := pen.afterAll t.segments

/-- One trace and then another, unless the first one ends with an error. -/
def andThen (t : Trace) (next : Trace) : Trace :=
  match t.error with
  | some _ => t
  | none => ⟨t.events ++ next.events, next.error⟩

/-- Nothing in front changes nothing. -/
theorem empty_andThen (t : Trace) : empty.andThen t = t := rfl

theorem andThen_empty (t : Trace) : t.andThen empty = t := by
  obtain ⟨events, error⟩ := t
  cases error <;> simp [andThen, empty]

theorem andThen_assoc (s t u : Trace) : (s.andThen t).andThen u = s.andThen (t.andThen u) := by
  obtain ⟨_, es⟩ := s
  obtain ⟨_, et⟩ := t
  cases es <;> cases et <;> simp [andThen, List.append_assoc]

@[simp] theorem segments_ofSegments (segments : List Segment) :
    (ofSegments segments).segments = segments := by
  unfold ofSegments Trace.segments
  induction segments with
  | nil => rfl
  | cons s rest ih => exact congrArg (s :: ·) ih

end Trace

/-- One command with the text of its arguments.  A command the pen does not know is
ignored and noted. -/
def execute (pen : Pen) (command : String) (arguments : List Char) : Trace :=
  match Command.ofText? command with
  | none => ⟨[.ignored ⟨command, String.ofList (Text.strip arguments)⟩], none⟩
  | some c =>
    match c.arguments command arguments with
    | .error e => .failed e
    | .ok values => .ofSegments (c.draw pen values)

/-- Tokens in order, up to the first error. -/
def runTokens (pen : Pen) : List Token → Trace
  | [] => .empty
  | t :: rest =>
    let first := execute pen (String.ofList [t.letter]) t.arguments
    first.andThen (runTokens (first.penAfter pen) rest)

/-- The commands of path data in order, up to the first error. -/
def run (pen : Pen) (s : String) : Trace := runTokens pen (tokenize s.toList)

/-- The segments that a path draws by itself. -/
def interpret (s : String) : Except ConversionError (List Segment) :=
  let t := run .fresh s
  match t.error with
  | some e => .error e
  | none => .ok t.segments

end SvgDrawing.PathData
