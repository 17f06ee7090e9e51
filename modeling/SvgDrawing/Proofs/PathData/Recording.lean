import SvgDrawing.PathData.Session

/-!
# Sessions into a recording

A recording refuses nothing, so a step into one carries out its whole trace: the pen draws all
segments, the recording gets all of them, and every ignored command is noted.  What holds of a
session therefore follows from what holds of traces: `Session.recorded_induction` leads from each
trace to all steps.
-/
namespace SvgDrawing.PathData

namespace Trace

@[simp] theorem segments_empty (e : Option ConversionError) : (⟨[], e⟩ : Trace).segments = [] := rfl
@[simp] theorem diagnostics_empty (e : Option ConversionError) :
    (⟨[], e⟩ : Trace).diagnostics = [] := rfl
@[simp] theorem segments_drawn (s : Segment) (rest : List Event) (e : Option ConversionError) :
    (⟨.drawn s :: rest, e⟩ : Trace).segments = s :: segments ⟨rest, e⟩ := rfl
@[simp] theorem diagnostics_drawn (s : Segment) (rest : List Event) (e : Option ConversionError) :
    (⟨.drawn s :: rest, e⟩ : Trace).diagnostics = diagnostics ⟨rest, e⟩ := rfl
@[simp] theorem segments_ignored (d : Diagnostic) (rest : List Event)
    (e : Option ConversionError) :
    (⟨.ignored d :: rest, e⟩ : Trace).segments = segments ⟨rest, e⟩ := rfl
@[simp] theorem diagnostics_ignored (d : Diagnostic) (rest : List Event)
    (e : Option ConversionError) :
    (⟨.ignored d :: rest, e⟩ : Trace).diagnostics = d :: diagnostics ⟨rest, e⟩ := rfl

@[simp] theorem diagnostics_ofSegments (segments : List Segment) :
    (ofSegments segments).diagnostics = [] := by
  induction segments with
  | nil => rfl
  | cons s rest ih => exact ih

end Trace

namespace Session

/-- The session after a trace: all segments are drawn and recorded, all ignored commands
are noted. -/
def extend (s : Session Recording) (t : Trace) : Session Recording where
  pen := t.penAfter s.pen
  sink := s.sink ++ (t.segments.map Operation.segment).toArray
  diagnostics := s.diagnostics ++ t.diagnostics.toArray

/-- Events are absorbed to the end. -/
theorem absorb_eq (s : Session Recording) (t : Trace) : s.absorb t.events = (s.extend t, none) := by
  obtain ⟨events, error⟩ := t
  induction events generalizing s with
  | nil => simp [absorb, extend, Trace.penAfter, Pen.afterAll]
  | cons event rest ih =>
    cases event with
    | drawn segment =>
      have h := ih ⟨s.pen.after segment, s.sink.push (.segment segment), s.diagnostics⟩
      simp only [absorb, Sink.emit] at h ⊢
      rw [h]
      simp [extend, Trace.penAfter, Pen.afterAll]
    | ignored d =>
      have h := ih { s with diagnostics := s.diagnostics.push d }
      simp only [absorb] at h ⊢
      rw [h]
      simp [extend, Trace.penAfter]

/-- A step carries out its trace, and fails as its trace does. -/
theorem perform_eq (s : Session Recording) (step : Step) :
    s.perform step =
      (s.extend (step.trace s.pen), (step.trace s.pen).error.map .conversion) := by
  simp only [perform, absorb_eq]

/-- An error without events leaves everything as it was. -/
@[simp] theorem extend_failed (s : Session Recording) (e : ConversionError) :
    s.extend (.failed e) = s := by
  simp [extend, Trace.failed, Trace.penAfter, Pen.afterAll]

theorem pen_extend_ofSegments (s : Session Recording) (drawn : List Segment) :
    (s.extend (.ofSegments drawn)).pen = s.pen.afterAll drawn := by
  simp [extend, Trace.penAfter]

/-- Segments one part after the other. -/
theorem extend_ofSegments_append (s : Session Recording) (front back : List Segment) :
    s.extend (.ofSegments (front ++ back)) =
      (s.extend (.ofSegments front)).extend (.ofSegments back) := by
  simp [extend, Trace.penAfter, Pen.afterAll]

/-- The session after steps in order, whether they fail or not. -/
def performAll {σ ε : Type} [Sink σ ε] (s : Session σ) : List Step → Session σ
  | [] => s
  | step :: rest => (s.perform step).1.performAll rest

/-- A new path after steps: these are the sessions that can be reached. -/
def recorded (steps : List Step) : Session Recording := performAll (.new #[]) steps

/-- To hold after any steps, a property has to hold of a new path and be kept by every
trace. -/
theorem recorded_induction {P : Session Recording → Prop} (new : P (.new #[]))
    (extend : ∀ s t, P s → P (s.extend t)) (steps : List Step) : P (recorded steps) := by
  suffices ∀ s, P s → P (performAll s steps) from this _ new
  induction steps with
  | nil => intro s h; exact h
  | cons step rest ih =>
    intro s h
    refine ih _ ?_
    rw [perform_eq]
    exact extend s _ h

end Session

end SvgDrawing.PathData
