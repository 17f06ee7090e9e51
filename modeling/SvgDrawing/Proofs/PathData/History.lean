import SvgDrawing.Proofs.PathData.Recording

/-!
# The pen and what it drew

A pen remembers no more of a path than its segments tell: the kind of the last one, the target of
the last one that has a target, and the second control point of the last one if that is a curve.
These three are read off a list of segments here, without a pen (`lastKind`, `lastTarget`,
`lastControl`), and every segment that is drawn keeps the pen in agreement with them
(`Pen.Recalls`).
-/
namespace SvgDrawing

namespace Segment

/-- The kind of a segment. -/
def kind : Segment → PathData.LastDrawn
  | moveTo _ => .move
  | lineTo _ => .line
  | cubicTo .. => .cubic
  | closePath => .close

/-- The point that a segment leads to.  Closing a subpath leads nowhere. -/
def target? : Segment → Option Point
  | moveTo p | lineTo p | cubicTo _ _ p => some p
  | closePath => none

theorem kind_ne_nothing (s : Segment) : s.kind ≠ .nothing := by
  cases s <;> simp [kind]

end Segment

namespace PathData

/-! ## What segments tell -/

/-- The kind of the last segment. -/
def lastKind (drawn : List Segment) : LastDrawn := (drawn.getLast?.map Segment.kind).getD .nothing

/-- The target of the last segment that has one, and the origin if there is none. -/
def lastTarget (drawn : List Segment) : Point :=
  (drawn.filterMap Segment.target?).getLast?.getD .origin

/-- The second control point of the last segment if that is a curve, and the last target
otherwise. -/
def lastControl (drawn : List Segment) : Point :=
  match drawn.getLast? with
  | some (.cubicTo _ c _) => c
  | _ => lastTarget drawn

@[simp] theorem lastKind_append (drawn : List Segment) (s : Segment) :
    lastKind (drawn ++ [s]) = s.kind := by
  simp [lastKind]

@[simp] theorem lastTarget_append (drawn : List Segment) (s : Segment) :
    lastTarget (drawn ++ [s]) = s.target?.getD (lastTarget drawn) := by
  cases s <;> simp [lastTarget, Segment.target?]

/-- Nothing is the last kind only where nothing was drawn. -/
theorem lastKind_eq_nothing_iff (drawn : List Segment) : lastKind drawn = .nothing ↔ drawn = [] := by
  rcases List.eq_nil_or_concat drawn with rfl | ⟨front, s, rfl⟩
  · simp [lastKind]
  · simp [Segment.kind_ne_nothing]

/-! ## Agreement -/

namespace Pen

/-- The pen shows what the segments tell. -/
structure Recalls (pen : Pen) (drawn : List Segment) : Prop where
  last : pen.last = lastKind drawn
  current : pen.current = lastTarget drawn
  previousControl : pen.previousControl = lastControl drawn

theorem recalls_fresh : fresh.Recalls [] := ⟨rfl, rfl, rfl⟩

/-- Drawing a segment keeps the agreement. -/
theorem Recalls.after {pen : Pen} {drawn : List Segment} (h : pen.Recalls drawn) (s : Segment) :
    (pen.after s).Recalls (drawn ++ [s]) := by
  refine ⟨?_, ?_, ?_⟩
  · cases s <;> simp [Pen.after, Segment.kind]
  · cases s <;> simp [Pen.after, Segment.target?, h.current]
  · cases s <;> simp [Pen.after, Pen.previousControl, lastControl, Segment.target?, h.current]

/-- Drawing segments one after the other keeps the agreement. -/
theorem Recalls.afterAll {pen : Pen} {drawn : List Segment} (h : pen.Recalls drawn)
    (segments : List Segment) : (pen.afterAll segments).Recalls (drawn ++ segments) := by
  induction segments generalizing pen drawn with
  | nil => simpa [Pen.afterAll] using h
  | cons s rest ih => simpa [Pen.afterAll] using ih (h.after s)

end Pen

/-! ## Sessions -/

namespace Session

/-- The recording of a session holds segments only, and the pen agrees with them. -/
def Remembers (s : Session Recording) : Prop :=
  ∃ drawn : List Segment, s.sink.toList = drawn.map .segment ∧ s.pen.Recalls drawn

theorem remembers_new : Remembers (.new #[]) := ⟨[], rfl, Pen.recalls_fresh⟩

/-- A trace keeps the agreement, also one that ends with an error. -/
theorem Remembers.extend {s : Session Recording} (h : s.Remembers) (t : Trace) :
    (s.extend t).Remembers := by
  obtain ⟨drawn, hsink, hpen⟩ := h
  refine ⟨drawn ++ t.segments, ?_, hpen.afterAll t.segments⟩
  simp [Session.extend, hsink]

/-- After any steps from a new path, failing ones included, the pen is determined by the
recorded operations: they are segments, there are none exactly if the pen has drawn
nothing, and kind, current point and control point are those of the last ones. -/
theorem recorded_recalls (steps : List Step) :
    ∃ drawn : List Segment,
      (recorded steps).sink.toList = drawn.map .segment ∧
      ((recorded steps).pen.last = .nothing ↔ drawn = []) ∧
      (recorded steps).pen.last = lastKind drawn ∧
      (recorded steps).pen.current = lastTarget drawn ∧
      (recorded steps).pen.previousControl = lastControl drawn := by
  obtain ⟨drawn, hsink, hpen⟩ := recorded_induction remembers_new (fun _ t h => h.extend t) steps
  refine ⟨drawn, hsink, ?_, hpen.last, hpen.current, hpen.previousControl⟩
  rw [hpen.last, lastKind_eq_nothing_iff]

end Session

end PathData

end SvgDrawing
