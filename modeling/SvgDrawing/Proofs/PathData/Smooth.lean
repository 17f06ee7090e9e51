import SvgDrawing.Proofs.Double.Mirror
import SvgDrawing.Proofs.PathData.Admission
import SvgDrawing.Proofs.PathData.History

/-!
# Smooth curves

A smooth curve has its first control point from what was drawn right before it.  Each curve of a
command is drawn by a pen that has drawn the curves before it in the same command, so what it
continues is read off everything drawn so far, whichever commands that came from
(`Session.smooth_continues_history`).

After anything but a curve there is no control point to continue, and the reflected point is the
current one as long as its coordinates can be doubled.
-/
namespace SvgDrawing.PathData

/-- Each segment is drawn by the pen that has drawn those before it. -/
theorem Pen.getElem?_drawEach {α : Type} (segment : Pen → α → Segment) (pen : Pen) (as : List α)
    (i : Nat) : (pen.drawEach segment as)[i]? =
      as[i]?.map (segment (pen.afterAll ((pen.drawEach segment as).take i))) := by
  induction as generalizing pen i with
  | nil => rfl
  | cons a rest ih =>
    cases i with
    | zero => rfl
    | succ i => exact ih (pen.after (segment pen a)) i

/-- The last segment is a curve. -/
def EndsWithCurve (drawn : List Segment) : Prop :=
  ∃ c₁ c₂ p, drawn.getLast? = some (.cubicTo c₁ c₂ p)

/-- Without a curve at the end there is nothing to continue. -/
theorem lastControl_of_not_endsWithCurve {drawn : List Segment} (h : ¬ EndsWithCurve drawn) :
    lastControl drawn = lastTarget drawn := by
  rw [lastControl]
  split
  · next c₁ c₂ p hlast => exact absurd ⟨c₁, c₂, p, hlast⟩ h
  · rfl

/-- The first control point of a curve that continues what was drawn: the last control point on
the other side of the last target. -/
def continuation (drawn : List Segment) : Point :=
  Point.scale (.ofNat 2) (lastTarget drawn) - lastControl drawn

/-- After anything but a curve, a smooth curve leaves its starting point in no direction exactly
if both coordinates of this point can be doubled. -/
theorem continuation_equals_iff {drawn : List Segment} (h : ¬ EndsWithCurve drawn) :
    (continuation drawn).equals (lastTarget drawn) ↔
      (lastTarget drawn).x.CanDouble ∧ (lastTarget drawn).y.CanDouble := by
  rw [continuation, lastControl_of_not_endsWithCurve h]
  exact Point.reflect_self_equals_iff (lastTarget drawn)

namespace Command

variable {pen : Pen} {drawn : List Segment}

/-- A command with `4 * k` values has `k` pairs of points. -/
theorem length_draw_smoothTo (relative : Bool) (pen : Pen) {k : Nat} {values : List Double}
    (h : values.length = 4 * k) : (draw ⟨.smoothTo, relative⟩ pen values).length = k := by
  have harity : (draw ⟨.smoothTo, relative⟩ pen values).length * 4 = values.length :=
    length_draw ⟨.smoothTo, relative⟩ pen ⟨k, h⟩ (Nat.succ_pos 3)
  omega

/-- Each curve of the command continues what was drawn before it. -/
theorem getElem?_draw_smoothTo (h : pen.Recalls drawn) (relative : Bool) {values : List Double}
    {i : Nat} (hi : i < (draw ⟨.smoothTo, relative⟩ pen values).length) :
    ∃ c₂ p, (draw ⟨.smoothTo, relative⟩ pen values)[i]? =
      some (.cubicTo (continuation (drawn ++ (draw ⟨.smoothTo, relative⟩ pen values).take i))
        c₂ p) := by
  have helem := Pen.getElem?_drawEach (smooth relative) pen (pairs (points values)) i
  have hpen := h.afterAll ((draw ⟨.smoothTo, relative⟩ pen values).take i)
  simp only [draw] at hi hpen helem ⊢
  rw [helem]
  rw [Pen.length_drawEach] at hi
  rw [List.getElem?_eq_getElem hi, continuation, ← hpen.current, ← hpen.previousControl]
  exact ⟨_, _, rfl⟩

end Command

namespace Session

/-- After any steps, a smooth command with `4 * k` values draws `k` curves.  The first control point
of each curve is twice the last target less the last control point, both read off everything drawn
before this curve, the curves of the same command included, and the last target is where the pen
is then.  If what was drawn last is a curve, the control point is the second one of this curve;
otherwise it is the last target, and then the first control point equals this target exactly if
both of its coordinates are finite and below `2 ^ 1023`.  The command is carried out with these
values whenever its arguments are accepted with them, and then these curves are what is
recorded. -/
theorem smooth_continues_history (steps : List Step) (relative : Bool) {k : Nat}
    {values : List Double} (h : values.length = 4 * k) :
    ∃ drawn curves : List Segment, (recorded steps).sink.toList = drawn.map .segment ∧
      Command.draw ⟨.smoothTo, relative⟩ (recorded steps).pen values = curves ∧
      curves.length = k ∧
      (∀ i < k, ((recorded steps).pen.afterAll (curves.take i)).current =
        lastTarget (drawn ++ curves.take i)) ∧
      (∀ i < k, ∃ c₂ p, curves[i]? = some (.cubicTo
        (Point.scale (.ofNat 2) (lastTarget (drawn ++ curves.take i)) -
          lastControl (drawn ++ curves.take i)) c₂ p)) ∧
      (∀ i < k, ¬ EndsWithCurve (drawn ++ curves.take i) →
        lastControl (drawn ++ curves.take i) = lastTarget (drawn ++ curves.take i) ∧
        ((continuation (drawn ++ curves.take i)).equals (lastTarget (drawn ++ curves.take i)) ↔
          (lastTarget (drawn ++ curves.take i)).x.CanDouble ∧
          (lastTarget (drawn ++ curves.take i)).y.CanDouble)) ∧
      ∀ name arguments, Command.ofText? name = some ⟨.smoothTo, relative⟩ →
        Command.arguments ⟨.smoothTo, relative⟩ name arguments.toList = .ok values →
        ((recorded steps).perform (.execute name arguments)).2 = none ∧
        ((recorded steps).perform (.execute name arguments)).1.sink.toList =
          (drawn ++ curves).map .segment := by
  obtain ⟨drawn, hsink, hpen⟩ := recorded_induction remembers_new (fun _ t h => h.extend t) steps
  have hlength := Command.length_draw_smoothTo relative (recorded steps).pen h
  refine ⟨drawn, _, hsink, rfl, hlength, ?_, ?_, ?_, ?_⟩
  · intro i _
    exact (hpen.afterAll _).current
  · intro i hi
    exact Command.getElem?_draw_smoothTo hpen relative (hlength.symm ▸ hi)
  · intro i _ hcurve
    exact ⟨lastControl_of_not_endsWithCurve hcurve, continuation_equals_iff hcurve⟩
  · intro name arguments hname hvalues
    have hexecute : PathData.execute (recorded steps).pen name arguments.toList =
        .ofSegments (Command.draw ⟨.smoothTo, relative⟩ (recorded steps).pen values) :=
      execute_eq_ofSegments hname hvalues
    rw [perform_eq, Step.trace, hexecute]
    refine ⟨rfl, ?_⟩
    rw [extend, Trace.segments_ofSegments, Array.toList_append, hsink, List.map_append]

/-- Eight values after a curve and an ignored command are two curves, and the second one continues
the first. -/
theorem smooth_continues_history_twice :
    ∃ drawn curves : List Segment,
      (recorded [.run "M1 2C3 4 5 6 7 8Q1 2 3 4"]).sink.toList = drawn.map .segment ∧
      Command.draw ⟨.smoothTo, true⟩ (recorded [.run "M1 2C3 4 5 6 7 8Q1 2 3 4"]).pen
        ([1, 2, 3, 4, 5, 6, 7, 8].map Double.ofNat) = curves ∧
      curves.length = 2 ∧
      ∃ c₂ p, curves[1]? = some (.cubicTo
        (Point.scale (.ofNat 2) (lastTarget (drawn ++ curves.take 1)) -
          lastControl (drawn ++ curves.take 1)) c₂ p) := by
  have hvalues : ([1, 2, 3, 4, 5, 6, 7, 8].map Double.ofNat).length = 4 * 2 := rfl
  obtain ⟨drawn, curves, hsink, hdraw, hlength, -, hcontrol, -⟩ :=
    smooth_continues_history [.run "M1 2C3 4 5 6 7 8Q1 2 3 4"] true hvalues
  exact ⟨drawn, curves, hsink, hdraw, hlength, hcontrol 1 (by decide)⟩

end Session

end SvgDrawing.PathData
