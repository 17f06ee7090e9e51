import SvgDrawing.Proofs.Double.Range
import SvgDrawing.Proofs.PathData.Calls

/-!
# Paths with finite coordinates

The values of a command are finite, but what is drawn are sums of these values with the
points reached so far, and reflections of control points.  Such a sum may leave the range of
the doubles, and nothing checks it: the segment is drawn with an infinite coordinate, and
later sums and reflections can make it not-a-number.

So a path has finite coordinates exactly if all sums and reflections on the way are in
range.  The condition is read off the commands one by one, each at the pen that the ones
before it left, which is finite as long as the condition holds.

## Main definitions

* `Command.InRange` — the sums and reflections of one command are in range.
* `CallsInRange`, `PathInRange` — the same for commands in order and for path data.

## Main statements

* `drawCalls_isFinite_iff` — commands in order draw finite segments exactly if they are in
  range.
* `interpret_isFinite_iff` — the same for path data.
* `callsInRange_of_absolute` — absolute commands without reflections are in range.
-/
namespace SvgDrawing

/-- All coordinates are finite. -/
def Segment.isFinite (s : Segment) : Bool := s.points.all Point.isFinite

namespace Segment

theorem isFinite_moveTo (p : Point) : (moveTo p).isFinite ↔ p.isFinite := by
  simp [isFinite, points]

theorem isFinite_lineTo (p : Point) : (lineTo p).isFinite ↔ p.isFinite := by
  simp [isFinite, points]

theorem isFinite_cubicTo (c₁ c₂ p : Point) :
    (cubicTo c₁ c₂ p).isFinite ↔ c₁.isFinite ∧ c₂.isFinite ∧ p.isFinite := by
  simp [isFinite, points]

end Segment

namespace PathData

/-! ## Values -/

theorem isFinite_of_mem_points {values : List Double} (h : ∀ x ∈ values, x.isFinite) :
    ∀ p ∈ points values, p.isFinite := by
  fun_induction points values with
  | case1 x y rest ih =>
    simp only [List.forall_mem_cons] at h ⊢
    exact ⟨(Point.isFinite_iff _).mpr ⟨h.1, h.2.1⟩, ih h.2.2⟩
  | case2 => exact List.forall_mem_nil _

theorem isFinite_of_mem_triples {ps : List Point} (h : ∀ p ∈ ps, p.isFinite) :
    ∀ g ∈ triples ps, g.1.isFinite ∧ g.2.1.isFinite ∧ g.2.2.isFinite := by
  fun_induction triples ps with
  | case1 p q r rest ih =>
    simp only [List.forall_mem_cons] at h ⊢
    exact ⟨⟨h.1, h.2.1, h.2.2.1⟩, ih h.2.2.2⟩
  | case2 => exact List.forall_mem_nil _

theorem isFinite_of_mem_pairs {ps : List Point} (h : ∀ p ∈ ps, p.isFinite) :
    ∀ g ∈ pairs ps, g.1.isFinite ∧ g.2.isFinite := by
  fun_induction pairs ps with
  | case1 p q rest ih =>
    simp only [List.forall_mem_cons] at h ⊢
    exact ⟨⟨h.1, h.2.1⟩, ih h.2.2⟩
  | case2 => exact List.forall_mem_nil _

/-! ## Pens -/

namespace Pen

/-- The pen stands at a finite point and remembers a finite control point. -/
structure IsFinite (pen : Pen) : Prop where
  current : pen.current.isFinite
  control : pen.control.isFinite

theorem isFinite_fresh : fresh.IsFinite := ⟨rfl, rfl⟩

variable {pen : Pen}

theorem IsFinite.previousControl (h : pen.IsFinite) : pen.previousControl.isFinite := by
  rw [Pen.previousControl]
  split
  · exact h.control
  · exact h.current

theorem IsFinite.base (h : pen.IsFinite) (relative : Bool) : (pen.base relative).isFinite := by
  cases relative with
  | false => exact Point.isFinite_origin
  | true => exact h.current

/-- Finite segments keep the pen finite. -/
theorem IsFinite.after (h : pen.IsFinite) {s : Segment} (hs : s.isFinite) :
    (pen.after s).IsFinite := by
  cases s with
  | moveTo p => exact ⟨(Segment.isFinite_moveTo p).mp hs, h.control⟩
  | lineTo p => exact ⟨(Segment.isFinite_lineTo p).mp hs, h.control⟩
  | cubicTo c₁ c₂ p =>
    obtain ⟨-, hc, hp⟩ := (Segment.isFinite_cubicTo c₁ c₂ p).mp hs
    exact ⟨hp, hc⟩
  | closePath => exact ⟨h.current, h.control⟩

theorem IsFinite.afterAll (h : pen.IsFinite) {drawn : List Segment}
    (hs : ∀ s ∈ drawn, s.isFinite) : (pen.afterAll drawn).IsFinite := by
  induction drawn generalizing pen with
  | nil => exact h
  | cons s rest ih =>
    rw [List.forall_mem_cons] at hs
    exact ih (h.after hs.1) hs.2

/-- A condition on each argument, at the pen that the segments of those before it leave. -/
def Along {α : Type} (segment : Pen → α → Segment) (holds : Pen → α → Prop) (pen : Pen) :
    List α → Prop
  | [] => True
  | a :: rest => holds pen a ∧ Along segment holds (pen.after (segment pen a)) rest

instance decidableAlong {α : Type} (segment : Pen → α → Segment) (holds : Pen → α → Prop)
    [∀ pen a, Decidable (holds pen a)] (pen : Pen) :
    (as : List α) → Decidable (Along segment holds pen as)
  | [] => .isTrue trivial
  | a :: rest =>
    have := decidableAlong segment holds (pen.after (segment pen a)) rest
    inferInstanceAs (Decidable (holds pen a ∧ _))

theorem along_of_forall {α : Type} {segment : Pen → α → Segment} {holds : Pen → α → Prop}
    (h : ∀ pen a, holds pen a) (pen : Pen) (as : List α) : pen.Along segment holds as := by
  induction as generalizing pen with
  | nil => exact trivial
  | cons a rest ih => exact ⟨h pen a, ih _⟩

/-- A condition that decides whether each segment is finite, as long as the pen is, decides
along the way whether all are. -/
theorem IsFinite.drawEach_iff {α : Type} {segment : Pen → α → Segment}
    {holds : Pen → α → Prop} {admissible : α → Prop}
    (step : ∀ {pen : Pen}, pen.IsFinite → ∀ a, admissible a →
      ((segment pen a).isFinite ↔ holds pen a))
    (h : pen.IsFinite) {as : List α} (has : ∀ a ∈ as, admissible a) :
    (∀ s ∈ pen.drawEach segment as, s.isFinite) ↔ pen.Along segment holds as := by
  induction as generalizing pen with
  | nil => exact iff_of_true (List.forall_mem_nil _) trivial
  | cons a rest ih =>
    rw [List.forall_mem_cons] at has
    simp only [drawEach, Along, List.forall_mem_cons, ← step h a has.1]
    exact and_congr_right fun hs => ih (h.after hs) has.2

end Pen

/-! ## Commands -/

namespace Command

/-- The point of a line is in range. -/
def LineInRange (relative : Bool) (pen : Pen) (p : Point) : Prop :=
  (pen.base relative).SumInRange p

/-- A horizontal line adds its coordinate only if it is relative. -/
def HorizontalInRange (relative : Bool) (pen : Pen) (x : Double) : Prop :=
  relative → Double.InRange (pen.current.x.units + x.units)

/-- A vertical line adds its coordinate only if it is relative. -/
def VerticalInRange (relative : Bool) (pen : Pen) (y : Double) : Prop :=
  relative → Double.InRange (pen.current.y.units + y.units)

/-- The three points of a curve are in range. -/
def CubicInRange (relative : Bool) (pen : Pen) (g : Point × Point × Point) : Prop :=
  (pen.base relative).SumInRange g.1 ∧ (pen.base relative).SumInRange g.2.1 ∧
    (pen.base relative).SumInRange g.2.2

/-- The reflected control point of a smooth curve and its two points are in range. -/
def SmoothInRange (relative : Bool) (pen : Pen) (g : Point × Point) : Prop :=
  pen.previousControl.ReflectionInRange pen.current ∧ (pen.base relative).SumInRange g.1 ∧
    (pen.base relative).SumInRange g.2

/-- The point of a move and those of the lines after it are in range. -/
def MoveInRange (relative : Bool) (pen : Pen) : List Point → Prop
  | [] => True
  | p :: rest =>
    LineInRange relative pen p ∧
      (pen.after (.moveTo (pen.base relative + p))).Along (line relative) (LineInRange relative) rest

/-- All sums and reflections that a command makes with its values are in range. -/
def InRange (c : Command) (pen : Pen) (values : List Double) : Prop :=
  let relative := c.relative
  match c.verb with
  | .moveTo => MoveInRange relative pen (points values)
  | .lineTo => pen.Along (line relative) (LineInRange relative) (points values)
  | .horizontalTo => pen.Along (horizontal relative) (HorizontalInRange relative) values
  | .verticalTo => pen.Along (vertical relative) (VerticalInRange relative) values
  | .cubicTo => pen.Along (cubic relative) (CubicInRange relative) (triples (points values))
  | .smoothTo => pen.Along (smooth relative) (SmoothInRange relative) (pairs (points values))
  | .closePath => True

instance (relative : Bool) (pen : Pen) (p : Point) : Decidable (LineInRange relative pen p) :=
  inferInstanceAs (Decidable (Point.SumInRange _ _))

instance (relative : Bool) (pen : Pen) (x : Double) : Decidable (HorizontalInRange relative pen x) :=
  inferInstanceAs (Decidable (_ → _))

instance (relative : Bool) (pen : Pen) (y : Double) : Decidable (VerticalInRange relative pen y) :=
  inferInstanceAs (Decidable (_ → _))

instance (relative : Bool) (pen : Pen) (g : Point × Point × Point) :
    Decidable (CubicInRange relative pen g) :=
  inferInstanceAs (Decidable (_ ∧ _))

instance (relative : Bool) (pen : Pen) (g : Point × Point) :
    Decidable (SmoothInRange relative pen g) :=
  inferInstanceAs (Decidable (_ ∧ _))

instance (relative : Bool) (pen : Pen) : (ps : List Point) → Decidable (MoveInRange relative pen ps)
  | [] => .isTrue trivial
  | _ :: _ => inferInstanceAs (Decidable (_ ∧ _))

instance (c : Command) (pen : Pen) (values : List Double) : Decidable (c.InRange pen values) :=
  match c with
  | ⟨.moveTo, _⟩ => inferInstanceAs (Decidable (MoveInRange _ _ _))
  | ⟨.lineTo, _⟩ | ⟨.horizontalTo, _⟩ | ⟨.verticalTo, _⟩ | ⟨.cubicTo, _⟩ | ⟨.smoothTo, _⟩ =>
    inferInstanceAs (Decidable (Pen.Along _ _ _ _))
  | ⟨.closePath, _⟩ => .isTrue trivial

variable {pen : Pen}

theorem sum_isFinite_iff (h : pen.IsFinite) (relative : Bool) {p : Point} (hp : p.isFinite) :
    (pen.base relative + p).isFinite ↔ (pen.base relative).SumInRange p :=
  Point.isFinite_add_iff (h.base relative) hp

theorem line_isFinite_iff (relative : Bool) (h : pen.IsFinite) (p : Point) (hp : p.isFinite) :
    (line relative pen p).isFinite ↔ LineInRange relative pen p := by
  rw [line, Segment.isFinite_lineTo]
  exact sum_isFinite_iff h relative hp

theorem horizontal_isFinite_iff (relative : Bool) (h : pen.IsFinite) (x : Double)
    (hx : x.isFinite) : (horizontal relative pen x).isFinite ↔ HorizontalInRange relative pen x := by
  obtain ⟨hcx, hcy⟩ := (Point.isFinite_iff _).mp h.current
  rw [horizontal, Pen.horizontal, Segment.isFinite_lineTo, Point.isFinite_iff, HorizontalInRange]
  cases relative with
  | false => exact iff_of_true ⟨hx, hcy⟩ nofun
  | true => simpa [Point.withX, hcy] using Double.isFinite_add_iff hcx hx

theorem vertical_isFinite_iff (relative : Bool) (h : pen.IsFinite) (y : Double)
    (hy : y.isFinite) : (vertical relative pen y).isFinite ↔ VerticalInRange relative pen y := by
  obtain ⟨hcx, hcy⟩ := (Point.isFinite_iff _).mp h.current
  rw [vertical, Pen.vertical, Segment.isFinite_lineTo, Point.isFinite_iff, VerticalInRange]
  cases relative with
  | false => exact iff_of_true ⟨hcx, hy⟩ nofun
  | true => simpa [Point.withY, hcx] using Double.isFinite_add_iff hcy hy

theorem cubic_isFinite_iff (relative : Bool) (h : pen.IsFinite) (g : Point × Point × Point)
    (hg : g.1.isFinite ∧ g.2.1.isFinite ∧ g.2.2.isFinite) :
    (cubic relative pen g).isFinite ↔ CubicInRange relative pen g := by
  rw [cubic, Segment.isFinite_cubicTo, sum_isFinite_iff h relative hg.1,
    sum_isFinite_iff h relative hg.2.1, sum_isFinite_iff h relative hg.2.2]
  rfl

theorem smooth_isFinite_iff (relative : Bool) (h : pen.IsFinite) (g : Point × Point)
    (hg : g.1.isFinite ∧ g.2.isFinite) :
    (smooth relative pen g).isFinite ↔ SmoothInRange relative pen g := by
  rw [smooth, Pen.smooth, Segment.isFinite_cubicTo, sum_isFinite_iff h relative hg.1,
    sum_isFinite_iff h relative hg.2, Point.isFinite_reflect_iff h.previousControl h.current]
  rfl

/-- A command with finite values draws finite segments exactly if it is in range. -/
theorem draw_isFinite_iff (c : Command) (h : pen.IsFinite) {values : List Double}
    (hv : ∀ x ∈ values, x.isFinite) :
    (∀ s ∈ c.draw pen values, s.isFinite) ↔ c.InRange pen values := by
  obtain ⟨verb, relative⟩ := c
  have hp := isFinite_of_mem_points hv
  cases verb with
  | moveTo =>
    simp only [draw, InRange, MoveInRange]
    cases hps : points values with
    | nil => exact iff_of_true (List.forall_mem_nil _) trivial
    | cons p rest =>
      rw [hps, List.forall_mem_cons] at hp
      have hfirst : (Segment.moveTo (pen.base relative + p)).isFinite ↔
          LineInRange relative pen p := by
        rw [Segment.isFinite_moveTo]
        exact sum_isFinite_iff h relative hp.1
      simp only [List.forall_mem_cons, ← hfirst]
      exact and_congr_right fun hm => (h.after hm).drawEach_iff (line_isFinite_iff relative) hp.2
  | lineTo => exact h.drawEach_iff (line_isFinite_iff relative) hp
  | horizontalTo => exact h.drawEach_iff (horizontal_isFinite_iff relative) hv
  | verticalTo => exact h.drawEach_iff (vertical_isFinite_iff relative) hv
  | cubicTo => exact h.drawEach_iff (cubic_isFinite_iff relative) (isFinite_of_mem_triples hp)
  | smoothTo => exact h.drawEach_iff (smooth_isFinite_iff relative) (isFinite_of_mem_pairs hp)
  | closePath => exact iff_of_true (by simp [draw, Segment.isFinite, Segment.points]) trivial

/-- What counts from the origin is in range, reflections aside. -/
theorem inRange_of_absolute {c : Command} (habsolute : c.relative = false)
    (hverb : c.verb ≠ .smoothTo) (pen : Pen) (values : List Double) : c.InRange pen values := by
  obtain ⟨verb, relative⟩ := c
  subst habsolute
  have hline : ∀ pen p, LineInRange false pen p := fun _ p => Point.sumInRange_origin p
  cases verb with
  | moveTo =>
    simp only [InRange]
    cases points values with
    | nil => exact trivial
    | cons p rest => exact ⟨hline pen p, Pen.along_of_forall hline _ rest⟩
  | lineTo => exact Pen.along_of_forall hline pen _
  | horizontalTo => exact Pen.along_of_forall (fun _ _ => nofun) pen _
  | verticalTo => exact Pen.along_of_forall (fun _ _ => nofun) pen _
  | cubicTo =>
    exact Pen.along_of_forall
      (fun pen g => ⟨hline pen g.1, hline pen g.2.1, hline pen g.2.2⟩) pen _
  | smoothTo => exact absurd rfl hverb
  | closePath => exact trivial

end Command

/-! ## Sequences and path data -/

/-- All commands are in range where they stand. -/
def CallsInRange (pen : Pen) : List Call → Prop
  | [] => True
  | call :: rest =>
    call.command.InRange pen call.values ∧
      CallsInRange (pen.afterAll (call.command.draw pen call.values)) rest

instance decidableCallsInRange (pen : Pen) : (calls : List Call) → Decidable (CallsInRange pen calls)
  | [] => .isTrue trivial
  | call :: rest =>
    have := decidableCallsInRange (pen.afterAll (call.command.draw pen call.values)) rest
    inferInstanceAs (Decidable (call.command.InRange pen call.values ∧ _))

/-- All sums and reflections that path data make are in range. -/
def PathInRange (d : String) : Prop := CallsInRange .fresh (callsOf d)

instance (d : String) : Decidable (PathInRange d) :=
  inferInstanceAs (Decidable (CallsInRange _ _))

theorem drawCalls_isFinite_iff {pen : Pen} (h : pen.IsFinite) {calls : List Call}
    (hv : ∀ call ∈ calls, ∀ x ∈ call.values, x.isFinite) :
    (∀ s ∈ drawCalls pen calls, s.isFinite) ↔ CallsInRange pen calls := by
  induction calls generalizing pen with
  | nil => exact iff_of_true (List.forall_mem_nil _) trivial
  | cons call rest ih =>
    rw [List.forall_mem_cons] at hv
    simp only [drawCalls, CallsInRange, List.forall_mem_append,
      ← call.command.draw_isFinite_iff h hv.1]
    exact and_congr_right fun hs => ih (h.afterAll hs) hv.2

/-- Absolute commands without reflections are in range in any order. -/
theorem callsInRange_of_absolute {calls : List Call}
    (h : ∀ call ∈ calls, call.command.relative = false ∧ call.command.verb ≠ .smoothTo)
    (pen : Pen) : CallsInRange pen calls := by
  induction calls generalizing pen with
  | nil => exact trivial
  | cons call rest ih =>
    rw [List.forall_mem_cons] at h
    exact ⟨Command.inRange_of_absolute h.1.1 h.1.2 pen call.values, ih h.2 _⟩

/-- What a path draws by itself has finite coordinates exactly if the path is in range. -/
theorem interpret_isFinite_iff {d : String} {segments : List Segment}
    (h : interpret d = .ok segments) : (∀ s ∈ segments, s.isFinite) ↔ PathInRange d := by
  obtain ⟨-, rfl⟩ := (interpret_eq_ok_iff d segments).mp h
  exact drawCalls_isFinite_iff Pen.isFinite_fresh fun _ => isFinite_of_mem_callsOf

example : PathInRange "M1e308 0h-1e308v7S1 2 3 4" := by decide +kernel

end PathData

end SvgDrawing
