import Mathlib.Data.List.Forall2
import SvgDrawing.Proofs.Double.SameNumber
import SvgDrawing.Proofs.PathData.Calls

/-!
# Relative commands as absolute ones

A relative command is an absolute one whose values have been added to their bases: each
point of a line and each single coordinate is the base of the next, and a curve has one
base for all its points.  The rewritten commands draw the same segments up to the signs of
zeros, which absolute coordinates lose because the origin is added to them.

The proof is a simulation.  Pens that are the same up to signs of zeros draw such segments
and stay such pens, also through a reflected control point and through sums that overflow.

## Main statements

* `Command.resolved` — the values of a command after adding the bases.
* `absoluteCalls` — a sequence of commands with all relative ones rewritten.
* `Command.draw_resolved_same` — one command and its rewriting.
* `drawCalls_absoluteCalls` — a sequence and its rewriting.
-/
namespace SvgDrawing

/-- The same kind of segment with the same numbers. -/
inductive Segment.Same : Segment → Segment → Prop
  | moveTo {p q : Point} (h : p.Same q) : Same (.moveTo p) (.moveTo q)
  | lineTo {p q : Point} (h : p.Same q) : Same (.lineTo p) (.lineTo q)
  | cubicTo {c₁ c₂ p d₁ d₂ q : Point} (h₁ : c₁.Same d₁) (h₂ : c₂.Same d₂) (h : p.Same q) :
      Same (.cubicTo c₁ c₂ p) (.cubicTo d₁ d₂ q)
  | closePath : Same .closePath .closePath

namespace PathData

/-! ## Rewriting -/

/-- Arguments counted one after the other: each is shifted by a base and leads to the base
of the next. -/
def chain {α β : Type} (shift : β → α → α) (reached : α → β) (base : β) : List α → List α
  | [] => []
  | a :: rest => shift base a :: chain shift reached (reached (shift base a)) rest

@[simp] theorem length_chain {α β : Type} (shift : β → α → α) (reached : α → β) (base : β)
    (as : List α) : (chain shift reached base as).length = as.length := by
  induction as generalizing base with
  | nil => rfl
  | cons a rest ih => simp [chain, ih]

/-- Three points counted from the same base. -/
def shiftTriple (base : Point) (g : Point × Point × Point) : Point × Point × Point :=
  (base + g.1, base + g.2.1, base + g.2.2)

/-- Two points counted from the same base. -/
def shiftPair (base : Point) (g : Point × Point) : Point × Point := (base + g.1, base + g.2)

namespace Command

/-- The values of a command given at `current` with the bases added, if it is relative. -/
def resolved (c : Command) (current : Point) (values : List Double) : List Double :=
  if c.relative then
    match c.verb with
    | .moveTo | .lineTo => (chain (· + ·) id current (points values)).flatMap Point.values
    | .horizontalTo => chain (· + ·) id current.x values
    | .verticalTo => chain (· + ·) id current.y values
    | .cubicTo =>
      ((chain shiftTriple (·.2.2) current (triples (points values))).flatMap
        tripleList).flatMap Point.values
    | .smoothTo =>
      ((chain shiftPair (·.2) current (pairs (points values))).flatMap pairList).flatMap
        Point.values
    | .closePath => values
  else values

/-- The command with the same verb that counts from the origin. -/
def absolute (c : Command) : Command := { c with relative := false }

end Command

/-- The commands with every relative one rewritten where it stands. -/
def absoluteCalls (pen : Pen) : List Call → List Call
  | [] => []
  | call :: rest =>
    ⟨call.command.absolute, call.command.resolved pen.current call.values⟩ ::
      absoluteCalls (pen.afterAll (call.command.draw pen call.values)) rest

/-! ## Pens -/

namespace Pen

/-- The same pen up to the signs of zeros. -/
structure Same (pen pen' : Pen) : Prop where
  current : pen.current.Same pen'.current
  last : pen.last = pen'.last
  control : pen.control.Same pen'.control

@[refl] theorem Same.refl (pen : Pen) : Same pen pen := ⟨.refl _, rfl, .refl _⟩

variable {pen pen' : Pen}

theorem Same.previousControl (h : Same pen pen') :
    pen.previousControl.Same pen'.previousControl := by
  simp only [Pen.previousControl, h.last]
  split
  · exact h.control
  · exact h.current

theorem Same.base (h : Same pen pen') (relative : Bool) :
    (pen.base relative).Same (pen'.base relative) := by
  cases relative with
  | false => exact .refl _
  | true => exact h.current

theorem Same.after (h : Same pen pen') {s s' : Segment} (hs : s.Same s') :
    Same (pen.after s) (pen'.after s') := by
  cases hs with
  | moveTo hp => exact ⟨hp, rfl, h.control⟩
  | lineTo hp => exact ⟨hp, rfl, h.control⟩
  | cubicTo _ hc hp => exact ⟨hp, rfl, hc⟩
  | closePath => exact ⟨h.current, rfl, h.control⟩

theorem Same.afterAll (h : Same pen pen') {drawn drawn' : List Segment}
    (hs : List.Forall₂ Segment.Same drawn drawn') :
    Same (pen.afterAll drawn) (pen'.afterAll drawn') := by
  induction hs generalizing pen pen' with
  | nil => exact h
  | cons hs _ ih => exact ih (h.after hs)

/-- Segments drawn one by one are the same if each one is the same from pens that are. -/
theorem Same.drawEach {α : Type} {f : Pen → α → Segment}
    (step : ∀ {pen pen' : Pen} a, Same pen pen' → (f pen a).Same (f pen' a))
    (h : Same pen pen') (as : List α) :
    List.Forall₂ Segment.Same (pen.drawEach f as) (pen'.drawEach f as) := by
  induction as generalizing pen pen' with
  | nil => exact .nil
  | cons a rest ih => exact .cons (step a h) (ih (h.after (step a h)))

/-- Segments `f` of arguments that count from a base of the pen are the same as segments `g`
of the shifted arguments, if each one is and leads to the next base. -/
theorem Same.drawEach_chain {α β : Type} {f g : Pen → α → Segment} {shift : β → α → α}
    {reached : α → β} (base : Pen → β)
    (step : ∀ {pen pen' : Pen} a, Same pen pen' → (f pen a).Same (g pen' (shift (base pen) a)))
    (next : ∀ (pen : Pen) a, base (pen.after (f pen a)) = reached (shift (base pen) a))
    (h : Same pen pen') (as : List α) :
    List.Forall₂ Segment.Same (pen.drawEach f as)
      (pen'.drawEach g (chain shift reached (base pen) as)) := by
  induction as generalizing pen pen' with
  | nil => exact .nil
  | cons a rest ih =>
    refine .cons (step a h) ?_
    rw [← next pen a]
    exact ih (h.after (step a h))

end Pen

/-! ## One command -/

namespace Command

variable {pen pen' : Pen}

theorem line_same (h : pen.Same pen') (relative : Bool) (p : Point) :
    (line relative pen p).Same (line relative pen' p) :=
  .lineTo ((h.base relative).add (.refl p))

theorem horizontal_same (h : pen.Same pen') (relative : Bool) (x : Double) :
    (horizontal relative pen x).Same (horizontal relative pen' x) := by
  cases relative with
  | false => exact .lineTo ⟨.refl x, h.current.y⟩
  | true => exact .lineTo ⟨h.current.x.add (.refl x), h.current.y⟩

theorem vertical_same (h : pen.Same pen') (relative : Bool) (y : Double) :
    (vertical relative pen y).Same (vertical relative pen' y) := by
  cases relative with
  | false => exact .lineTo ⟨h.current.x, .refl y⟩
  | true => exact .lineTo ⟨h.current.x, h.current.y.add (.refl y)⟩

theorem cubic_same (h : pen.Same pen') (relative : Bool) (g : Point × Point × Point) :
    (cubic relative pen g).Same (cubic relative pen' g) :=
  have hb := h.base relative
  .cubicTo (hb.add (.refl g.1)) (hb.add (.refl g.2.1)) (hb.add (.refl g.2.2))

theorem smooth_same (h : pen.Same pen') (relative : Bool) (g : Point × Point) :
    (smooth relative pen g).Same (smooth relative pen' g) :=
  have hb := h.base relative
  .cubicTo (h.previousControl.reflect h.current) (hb.add (.refl g.1)) (hb.add (.refl g.2))

/-- A command draws the same segments from pens that are the same. -/
theorem draw_same (c : Command) (h : pen.Same pen') (values : List Double) :
    List.Forall₂ Segment.Same (c.draw pen values) (c.draw pen' values) := by
  obtain ⟨verb, relative⟩ := c
  cases verb with
  | moveTo =>
    simp only [draw]
    split
    · exact .nil
    · next p rest _ =>
      have hm : (Segment.moveTo (pen.base relative + p)).Same (.moveTo (pen'.base relative + p)) :=
        .moveTo ((h.base relative).add (.refl p))
      exact .cons hm ((h.after hm).drawEach (fun p h => line_same h relative p) rest)
  | lineTo => exact h.drawEach (fun p h => line_same h relative p) _
  | horizontalTo => exact h.drawEach (fun x h => horizontal_same h relative x) _
  | verticalTo => exact h.drawEach (fun y h => vertical_same h relative y) _
  | cubicTo => exact h.drawEach (fun g h => cubic_same h relative g) _
  | smoothTo => exact h.drawEach (fun g h => smooth_same h relative g) _
  | closePath => exact .cons .closePath .nil

/-- Lines that count from the pen are lines to the points they reach. -/
theorem lines_chain_same (h : pen.Same pen') (ps : List Point) :
    List.Forall₂ Segment.Same (pen.drawEach (line true) ps)
      (pen'.drawEach (line false) (chain (· + ·) id pen.current ps)) := by
  refine h.drawEach_chain Pen.current ?_ (fun _ _ => rfl) ps
  intro pen pen' p _
  exact .lineTo (Point.origin_add_same _).symm

/-- A relative command draws what the absolute command draws with the resolved values. -/
theorem draw_resolved_same (c : Command) (h : pen.Same pen') (values : List Double) :
    List.Forall₂ Segment.Same (c.draw pen values)
      (c.absolute.draw pen' (c.resolved pen.current values)) := by
  obtain ⟨verb, relative⟩ := c
  cases relative with
  | false => exact draw_same _ h values
  | true =>
    cases verb with
    | moveTo =>
      simp only [draw, resolved, absolute, if_true, points_values]
      cases points values with
      | nil => exact .nil
      | cons p rest =>
        have hm : (Segment.moveTo (pen.current + p)).Same
            (.moveTo (Point.origin + (pen.current + p))) :=
          .moveTo (Point.origin_add_same _).symm
        exact .cons hm (lines_chain_same (h.after hm) rest)
    | lineTo =>
      simp only [draw, resolved, absolute, if_true, points_values]
      exact lines_chain_same h _
    | horizontalTo =>
      refine h.drawEach_chain (fun pen => pen.current.x) ?_ (fun _ _ => rfl) values
      intro pen pen' x h
      exact .lineTo ⟨.refl _, h.current.y⟩
    | verticalTo =>
      refine h.drawEach_chain (fun pen => pen.current.y) ?_ (fun _ _ => rfl) values
      intro pen pen' y h
      exact .lineTo ⟨h.current.x, .refl _⟩
    | cubicTo =>
      simp only [draw, resolved, absolute, if_true, points_values, triples_points]
      refine h.drawEach_chain Pen.current ?_ (fun _ _ => rfl) _
      intro pen pen' g _
      exact .cubicTo (Point.origin_add_same _).symm (Point.origin_add_same _).symm
        (Point.origin_add_same _).symm
    | smoothTo =>
      simp only [draw, resolved, absolute, if_true, points_values, pairs_points]
      refine h.drawEach_chain Pen.current ?_ (fun _ _ => rfl) _
      intro pen pen' g h
      exact .cubicTo (h.previousControl.reflect h.current) (Point.origin_add_same _).symm
        (Point.origin_add_same _).symm
    | closePath => exact .cons .closePath .nil

/-- Resolving keeps the number of values where that is admissible. -/
theorem length_resolved (c : Command) (current : Point) {values : List Double}
    (h : c.Admits values) : (c.resolved current values).length = values.length := by
  obtain ⟨verb, relative⟩ := c
  cases relative with
  | false => rfl
  | true =>
    obtain ⟨k, hk⟩ := h.1
    cases verb with
    | moveTo | lineTo =>
      simp only [resolved, if_true, length_flatMap_values, length_chain, length_points, hk,
        Verb.arity]
      omega
    | horizontalTo | verticalTo => simp [resolved]
    | cubicTo =>
      simp only [resolved, if_true, length_flatMap_values, length_flatMap_tripleList,
        length_chain, length_triples, length_points, hk, Verb.arity]
      omega
    | smoothTo =>
      simp only [resolved, if_true, length_flatMap_values, length_flatMap_pairList,
        length_chain, length_pairs, length_points, hk, Verb.arity]
      omega
    | closePath => rfl

theorem Admits.resolved {c : Command} {values : List Double} (h : c.Admits values)
    (current : Point) : c.absolute.Admits (c.resolved current values) := by
  have hlength := length_resolved c current h
  refine ⟨by rw [hlength]; exact h.1, ?_⟩
  intro hpos hnil
  rw [hnil, List.length_nil, eq_comm, List.length_eq_zero_iff] at hlength
  exact h.2 hpos hlength

end Command

/-! ## Sequences -/

/-- Rewriting gives absolute commands with the same verbs, and with admissible values where
the values were admissible. -/
theorem absoluteCalls_forall₂ (pen : Pen) (calls : List Call) :
    List.Forall₂ (fun call call' => call'.command = call.command.absolute ∧
      (call.command.Admits call.values → call'.command.Admits call'.values))
      calls (absoluteCalls pen calls) := by
  induction calls generalizing pen with
  | nil => exact .nil
  | cons call rest ih => exact .cons ⟨rfl, fun h => h.resolved _⟩ (ih _)

/-- The rewriting of a sequence may start from a pen that is the same as the one it was
made for. -/
theorem drawCalls_absoluteCalls_same {pen pen' : Pen} (h : pen.Same pen') (calls : List Call) :
    List.Forall₂ Segment.Same (drawCalls pen calls) (drawCalls pen' (absoluteCalls pen calls)) := by
  induction calls generalizing pen pen' with
  | nil => exact .nil
  | cons call rest ih =>
    have hcall := call.command.draw_resolved_same h call.values
    exact List.rel_append hcall (ih (h.afterAll hcall))

/-- From any pen, a sequence of commands and its rewriting to absolute commands draw the same
segments, one for one, and leave the same pen, up to the signs of zeros.  The rewriting has
the same verbs, counts from the origin throughout, and is admissible where the sequence is. -/
theorem drawCalls_absoluteCalls (pen : Pen) (calls : List Call) :
    List.Forall₂ (fun call call' => call'.command = call.command.absolute ∧
      (call.command.Admits call.values → call'.command.Admits call'.values))
      calls (absoluteCalls pen calls) ∧
    List.Forall₂ Segment.Same (drawCalls pen calls) (drawCalls pen (absoluteCalls pen calls)) ∧
    (pen.afterAll (drawCalls pen calls)).Same
      (pen.afterAll (drawCalls pen (absoluteCalls pen calls))) := by
  have hdrawn := drawCalls_absoluteCalls_same (.refl pen) calls
  exact ⟨absoluteCalls_forall₂ pen calls, hdrawn, (Pen.Same.refl pen).afterAll hdrawn⟩

end PathData

end SvgDrawing
