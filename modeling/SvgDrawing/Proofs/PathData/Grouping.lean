import SvgDrawing.PathData.Pen

/-!
# Values in groups

The values of a command are taken as points, and the points of a curve three or two at a time.
Taking them apart and putting them together are inverse to each other, and where the number of
values is right for a command, `Command.Admits`, no value is left over.
-/
namespace SvgDrawing

/-- The coordinates of a point as values. -/
def Point.values (p : Point) : List Double := [p.x, p.y]

namespace PathData

/-- The points of three points in order. -/
def tripleList (g : Point × Point × Point) : List Point := [g.1, g.2.1, g.2.2]

/-- The points of two points in order. -/
def pairList (g : Point × Point) : List Point := [g.1, g.2]

/-! ## Grouping what was put together -/

@[simp] theorem points_values (ps : List Point) : points (ps.flatMap Point.values) = ps := by
  induction ps with
  | nil => rfl
  | cons p rest ih => simp [Point.values, points, ih]

@[simp] theorem triples_points (gs : List (Point × Point × Point)) :
    triples (gs.flatMap tripleList) = gs := by
  induction gs with
  | nil => rfl
  | cons g rest ih => simp [tripleList, triples, ih]

@[simp] theorem pairs_points (gs : List (Point × Point)) : pairs (gs.flatMap pairList) = gs := by
  induction gs with
  | nil => rfl
  | cons g rest ih => simp [pairList, pairs, ih]

/-! ## Whole groups in front -/

theorem points_append (back : List Double) : ∀ front : List Double, 2 ∣ front.length →
    points (front ++ back) = points front ++ points back
  | [], _ => rfl
  | [_], h => absurd (show 2 ∣ 1 from h) (by decide)
  | x :: y :: rest, h => by
    simp only [List.length_cons] at h
    exact congrArg (⟨x, y⟩ :: ·) (points_append back rest (by omega))

theorem triples_append (back : List Point) : ∀ front : List Point, 3 ∣ front.length →
    triples (front ++ back) = triples front ++ triples back
  | [], _ => rfl
  | [_], h => absurd (show 3 ∣ 1 from h) (by decide)
  | [_, _], h => absurd (show 3 ∣ 2 from h) (by decide)
  | p :: q :: r :: rest, h => by
    simp only [List.length_cons] at h
    exact congrArg ((p, q, r) :: ·) (triples_append back rest (by omega))

theorem pairs_append (back : List Point) : ∀ front : List Point, 2 ∣ front.length →
    pairs (front ++ back) = pairs front ++ pairs back
  | [], _ => rfl
  | [_], h => absurd (show 2 ∣ 1 from h) (by decide)
  | p :: q :: rest, h => by
    simp only [List.length_cons] at h
    exact congrArg ((p, q) :: ·) (pairs_append back rest (by omega))

/-! ## Lengths -/

theorem length_points (values : List Double) : (points values).length = values.length / 2 := by
  fun_induction points values with
  | case1 x y rest ih => simp only [List.length_cons, ih]; omega
  | case2 values h =>
    match values, h with
    | [], _ => rfl
    | [_], _ => simp
    | x :: y :: rest, h => exact absurd rfl (h x y rest)

theorem length_triples (ps : List Point) : (triples ps).length = ps.length / 3 := by
  fun_induction triples ps with
  | case1 p q r rest ih => simp only [List.length_cons, ih]; omega
  | case2 ps h =>
    match ps, h with
    | [], _ => rfl
    | [_], _ => simp
    | [_, _], _ => simp
    | p :: q :: r :: rest, h => exact absurd rfl (h p q r rest)

theorem length_pairs (ps : List Point) : (pairs ps).length = ps.length / 2 := by
  fun_induction pairs ps with
  | case1 p q rest ih => simp only [List.length_cons, ih]; omega
  | case2 ps h =>
    match ps, h with
    | [], _ => rfl
    | [_], _ => simp
    | p :: q :: rest, h => exact absurd rfl (h p q rest)

theorem length_flatMap_of_length_eq {α β : Type} (f : α → List β) (k : Nat)
    (h : ∀ a, (f a).length = k) (as : List α) : (as.flatMap f).length = k * as.length := by
  induction as with
  | nil => rfl
  | cons a rest ih =>
    rw [List.flatMap_cons, List.length_append, ih, h, List.length_cons, Nat.mul_succ, Nat.add_comm]

@[simp] theorem length_flatMap_values (ps : List Point) :
    (ps.flatMap Point.values).length = 2 * ps.length :=
  length_flatMap_of_length_eq Point.values 2 (fun _ => rfl) ps

@[simp] theorem length_flatMap_tripleList (gs : List (Point × Point × Point)) :
    (gs.flatMap tripleList).length = 3 * gs.length :=
  length_flatMap_of_length_eq tripleList 3 (fun _ => rfl) gs

@[simp] theorem length_flatMap_pairList (gs : List (Point × Point)) :
    (gs.flatMap pairList).length = 2 * gs.length :=
  length_flatMap_of_length_eq pairList 2 (fun _ => rfl) gs

@[simp] theorem Pen.length_drawEach {α : Type} (segment : Pen → α → Segment) (pen : Pen)
    (as : List α) : (pen.drawEach segment as).length = as.length := by
  induction as generalizing pen with
  | nil => rfl
  | cons a rest ih => simp [drawEach, ih]

/-- The values that a command is carried out with: whole groups, and at least one of them
unless the command has no values of its own. -/
def Command.Admits (c : Command) (values : List Double) : Prop :=
  c.verb.arity ∣ values.length ∧ (0 < c.verb.arity → values ≠ [])

/-- Each group of values makes one segment, so no value is left over. -/
theorem Command.length_draw (c : Command) (pen : Pen) {values : List Double}
    (h : c.verb.arity ∣ values.length) (pos : 0 < c.verb.arity) :
    (c.draw pen values).length * c.verb.arity = values.length := by
  obtain ⟨verb, relative⟩ := c
  obtain ⟨k, hk⟩ := h
  cases verb with
  | moveTo =>
    have hp := length_points values
    simp only [draw, Verb.arity] at hk ⊢
    split
    · next hnil => simp only [hnil, List.length_nil] at hp ⊢; omega
    · next p rest hcons =>
      simp only [hcons, List.length_cons, Pen.length_drawEach] at hp ⊢; omega
  | lineTo =>
    simp only [draw, Verb.arity, Pen.length_drawEach, length_points] at hk ⊢; omega
  | cubicTo =>
    simp only [draw, Verb.arity, Pen.length_drawEach, length_triples, length_points] at hk ⊢
    omega
  | smoothTo =>
    simp only [draw, Verb.arity, Pen.length_drawEach, length_pairs, length_points] at hk ⊢
    omega
  | horizontalTo => simp [draw, Verb.arity]
  | verticalTo => simp [draw, Verb.arity]
  | closePath => exact absurd pos (Nat.lt_irrefl 0)

end PathData

end SvgDrawing
