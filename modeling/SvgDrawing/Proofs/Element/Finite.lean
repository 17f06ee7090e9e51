import SvgDrawing.Proofs.Element.Conversion
import SvgDrawing.Proofs.Element.Points
import SvgDrawing.Proofs.Element.Rectangle
import SvgDrawing.Proofs.PathData.Finite
import SvgDrawing.Proofs.Swift.Coordinates

/-!
# Elements with finite coordinates

The numbers in attributes are taken as they are, so rectangles and polygons have finite coordinates.
What is left are paths, which have finite coordinates exactly if they are in range.  So an element
has finite coordinates exactly if it draws no path that leaves the range (`Drawable.InRange`).
-/
namespace SvgDrawing

open PathData Shape

/-! ## Shapes -/

namespace Shape

theorem IsPoint.isFinite {chunk : List Char} {p : Point} (h : IsPoint chunk p) : p.isFinite := by
  obtain ⟨_, _, -, hx, hy⟩ := h
  exact (Point.isFinite_iff p).mpr ⟨hx.isFinite, hy.isFinite⟩

theorem HasLength.isFinite {a : Attributes} {name : String} {x : Double} (h : HasLength a name x) :
    x.isFinite := by
  obtain ⟨_, -, hlength⟩ := h
  cases hlength with
  | plain _ _ h => exact h.isFinite
  | pixels _ _ _ h => exact h.isFinite

/-- The corner and the size of a rectangle are finite. -/
theorem isFinite_of_rectangle {a : Attributes} {o : Operation} (h : rectangle a = .ok o) :
    ∀ p ∈ o.points, p.isFinite := by
  obtain ⟨x, y, width, height, hx, hy, hwidth, hheight, rfl⟩ := rectangle_eq_ok_iff.mp h
  refine List.forall_mem_cons.mpr ⟨?_, List.forall_mem_singleton.mpr ?_⟩
  · exact (Point.isFinite_iff _).mpr ⟨hx.isFinite, hy.isFinite⟩
  · exact (Point.isFinite_iff _).mpr ⟨hwidth.isFinite, hheight.isFinite⟩

/-- The points of a polygon are finite. -/
theorem isFinite_of_polygon {a : Attributes} {segments : List Segment}
    (h : polygon a = .ok segments) : ∀ s ∈ segments, s.isFinite := by
  obtain ⟨text, chunks, p, ps, -, -, hpoints, rfl⟩ := polygon_eq_ok_iff.mp h
  have hfinite := forall_mem_of_forall₂ hpoints fun _ _ => IsPoint.isFinite
  rw [List.forall_mem_cons] at hfinite
  simp only [List.forall_mem_cons, List.forall_mem_map, Segment.isFinite_moveTo,
    Segment.isFinite_lineTo]
  exact hfinite

end Shape

/-! ## Elements -/

namespace Operation

theorem isFinite_coordinates_iff (o : Operation) :
    (∀ x ∈ o.coordinates, x.isFinite) ↔ ∀ p ∈ o.points, p.isFinite := by
  simp only [coordinates, List.mem_flatMap, Point.values, Point.isFinite_iff]
  constructor
  · intro h p hp
    exact ⟨h p.x ⟨p, hp, by simp⟩, h p.y ⟨p, hp, by simp⟩⟩
  · rintro h x ⟨p, hp, hx⟩
    rcases List.mem_cons.mp hx with rfl | hx
    · exact (h p hp).1
    · rw [List.mem_singleton.mp hx]
      exact (h p hp).2

theorem isFinite_segments_iff (segments : List Segment) :
    (∀ o ∈ segments.map segment, ∀ p ∈ o.points, p.isFinite) ↔ ∀ s ∈ segments, s.isFinite := by
  simp only [List.forall_mem_map, points, Segment.isFinite, List.all_eq_true]

end Operation

namespace Drawable

/-- If the element is a path that is drawn, the path is in range. -/
def InRange (d : Drawable) : Prop :=
  d.kind = .path → ∀ data segments, d.attributes.get? "d" = some data →
    interpret data = .ok segments → PathInRange data

/-- The body of an element has finite points exactly if the element is in range. -/
theorem isFinite_body_iff {d : Drawable} {body : List Operation} (h : d.body.1 = .ok body) :
    (∀ o ∈ body, ∀ p ∈ o.points, p.isFinite) ↔ d.InRange := by
  rw [Drawable.body] at h
  cases hkind : d.kind with
  | rect =>
    have hrange : d.InRange := fun hpath => by rw [hkind] at hpath; cases hpath
    rw [hkind] at h
    cases hr : rectangle d.attributes with
    | error e => simp only [hr] at h; cases h
    | ok r =>
      simp only [hr] at h
      cases h
      exact iff_of_true (List.forall_mem_singleton.mpr (isFinite_of_rectangle hr)) hrange
  | polygon =>
    have hrange : d.InRange := fun hpath => by rw [hkind] at hpath; cases hpath
    rw [hkind] at h
    cases hp : polygon d.attributes with
    | error e => simp only [hp] at h; cases h
    | ok segments =>
      simp only [hp] at h
      cases h
      exact iff_of_true ((Operation.isFinite_segments_iff _).mpr (isFinite_of_polygon hp)) hrange
  | path =>
    simp only [hkind, Shape.path] at h
    cases hd : d.attributes.get? "d" with
    | none => rw [hd] at h; cases h
    | some data =>
      simp only [hd] at h
      split at h
      · cases h
      · next hnone =>
        cases h
        have hdrawn : interpret data = .ok (run .fresh data).segments := by
          simp only [interpret, hnone]
        rw [Operation.isFinite_segments_iff, interpret_isFinite_iff hdrawn]
        constructor
        · intro hin _ data' _ hdata _
          rw [hd] at hdata
          cases hdata
          exact hin
        · intro hin
          exact hin hkind data _ hd hdrawn

/-- A converted element has finite coordinates exactly if it is in range. -/
theorem isFinite_iff {d : Drawable} {e : Converted} (h : d.converted? = some e) :
    (∀ x ∈ e.operations.flatMap Operation.coordinates, x.isFinite) ↔ d.InRange := by
  rw [converted?_eq_some_iff, convert] at h
  cases hbody : d.body with
  | mk result t =>
    rw [hbody] at h
    cases result with
    | error cause => cases h
    | ok body =>
      cases h
      have hfirst : d.body.1 = .ok body := by rw [hbody]
      rw [← isFinite_body_iff hfirst]
      simp only [List.forall_mem_flatMap, List.cons_append, List.forall_mem_cons,
        List.forall_mem_append, Operation.isFinite_coordinates_iff]
      simp [Operation.points]

/-- Nothing is drawn of an element that is not converted, so it is in range. -/
theorem inRange_of_converted?_eq_none {d : Drawable} (h : d.converted? = none) : d.InRange := by
  intro hkind data segments hd hdrawn
  have herror : (run .fresh data).error = none := ((interpret_eq_ok_iff data segments).mp hdrawn).1
  have hbody : d.body = (.ok ((run .fresh data).segments.map .segment), run .fresh data) := by
    simp only [Drawable.body, hkind, Shape.path, hd, herror]
  rw [converted?, convert, hbody] at h
  cases h

end Drawable

/-- The elements that are converted have finite coordinates exactly if all elements are in
range. -/
theorem isFinite_converted_iff (drawables : List Drawable) :
    (∀ x ∈ Swift.coordinates (drawables.filterMap Drawable.converted?), x.isFinite) ↔
      ∀ d ∈ drawables, d.InRange := by
  induction drawables with
  | nil => exact iff_of_true (List.forall_mem_nil _) (List.forall_mem_nil _)
  | cons d rest ih =>
    rw [List.forall_mem_cons, ← ih]
    cases hd : d.converted? with
    | none =>
      rw [List.filterMap_cons_none hd, and_iff_right (Drawable.inRange_of_converted?_eq_none hd)]
    | some e =>
      rw [List.filterMap_cons_some hd, Swift.coordinates, List.flatMap_cons,
        List.forall_mem_append, Drawable.isFinite_iff hd]
      rfl

end SvgDrawing
