import SvgDrawing.Proofs.Results
import SvgDrawing.Swift.Source

/-!
# What is converted

A conversion that succeeds gives the elements that can be converted, in the order of the document.
The policy only decides whether the others make it fail.
-/
namespace SvgDrawing

/-- An element as operations, if it can be converted. -/
def Drawable.converted? (d : Drawable) : Option Converted := d.convert.result.toOption

/-- The shapes met that are drawn. -/
def drawnOf (visits : List Visit) : List Drawable :=
  visits.filterMap fun | .drawn d => some d | .hidden _ => none

@[simp] theorem drawnOf_drawn (d : Drawable) (rest : List Visit) :
    drawnOf (.drawn d :: rest) = d :: drawnOf rest := rfl

@[simp] theorem drawnOf_append (front back : List Visit) :
    drawnOf (front ++ back) = drawnOf front ++ drawnOf back := List.filterMap_append

theorem Node.drawables_eq (root : Node) : root.drawables = drawnOf root.visitsBelow := rfl

theorem Drawable.converted?_eq_some_iff {d : Drawable} {e : Converted} :
    d.converted? = some e ↔ d.convert.result = .ok e :=
  toOption_eq_some_iff

/-- A conversion that does not fail gives all elements that can be converted. -/
theorem convertVisits_eq_ok {policy : Policy} {visits : List Visit} {elements : List Converted}
    (h : (convertVisits policy visits).result = .ok elements) :
    elements = (drawnOf visits).filterMap Drawable.converted? := by
  induction visits generalizing elements with
  | nil =>
    cases h
    rfl
  | cons visit rest ih =>
    cases visit with
    | hidden d => exact ih h
    | drawn d =>
      rw [drawnOf_drawn]
      cases hd : d.convert.result with
      | ok e =>
        simp only [convertVisits, hd] at h
        rw [List.filterMap_cons_some (Drawable.converted?_eq_some_iff.mpr hd)]
        cases hrest : (convertVisits policy rest).result with
        | error cause => rw [hrest] at h; cases h
        | ok later =>
          rw [hrest] at h
          cases h
          rw [ih hrest]
      | error cause =>
        have hnone : d.converted? = none := by rw [Drawable.converted?, hd]; rfl
        rw [List.filterMap_cons_none hnone]
        simp only [convertVisits, hd] at h
        cases policy with
        | stop => cases h
        | skip => exact ih h

theorem convertTree_eq_ok_iff {root : Node} {policy : String} {elements : List Converted} :
    (convertTree root policy).result = .ok elements ↔
      ∃ policy', Policy.ofName? policy = some policy' ∧
        (convertVisits policy' root.visitsBelow).result = .ok elements := by
  rw [convertTree]
  cases Policy.ofName? policy with
  | none => simp
  | some policy' => simp [mapError_eq_ok_iff]

/-- A tree that is converted gives the elements that are drawn and can be converted. -/
theorem convertTree_eq_ok {root : Node} {policy : String} {elements : List Converted}
    (h : (convertTree root policy).result = .ok elements) :
    elements = root.drawables.filterMap Drawable.converted? := by
  obtain ⟨policy', -, hvisits⟩ := convertTree_eq_ok_iff.mp h
  rw [Node.drawables_eq]
  exact convertVisits_eq_ok hvisits

/-- A document that is converted gives the elements that are drawn and can be converted. -/
theorem convertDocument_eq_ok {s policy : String} {elements : List Converted}
    (h : (convertDocument s policy).result = .ok elements) :
    ∃ drawables, drawablesOf s = .ok drawables ∧
      elements = drawables.filterMap Drawable.converted? := by
  simp only [convertDocument] at h
  split at h
  · cases h
  · next root hroot => exact ⟨root.drawables, by rw [drawablesOf, hroot]; rfl, convertTree_eq_ok h⟩

end SvgDrawing
