import Mathlib.Data.List.Forall2
import SvgDrawing.Proofs.Element.Conversion

/-!
# Documents with other ids

The id of an element is shown in messages and in comments and decides nothing.  Documents that
differ in ids only have the same elements converted, into the same operations.

Other ids are given by the positions of the elements, to those that have an `id` attribute
(`Node.relabel`).  What is made from such documents is `SameButId`: the text of an id may differ, if
there is one, and nothing else does.
-/
namespace SvgDrawing

/-! ## Attributes -/

namespace Attributes

/-- The attributes with another id, if there is one. -/
def relabel (a : Attributes) (id : String) : Attributes :=
  a.map fun entry => if entry.1 = "id" then (entry.1, id) else entry

/-- The same attributes, with the same or other texts of the ids. -/
structure SameButId (a b : Attributes) : Prop where
  get?_eq : ∀ name, name ≠ "id" → b.get? name = a.get? name
  isSome_id : (b.get? "id").isSome = (a.get? "id").isSome

theorem get?_relabel (a : Attributes) (id name : String) :
    (a.relabel id).get? name = if name = "id" then (a.get? name).map fun _ => id
      else a.get? name := by
  induction a with
  | nil => simp [relabel, get?]
  | cons entry rest ih =>
    obtain ⟨key, value⟩ := entry
    have hrelabel : relabel ((key, value) :: rest) id =
        (key, if key = "id" then id else value) :: relabel rest id := by
      by_cases hkey : key = "id" <;> simp [relabel, hkey]
    rw [hrelabel, get?_cons, get?_cons, ih]
    by_cases hname : name = key
    · subst hname
      by_cases hid : name = "id" <;> simp [hid]
    · simp [hname]

theorem sameButId_relabel (a : Attributes) (id : String) : a.SameButId (a.relabel id) where
  get?_eq name hname := by rw [get?_relabel, if_neg hname]
  isSome_id := by rw [get?_relabel, if_pos rfl, Option.isSome_map]

namespace SameButId

variable {a b : Attributes}

theorem erase (h : a.SameButId b) (key : String) : (a.erase key).SameButId (b.erase key) where
  get?_eq name hname := by rw [get?_erase, get?_erase, h.get?_eq name hname]
  isSome_id := by
    rw [get?_erase, get?_erase]
    split
    · rfl
    · exact h.isSome_id

theorem set (h : a.SameButId b) (key value : String) :
    (a.set key value).SameButId (b.set key value) where
  get?_eq name hname := by rw [get?_set, get?_set, h.get?_eq name hname]
  isSome_id := by
    rw [get?_set, get?_set]
    split
    · rfl
    · exact h.isSome_id

theorem setAll (h : a.SameButId b) (ds : List (String × String)) :
    (ds.foldl (fun c d => c.set d.1 d.2) a).SameButId
      (ds.foldl (fun c d => c.set d.1 d.2) b) := by
  induction ds generalizing a b with
  | nil => exact h
  | cons d rest ih => exact ih (h.set d.1 d.2)

/-- Spreading out a style sets the same attributes in both. -/
theorem effective (h : a.SameButId b) : a.effective.SameButId b.effective := by
  rw [Attributes.effective, Attributes.effective, h.get?_eq "style" (by decide)]
  split
  · exact h
  · exact (h.erase "style").setAll _

end SameButId

end Attributes

/-! ## Shapes -/

namespace Drawable

/-- The same shape, with the same or another text of its id. -/
structure SameButId (d e : Drawable) : Prop where
  kind_eq : e.kind = d.kind
  tag_eq : e.tag = d.tag
  attributes : d.attributes.SameButId e.attributes

variable {d e : Drawable}

theorem SameButId.hidden_eq (h : d.SameButId e) : e.hidden = d.hidden := by
  rw [hidden, hidden, h.attributes.get?_eq "display" (by decide)]

/-- An id does not matter to what a shape draws. -/
theorem SameButId.body_eq (h : d.SameButId e) : e.body = d.body := by
  have hget := h.attributes.get?_eq
  have hrectangle : Shape.rectangle e.attributes = Shape.rectangle d.attributes := by
    simp only [Shape.rectangle, Shape.numericAttribute, hget "x" (by decide),
      hget "y" (by decide), hget "width" (by decide), hget "height" (by decide)]
  have hpolygon : Shape.polygon e.attributes = Shape.polygon d.attributes := by
    simp only [Shape.polygon, hget "points" (by decide)]
  have hpath : Shape.path e.attributes = Shape.path d.attributes := by
    simp only [Shape.path, hget "d" (by decide)]
  rw [body, body, h.kind_eq, hrectangle, hpolygon, hpath]

end Drawable

/-- The same operations, with the same or another text of the id. -/
structure Converted.SameButId (c e : Converted) : Prop where
  tag_eq : e.tag = c.tag
  isSome_id : e.id.isSome = c.id.isSome
  operations_eq : e.operations = c.operations
  diagnostics_eq : e.diagnostics = c.diagnostics

/-- Shapes that differ in their ids fail for the same reason or are converted alike. -/
theorem Drawable.SameButId.convert {d e : Drawable} (h : d.SameButId e) :
    (∃ cause, d.convert.result = .error cause ∧ e.convert.result = .error cause) ∨
      ∃ c c', d.convert.result = .ok c ∧ e.convert.result = .ok c' ∧ c.SameButId c' := by
  rw [Drawable.convert, Drawable.convert, h.body_eq]
  obtain ⟨cause | body, t⟩ := d.body
  · exact .inl ⟨cause, rfl, rfl⟩
  · exact .inr ⟨_, _, rfl, rfl, ⟨h.tag_eq, h.attributes.isSome_id, rfl, rfl⟩⟩

/-! ## Documents -/

/-- The same shape met in the same way, with the same or another text of its id. -/
inductive Visit.SameButId : Visit → Visit → Prop
  | hidden {d e : Drawable} (h : d.SameButId e) : SameButId (.hidden d) (.hidden e)
  | drawn {d e : Drawable} (h : d.SameButId e) : SameButId (.drawn d) (.drawn e)

namespace Node

mutual

/-- A part of a document with other ids: an element that has an `id` attribute gets the text
for its position in it. -/
def relabel (new : List Nat → String) : Node → Node
  | comment text => comment text
  | instruction text => instruction text
  | element tag attributes children =>
    element tag (attributes.relabel (new [])) (relabelAll new 0 children)

/-- Parts that follow each other, from the `i`-th on, with other ids. -/
def relabelAll (new : List Nat → String) (i : Nat) : List Node → List Node
  | [] => []
  | node :: rest => relabel (fun p => new (i :: p)) node :: relabelAll new (i + 1) rest

end

theorem ofElement?_sameButId (tag : String) {a b : Attributes} (h : a.SameButId b) :
    (Drawable.ofElement? tag a = none ∧ Drawable.ofElement? tag b = none) ∨
      ∃ d e, Drawable.ofElement? tag a = some d ∧ Drawable.ofElement? tag b = some e ∧
        d.SameButId e := by
  rw [Drawable.ofElement?, Drawable.ofElement?]
  cases Tag.shape? tag with
  | none => exact .inl ⟨rfl, rfl⟩
  | some kind => exact .inr ⟨_, _, rfl, rfl, ⟨rfl, rfl, h.effective⟩⟩

mutual

/-- With other ids the same shapes are met. -/
theorem visits_relabel (new : List Nat → String) (node : Node) :
    List.Forall₂ Visit.SameButId node.visits (node.relabel new).visits := by
  cases node with
  | comment text => exact .nil
  | instruction text => exact .nil
  | element tag attributes children =>
    rw [relabel, visits, visits]
    split
    · exact .nil
    · rcases ofElement?_sameButId tag (attributes.sameButId_relabel (new [])) with
        ⟨hd, he⟩ | ⟨d, e, hd, he, hsame⟩
      · rw [hd, he]
        exact visitsAll_relabel new 0 children
      · simp only [hd, he, hsame.hidden_eq]
        split
        · exact .cons (.hidden hsame) .nil
        · exact .cons (.drawn hsame) (visitsAll_relabel new 0 children)

theorem visitsAll_relabel (new : List Nat → String) (i : Nat) (nodes : List Node) :
    List.Forall₂ Visit.SameButId (visitsAll nodes) (visitsAll (relabelAll new i nodes)) := by
  cases nodes with
  | nil => exact .nil
  | cons node rest =>
    rw [relabelAll, visitsAll, visitsAll]
    exact List.rel_append (visits_relabel _ node) (visitsAll_relabel new (i + 1) rest)

end

theorem visitsBelow_relabel (new : List Nat → String) (root : Node) :
    List.Forall₂ Visit.SameButId root.visitsBelow (root.relabel new).visitsBelow := by
  cases root with
  | comment text => exact .nil
  | instruction text => exact .nil
  | element tag attributes children => exact visitsAll_relabel new 0 children

end Node

/-- Shapes that differ in their ids are converted together or not at all. -/
theorem convertVisits_sameButId {policy : Policy} {visits visits' : List Visit}
    (h : List.Forall₂ Visit.SameButId visits visits') {elements : List Converted}
    (helements : (convertVisits policy visits).result = .ok elements) :
    ∃ elements', (convertVisits policy visits').result = .ok elements' ∧
      List.Forall₂ Converted.SameButId elements elements' := by
  induction h generalizing elements with
  | nil =>
    cases helements
    exact ⟨[], rfl, .nil⟩
  | cons hvisit _ ih =>
    cases hvisit with
    | hidden hd => exact ih helements
    | drawn hd =>
      rcases hd.convert with ⟨cause, hdc, hec⟩ | ⟨c, c', hdc, hec, hsame⟩
      · cases policy with
        | stop => simp only [convertVisits, hdc] at helements; cases helements
        | skip =>
          simp only [convertVisits, hdc, hec] at helements ⊢
          exact ih helements
      · simp only [convertVisits, hdc, hec] at helements ⊢
        obtain ⟨later, hlater, rfl⟩ := exists_of_map_eq_ok helements
        obtain ⟨later', hlater', hall⟩ := ih hlater
        exact ⟨c' :: later', by rw [hlater']; rfl, .cons hsame hall⟩

/-- A document that is converted is also converted with other ids, into the same operations. -/
theorem convertTree_relabel (new : List Nat → String) {root : Node} {policy : String}
    {elements : List Converted} (h : (convertTree root policy).result = .ok elements) :
    ∃ elements', (convertTree (root.relabel new) policy).result = .ok elements' ∧
      List.Forall₂ Converted.SameButId elements elements' := by
  obtain ⟨policy', hpolicy, hvisits⟩ := convertTree_eq_ok_iff.mp h
  obtain ⟨elements', helements', hsame⟩ :=
    convertVisits_sameButId (root.visitsBelow_relabel new) hvisits
  exact ⟨elements', convertTree_eq_ok_iff.mpr ⟨policy', hpolicy, helements'⟩, hsame⟩

end SvgDrawing
