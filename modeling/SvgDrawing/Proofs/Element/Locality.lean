import SvgDrawing.Proofs.Element.DocumentOrder
import SvgDrawing.Proofs.Element.Points
import SvgDrawing.Proofs.Element.Policy
import SvgDrawing.Proofs.Element.Rectangle
import SvgDrawing.Proofs.PathData.Ignored

/-!
# What an element becomes

An element that is drawn is converted by itself: what it becomes is decided by its own tag and its
own attributes, wherever in whatever document it stands and whatever came before it.  It begins,
draws its body and is filled.  The body is one rectangle, a move with lines after it, or what the
data of a path draw with a new pen, and only the commands of its own data are noted with it.

So a document is converted element by element.  The result of a conversion that skips is put
together from the results of its parts.

## Main definitions

* `HasBody a kind body notes` — what a shape with the attributes `a` draws, and what is noted.
* `Becomes tag a c` — the element with this tag and these attributes becomes `c`.
* `Node.ConvertsTo root p c` — the element at the position `p` is drawn, and becomes `c`.

## Main statements

* `becomes_iff` — the elements that can be converted, with what they become.
* `convertTree_local` — a document, element by element and part by part.
-/
namespace SvgDrawing

open PathData Shape

/-- What is noted about path data that are carried out to their end: the ignored commands, in
order. -/
def PathData.noted (data : String) : List Diagnostic :=
  ((tokenize data.toList).filter Token.isIgnored).map Token.diagnostic

/-- What a shape draws between its start and its fill, and the commands that are noted with it. -/
inductive HasBody (a : Attributes) : ShapeKind → List Operation → List Diagnostic → Prop
  | rect {x y width height : Double} (hx : HasLength a "x" x) (hy : HasLength a "y" y)
      (hwidth : HasLength a "width" width) (hheight : HasLength a "height" height) :
      HasBody a .rect [.rectangle ⟨x, y⟩ ⟨width, height⟩] []
  | polygon {p : Point} {ps : List Point} (h : Outlines a (.moveTo p :: ps.map .lineTo)) :
      HasBody a .polygon (.segment (.moveTo p) :: ps.map fun q => .segment (.lineTo q)) []
  | path {data : String} {segments : List Segment} (hdata : a.get? "d" = some data)
      (h : interpret data = .ok segments) :
      HasBody a .path (segments.map .segment) (noted data)

/-- What the element with this tag and these attributes becomes. -/
inductive Becomes (tag : String) (a : Attributes) : Converted → Prop
  | intro {kind : ShapeKind} {body : List Operation} {notes : List Diagnostic}
      (hkind : Tag.shape? tag = some kind) (h : HasBody a.effective kind body notes) :
      Becomes tag a
        ⟨Tag.localName tag, a.effective.get? "id", .start :: body ++ [.fill], notes⟩

/-! ## Bodies -/

/-- A body neither starts nor fills a shape. -/
theorem HasBody.not_mem {a : Attributes} {kind : ShapeKind} {body : List Operation}
    {notes : List Diagnostic} (h : HasBody a kind body notes) : .start ∉ body ∧ .fill ∉ body := by
  cases h with
  | rect => simp
  | polygon h => simp
  | path => simp

/-- Path data that are carried out to their end are noted in full. -/
theorem diagnostics_run_of_interpret {data : String} {segments : List Segment}
    (h : interpret data = .ok segments) : (run .fresh data).diagnostics = noted data := by
  have herror : (run .fresh data).error = none := ((interpret_eq_ok_iff data segments).mp h).1
  have haccepted : accepted (tokenize data.toList) = tokenize data.toList := by
    rw [run, error_runTokens, List.findSome?_eq_none_iff] at herror
    exact List.takeWhile_eq_self_iff.mpr fun t ht => by rw [herror t ht]; rfl
  rw [run, diagnostics_runTokens .fresh fun t => isProper_of_mem_tokenize, haccepted, noted]

namespace Drawable

variable {d : Drawable} {body : List Operation} {notes : List Diagnostic}

theorem body_of_rect (h : d.kind = .rect) :
    d.body = ((rectangle d.attributes).map fun r => [r], .empty) := by
  rw [Drawable.body, h]

theorem body_of_polygon (h : d.kind = .polygon) :
    d.body = ((Shape.polygon d.attributes).map fun segments => segments.map .segment, .empty) := by
  rw [Drawable.body, h]

theorem body_of_path {data : String} (h : d.kind = .path)
    (hdata : d.attributes.get? "d" = some data) :
    d.body = ((interpret data).map fun segments => segments.map .segment, run .fresh data) := by
  rw [Drawable.body, h]
  simp only [Shape.path, hdata, interpret]
  cases (run .fresh data).error <;> rfl

theorem body_of_path_of_none (h : d.kind = .path) (hdata : d.attributes.get? "d" = none) :
    d.body.1 = .error (.requiredAttribute "d" none) := by
  rw [Drawable.body, h]
  simp only [Shape.path, hdata]
  rfl

/-- What is lowered to a body has it. -/
theorem hasBody_of_body {t : Trace} (h : d.body = (.ok body, t)) :
    HasBody d.attributes d.kind body t.diagnostics := by
  cases hkind : d.kind with
  | rect =>
    rw [body_of_rect hkind] at h
    obtain ⟨hbody, rfl⟩ := Prod.mk.inj h
    obtain ⟨o, ho, rfl⟩ := exists_of_map_eq_ok hbody
    obtain ⟨x, y, width, height, hx, hy, hwidth, hheight, rfl⟩ := rectangle_eq_ok_iff.mp ho
    exact .rect hx hy hwidth hheight
  | polygon =>
    rw [body_of_polygon hkind] at h
    obtain ⟨hbody, rfl⟩ := Prod.mk.inj h
    obtain ⟨segments, hsegments, rfl⟩ := exists_of_map_eq_ok hbody
    obtain ⟨text, chunks, p, ps, htext, hchunks, hpoints, rfl⟩ := polygon_eq_ok_iff.mp hsegments
    rw [List.map_cons, List.map_map]
    exact .polygon ⟨text, chunks, p, ps, htext, hchunks, hpoints, rfl⟩
  | path =>
    cases hdata : d.attributes.get? "d" with
    | none =>
      have hnone := body_of_path_of_none hkind hdata
      rw [h] at hnone
      cases hnone
    | some data =>
      rw [body_of_path hkind hdata] at h
      obtain ⟨hbody, rfl⟩ := Prod.mk.inj h
      obtain ⟨segments, hsegments, rfl⟩ := exists_of_map_eq_ok hbody
      rw [diagnostics_run_of_interpret hsegments]
      exact .path hdata hsegments

/-- What has a body is lowered to it. -/
theorem body_of_hasBody (h : HasBody d.attributes d.kind body notes) :
    ∃ t, d.body = (.ok body, t) ∧ t.diagnostics = notes := by
  generalize hkind : d.kind = kind at h
  cases h with
  | rect hx hy hwidth hheight =>
    have ho := rectangle_eq_ok_iff.mpr ⟨_, _, _, _, hx, hy, hwidth, hheight, rfl⟩
    rw [body_of_rect hkind, ho]
    exact ⟨.empty, rfl, rfl⟩
  | polygon houtline =>
    rw [body_of_polygon hkind, polygon_eq_ok_iff.mpr houtline]
    refine ⟨.empty, ?_, rfl⟩
    rw [Except.map, List.map_cons, List.map_map]
    rfl
  | path hdata hsegments =>
    rw [body_of_path hkind hdata, hsegments]
    exact ⟨_, rfl, diagnostics_run_of_interpret hsegments⟩

theorem converted?_eq_some_iff_hasBody {c : Converted} :
    d.converted? = some c ↔ ∃ body, HasBody d.attributes d.kind body c.diagnostics ∧
      c = ⟨d.tag, d.id?, .start :: body ++ [.fill], c.diagnostics⟩ := by
  rw [converted?_eq_some_iff, convert]
  constructor
  · intro h
    split at h
    · cases h
    · next body t hbody =>
      cases h
      exact ⟨body, hasBody_of_body hbody, rfl⟩
  · rintro ⟨body, hbody, hc⟩
    obtain ⟨t, hbody, hnotes⟩ := body_of_hasBody hbody
    rw [hbody, hc, ← hnotes]

end Drawable

/-! ## Elements -/

section Element

variable {tag : String} {a : Attributes} {c : Converted}

/-- What an element becomes is what its shape is converted to. -/
theorem becomes_iff :
    Becomes tag a c ↔ ∃ d, Drawable.ofElement? tag a = some d ∧ d.converted? = some c := by
  simp only [Drawable.ofElement?, Option.map_eq_some_iff]
  constructor
  · rintro ⟨hkind, hbody⟩
    exact ⟨_, ⟨_, hkind, rfl⟩, Drawable.converted?_eq_some_iff_hasBody.mpr ⟨_, hbody, rfl⟩⟩
  · rintro ⟨d, ⟨kind, hkind, rfl⟩, hd⟩
    obtain ⟨body, hbody, hc⟩ := Drawable.converted?_eq_some_iff_hasBody.mp hd
    rw [hc]
    exact .intro hkind hbody

end Element

/-! ## Documents -/

namespace Node

/-- The element at a position is drawn in a document, and becomes `c`. -/
def ConvertsTo (root : Node) (p : List Nat) (c : Converted) : Prop :=
  ∃ tag a inside d, root.descendant? p = some (.element tag a inside) ∧ root.Draws p d ∧
    Becomes tag a c

variable {root : Node} {p : List Nat} {c : Converted}

/-- What is drawn is an element with a shape. -/
theorem Draws.exists_element {d : Drawable} (h : root.Draws p d) :
    ∃ tag a inside, root.descendant? p = some (.element tag a inside) ∧
      Drawable.ofElement? tag a = some d := by
  obtain ⟨-, ⟨node, hnode, hshape⟩, -⟩ := h
  cases node with
  | comment text => cases hshape
  | instruction text => cases hshape
  | element tag a inside => exact ⟨tag, a, inside, hnode, hshape⟩

theorem convertsTo_iff : root.ConvertsTo p c ↔ ∃ d, root.Draws p d ∧ d.converted? = some c := by
  constructor
  · rintro ⟨tag, a, inside, d, hnode, hdraws, hbecomes⟩
    obtain ⟨tag', a', inside', hnode', hd⟩ := hdraws.exists_element
    rw [hnode] at hnode'
    cases hnode'
    obtain ⟨d', hd', hc⟩ := becomes_iff.mp hbecomes
    rw [hd] at hd'
    cases hd'
    exact ⟨d, hdraws, hc⟩
  · rintro ⟨d, hdraws, hc⟩
    obtain ⟨tag, a, inside, hnode, hd⟩ := hdraws.exists_element
    exact ⟨tag, a, inside, d, hnode, hdraws, becomes_iff.mpr ⟨d, hd, hc⟩⟩

end Node

/-- The results of the shapes in a list, each with its position and in the order of the list. -/
theorem Enumerates.exists_converted {P : List Nat → Drawable → Prop} {ds : List Drawable}
    (h : Enumerates P ds) :
    ∃ placed : List (List Nat × Converted),
      placed.map Prod.snd = ds.filterMap Drawable.converted? ∧
      placed.Pairwise (fun x y => x.1 < y.1) ∧
      ∀ p c, (p, c) ∈ placed ↔ ∃ d, P p d ∧ d.converted? = some c := by
  obtain ⟨placed, rfl, hsorted, hmem⟩ := h
  refine ⟨placed.filterMap fun x => x.2.converted?.map (x.1, ·), ?_, ?_, ?_⟩
  · rw [List.map_filterMap, List.filterMap_map]
    congr 1
    funext x
    simp [Function.comp_def]
  · refine hsorted.filterMap _ ?_
    rintro ⟨p, d⟩ ⟨q, e⟩ hlt x hx y hy
    obtain ⟨c, -, rfl⟩ := Option.map_eq_some_iff.mp hx
    obtain ⟨c', -, rfl⟩ := Option.map_eq_some_iff.mp hy
    exact hlt
  · intro p c
    rw [List.mem_filterMap]
    constructor
    · rintro ⟨⟨q, d⟩, hd, hx⟩
      obtain ⟨c', hc, hpair⟩ := Option.map_eq_some_iff.mp hx
      cases hpair
      exact ⟨d, (hmem _ d).mp hd, hc⟩
    · rintro ⟨d, hd, hc⟩
      exact ⟨(p, d), (hmem p d).mpr hd, by rw [hc]; rfl⟩

theorem Node.visitsAll_append (front back : List Node) :
    visitsAll (front ++ back) = visitsAll front ++ visitsAll back := by
  induction front with
  | nil => rfl
  | cons node rest ih => rw [List.cons_append, visitsAll, visitsAll, ih, List.append_assoc]

/-- Leaving out what cannot be converted, the parts that follow each other are converted one after
the other. -/
theorem convertTree_skip_append (tag : String) (a : Attributes) (front back : List Node) :
    ∃ xs ys, (convertTree (.element tag a front) "skip").result = .ok xs ∧
      (convertTree (.element tag a back) "skip").result = .ok ys ∧
      (convertTree (.element tag a (front ++ back)) "skip").result = .ok (xs ++ ys) ∧
      (convertTree (.element tag a (front ++ back)) "skip").log =
        (convertTree (.element tag a front) "skip").log ++
          (convertTree (.element tag a back) "skip").log := by
  have hbelow : (Node.element tag a (front ++ back)).visitsBelow =
      (Node.element tag a front).visitsBelow ++ (Node.element tag a back).visitsBelow :=
    Node.visitsAll_append front back
  simp only [convertTree_skip, Node.drawables_eq, hbelow]
  exact ⟨_, _, rfl, rfl, by rw [drawnOf_append, List.filterMap_append], List.flatMap_append⟩

/-- A document is converted to what its elements become: the drawn ones that can be converted, each
once and in the order of their positions, and each of them is started, drawn and filled.  What an
element becomes is decided by its own tag and attributes: there is one outcome for them, in all
documents and at all positions where the element is drawn, and it is the rectangle, the outline or
the path that they describe.  Leaving out what cannot be converted, a document is converted part by
part. -/
theorem convertTree_local :
    (∀ root policy elements, (convertTree root policy).result = .ok elements →
      (∃ placed : List (List Nat × Converted), placed.map Prod.snd = elements ∧
        placed.Pairwise (fun x y => x.1 < y.1) ∧
        ∀ p c, (p, c) ∈ placed ↔ root.ConvertsTo p c) ∧
      ∀ c ∈ elements, ∃ body, c.operations = .start :: body ++ [.fill] ∧
        .start ∉ body ∧ .fill ∉ body) ∧
    (∀ tag a, ∃ outcome : Option Converted, (∀ c, outcome = some c ↔ Becomes tag a c) ∧
      ∀ (root : Node) p inside d, root.descendant? p = some (.element tag a inside) →
        root.Draws p d → ∀ c, root.ConvertsTo p c ↔ outcome = some c) ∧
    ∀ tag a front back, ∃ xs ys,
      (convertTree (.element tag a front) "skip").result = .ok xs ∧
      (convertTree (.element tag a back) "skip").result = .ok ys ∧
      (convertTree (.element tag a (front ++ back)) "skip").result = .ok (xs ++ ys) ∧
      (convertTree (.element tag a (front ++ back)) "skip").log =
        (convertTree (.element tag a front) "skip").log ++
          (convertTree (.element tag a back) "skip").log := by
  refine ⟨?_, ?_, convertTree_skip_append⟩
  · intro root policy elements h
    rw [convertTree_eq_ok h, Node.drawables_eq]
    refine ⟨?_, ?_⟩
    · simp only [Node.convertsTo_iff]
      exact root.enumerates_visitsBelow.exists_converted
    · intro c hc
      obtain ⟨d, -, hd⟩ := List.mem_filterMap.mp hc
      obtain ⟨body, hbody, hc⟩ := Drawable.converted?_eq_some_iff_hasBody.mp hd
      rw [hc]
      exact ⟨body, rfl, hbody.not_mem⟩
  · intro tag a
    have houtcome : ∀ c, (Drawable.ofElement? tag a).bind Drawable.converted? = some c ↔
        Becomes tag a c := by
      intro c
      rw [becomes_iff, Option.bind_eq_some_iff]
    refine ⟨_, houtcome, ?_⟩
    intro root p inside d hnode hdraws c
    rw [houtcome]
    constructor
    · rintro ⟨tag', a', inside', d', hnode', -, hbecomes⟩
      rw [hnode] at hnode'
      cases hnode'
      exact hbecomes
    · exact fun hbecomes => ⟨tag, a, inside, d, hnode, hdraws, hbecomes⟩

/-- A path becomes the same after a polygon that is left out and in a document by itself. -/
theorem path_converts_alike :
    ∃ (root other : Node) (c : Converted),
      root = .element "svg" [] [.element "polygon" [("points", "0,0 1")] [],
        .element "path" [("style", "d: m1 2q0 0 1 1h-3")] []] ∧
      other = .element "g" [] [.element "path" [("style", "d: m1 2q0 0 1 1h-3")] [.comment ""]] ∧
      (convertTree root "skip").result = .ok [c] ∧
      (convertTree other "raise").result = .ok [c] ∧ c.diagnostics = [⟨"q", "0 0 1 1"⟩] ∧
      ∀ c', root.ConvertsTo [1] c' ↔ other.ConvertsTo [0] c' := by
  refine ⟨_, _, ⟨"path", none, [.start, .segment (.moveTo ⟨.ofNat 1, .ofNat 2⟩),
    .segment (.lineTo ⟨-.ofNat 2, .ofNat 2⟩), .fill], [⟨"q", "0 0 1 1"⟩]⟩, rfl, rfl, ?_, ?_, rfl, ?_⟩
  · rw [convertTree_skip]
    decide +kernel
  · decide +kernel
  · have hshape : Drawable.ofElement? "path" [("style", "d: m1 2q0 0 1 1h-3")] =
        some ⟨.path, "path", [("d", "m1 2q0 0 1 1h-3")]⟩ := by decide +kernel
    have hshows : ∀ inside, (Node.element "path" [("style", "d: m1 2q0 0 1 1h-3")] inside).Shows []
        ⟨.path, "path", [("d", "m1 2q0 0 1 1h-3")]⟩ := by
      intro inside
      refine Node.shows_iff.mpr ⟨?_, .inl ⟨rfl, hshape⟩⟩
      rw [Node.suppresses_element, hshape]
      simp only [Option.some.injEq, exists_eq_left']
      decide +kernel
    obtain ⟨-, houtcome, -⟩ := convertTree_local
    obtain ⟨outcome, -, halike⟩ := houtcome "path" [("style", "d: m1 2q0 0 1 1h-3")]
    intro c
    rw [halike _ [1] _ _ rfl (Node.draws_cons.mpr ⟨_, rfl, hshows []⟩),
      halike _ [0] _ _ rfl (Node.draws_cons.mpr ⟨_, rfl, hshows [.comment ""]⟩)]

end SvgDrawing
