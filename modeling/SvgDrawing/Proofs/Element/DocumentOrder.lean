import SvgDrawing.Proofs.Element.Conversion

/-!
# Document order

A part of a document is named by its position: the numbers of the children on the way down from
the root.  The order of the document, in which a part stands in front of what is inside it, is
the lexicographic order of positions.

## Main definitions

* `Node.descendant? p` — what stands at a position.
* `Node.Suppresses` — the parts that are not drawn, nor anything inside them.
* `Node.Draws p d` — the shape `d` at position `p` is drawn in a document.
* `Node.Shows p d` — the same for a part of a document, which counts itself.
* `Enumerates P ds` — a list of shapes in the order of their positions.

## Main statements

* `Node.enumerates_visits` — the walk through a part of a document.
* `Node.drawables_in_document_order` — the shapes of a document that are drawn.
-/
namespace SvgDrawing

namespace Node

/-- What stands directly inside a part of a document. -/
def children : Node → List Node
  | comment _ | instruction _ => []
  | element _ _ children => children

/-- What stands at a position. -/
def descendant? : Node → List Nat → Option Node
  | node, [] => some node
  | node, i :: p => node.children[i]?.bind fun child => child.descendant? p

/-- The shape of a part of a document, if it has one. -/
def shape? : Node → Option Drawable
  | comment _ | instruction _ => none
  | element tag attributes _ => Drawable.ofElement? tag attributes

/-- The parts that are not drawn, nor anything inside them. -/
inductive Suppresses : Node → Prop where
  | comment (text : String) : Suppresses (.comment text)
  | instruction (text : String) : Suppresses (.instruction text)
  | undrawn {tag : String} {attributes : Attributes} {children : List Node}
      (h : Tag.isUndrawn tag) : Suppresses (.element tag attributes children)
  | hidden {node : Node} {d : Drawable} (hd : node.shape? = some d) (h : d.hidden) :
      Suppresses node

/-- The shape at a position is drawn if `node` is below the root of a document. -/
def Shows (node : Node) (p : List Nat) (d : Drawable) : Prop :=
  (∃ e, node.descendant? p = some e ∧ e.shape? = some d) ∧
    ∀ q e, q <+: p → node.descendant? q = some e → ¬ e.Suppresses

/-- The shape at a position is drawn in the document with this root.  The root is not drawn and
does not suppress anything. -/
def Draws (root : Node) (p : List Nat) (d : Drawable) : Prop :=
  p ≠ [] ∧ (∃ e, root.descendant? p = some e ∧ e.shape? = some d) ∧
    ∀ q e, q ≠ [] → q <+: p → root.descendant? q = some e → ¬ e.Suppresses

variable {node : Node} {i : Nat} {p : List Nat} {d : Drawable}

theorem suppresses_element {tag : String} {attributes : Attributes} {children : List Node} :
    (element tag attributes children).Suppresses ↔
      Tag.isUndrawn tag ∨ ∃ d, Drawable.ofElement? tag attributes = some d ∧ d.hidden := by
  constructor
  · rintro (_ | _ | hundrawn | ⟨hd, hhidden⟩)
    · exact .inl hundrawn
    · exact .inr ⟨_, hd, hhidden⟩
  · rintro (hundrawn | ⟨d, hd, hhidden⟩)
    · exact .undrawn hundrawn
    · exact .hidden hd hhidden

/-! ## What is drawn, from the top down -/

theorem not_draws_nil : ¬ node.Draws [] d := fun h => h.1 rfl

/-- What is drawn stands in a child, and is drawn there. -/
theorem draws_cons :
    node.Draws (i :: p) d ↔ ∃ child, node.children[i]? = some child ∧ child.Shows p d := by
  constructor
  · rintro ⟨-, ⟨e, he, hshape⟩, hway⟩
    obtain ⟨child, hchild, he⟩ := Option.bind_eq_some_iff.mp he
    refine ⟨child, hchild, ⟨e, he, hshape⟩, ?_⟩
    intro q e hq he
    refine hway (i :: q) e (List.cons_ne_nil _ _) (List.cons_prefix_cons.mpr ⟨rfl, hq⟩) ?_
    rw [descendant?, hchild]
    exact he
  · rintro ⟨child, hchild, ⟨e, he, hshape⟩, hway⟩
    refine ⟨List.cons_ne_nil _ _, ⟨e, ?_, hshape⟩, ?_⟩
    · rw [descendant?, hchild]
      exact he
    · intro q e hne hq he
      obtain ⟨j, q, rfl⟩ := List.exists_cons_of_ne_nil hne
      obtain ⟨rfl, htail⟩ := List.cons_prefix_cons.mp hq
      rw [descendant?, hchild] at he
      exact hway q e htail he

/-- A part that suppresses nothing shows its own shape and what is drawn inside it. -/
theorem shows_iff :
    node.Shows p d ↔ ¬ node.Suppresses ∧ (p = [] ∧ node.shape? = some d ∨ node.Draws p d) := by
  constructor
  · rintro ⟨hshape, hway⟩
    refine ⟨hway [] node List.nil_prefix rfl, ?_⟩
    cases p with
    | nil =>
      obtain ⟨e, he, hshape⟩ := hshape
      cases he
      exact .inl ⟨rfl, hshape⟩
    | cons i p => exact .inr ⟨List.cons_ne_nil _ _, hshape, fun q e _ => hway q e⟩
  · rintro ⟨hnode, ⟨rfl, hshape⟩ | ⟨-, hshape, hway⟩⟩
    · refine ⟨⟨node, rfl, hshape⟩, ?_⟩
      intro q e hq he
      cases List.prefix_nil.mp hq
      cases he
      exact hnode
    · refine ⟨hshape, ?_⟩
      intro q e hq he
      by_cases hnil : q = []
      · subst hnil
        cases he
        exact hnode
      · exact hway q e hnil hq he

/-- A shape in one of the parts that follow each other from the `i`-th on. -/
def ShowsFrom (i : Nat) (nodes : List Node) (p : List Nat) (d : Drawable) : Prop :=
  ∃ j q child, p = (i + j) :: q ∧ nodes[j]? = some child ∧ child.Shows q d

theorem showsFrom_zero_children (node : Node) :
    ShowsFrom 0 node.children p d ↔ node.Draws p d := by
  cases p with
  | nil => simp [ShowsFrom, not_draws_nil]
  | cons i p => simp [ShowsFrom, draws_cons, and_assoc]

theorem showsFrom_cons {rest : List Node} :
    ShowsFrom i (node :: rest) p d ↔
      (∃ q, p = i :: q ∧ node.Shows q d) ∨ ShowsFrom (i + 1) rest p d := by
  constructor
  · rintro ⟨j, q, child, rfl, hchild, hshows⟩
    cases j with
    | zero =>
      cases hchild
      exact .inl ⟨q, rfl, hshows⟩
    | succ j => exact .inr ⟨j, q, child, by rw [Nat.add_right_comm]; rfl, hchild, hshows⟩
  · rintro (⟨q, rfl, hshows⟩ | ⟨j, q, child, rfl, hchild, hshows⟩)
    · exact ⟨0, q, node, rfl, rfl, hshows⟩
    · exact ⟨j + 1, q, child, by rw [Nat.add_right_comm]; rfl, hchild, hshows⟩

end Node

/-! ## Lists in the order of positions -/

/-- The shapes with a property, each once and in the order of their positions. -/
def Enumerates (P : List Nat → Drawable → Prop) (ds : List Drawable) : Prop :=
  ∃ placed : List (List Nat × Drawable), placed.map Prod.snd = ds ∧
    placed.Pairwise (fun a b => a.1 < b.1) ∧ ∀ p d, (p, d) ∈ placed ↔ P p d

namespace Enumerates

variable {P Q : List Nat → Drawable → Prop} {ds es : List Drawable}

theorem nil (h : ∀ p d, ¬ P p d) : Enumerates P [] :=
  ⟨[], rfl, .nil, fun p d => by simp [h p d]⟩

theorem congr (h : Enumerates P ds) (hPQ : ∀ p d, P p d ↔ Q p d) : Enumerates Q ds := by
  obtain ⟨placed, hds, hsorted, hmem⟩ := h
  exact ⟨placed, hds, hsorted, fun p d => (hmem p d).trans (hPQ p d)⟩

theorem append (hP : Enumerates P ds) (hQ : Enumerates Q es)
    (h : ∀ p d q e, P p d → Q q e → p < q) :
    Enumerates (fun p d => P p d ∨ Q p d) (ds ++ es) := by
  obtain ⟨placed, rfl, hsorted, hmem⟩ := hP
  obtain ⟨placed', rfl, hsorted', hmem'⟩ := hQ
  refine ⟨placed ++ placed', List.map_append, ?_, ?_⟩
  · refine List.pairwise_append.mpr ⟨hsorted, hsorted', ?_⟩
    intro ⟨p, d⟩ hd ⟨q, e⟩ he
    exact h p d q e ((hmem p d).mp hd) ((hmem' q e).mp he)
  · intro p d
    rw [List.mem_append, hmem, hmem']

/-- A shape in front of those below it. -/
theorem cons (d : Drawable) (h : Enumerates P ds) (hP : ∀ e, ¬ P [] e) :
    Enumerates (fun p e => p = [] ∧ some d = some e ∨ P p e) (d :: ds) := by
  have hfirst : Enumerates (fun p e => p = [] ∧ some d = some e) [d] :=
    ⟨[([], d)], rfl, List.pairwise_singleton _ _, by simp [eq_comm]⟩
  refine hfirst.append h ?_
  rintro p e q e' ⟨rfl, -⟩ hq
  cases q with
  | nil => exact absurd hq (hP e')
  | cons j q => exact List.nil_lt_cons j q

/-- The shapes of a part, as shapes of what it is the `i`-th child of. -/
theorem below (i : Nat) (h : Enumerates P ds) :
    Enumerates (fun p d => ∃ q, p = i :: q ∧ P q d) ds := by
  obtain ⟨placed, rfl, hsorted, hmem⟩ := h
  refine ⟨placed.map fun a => (i :: a.1, a.2), by simp, ?_, ?_⟩
  · refine List.pairwise_map.mpr (hsorted.imp ?_)
    intro a b hab
    exact List.cons_lt_cons_iff.mpr (.inr ⟨rfl, hab⟩)
  · intro p d
    rw [List.mem_map]
    constructor
    · rintro ⟨⟨q, d⟩, hd, rfl, rfl⟩
      exact ⟨q, rfl, (hmem q d).mp hd⟩
    · rintro ⟨q, rfl, hd⟩
      exact ⟨(q, d), (hmem q d).mpr hd, rfl⟩

end Enumerates

namespace Node

/-! ## The walk -/

mutual

/-- The walk through a part of a document meets what the part shows, in order. -/
theorem enumerates_visits (node : Node) : Enumerates node.Shows (drawnOf node.visits) := by
  have hnone : node.Suppresses → Enumerates node.Shows [] :=
    fun h => .nil fun p d hd => (shows_iff.mp hd).1 h
  -- the cases are those of the walk: it stops where a part suppresses what is inside it
  cases node with
  | comment text => exact hnone (.comment text)
  | instruction text => exact hnone (.instruction text)
  | element tag attributes children =>
    have hbelow : Enumerates (element tag attributes children).Draws
        (drawnOf (visitsAll children)) :=
      (enumerates_visitsAll 0 children).congr fun _ _ =>
        showsFrom_zero_children (.element tag attributes children)
    rw [visits]
    split
    · next hundrawn => exact hnone (.undrawn hundrawn)
    · next hundrawn =>
      split
      · next hshape =>
        have hdrawn : ¬ (element tag attributes children).Suppresses := by
          simp [suppresses_element, hundrawn, hshape]
        refine hbelow.congr fun p d => ?_
        rw [shows_iff, and_iff_right hdrawn, shape?, hshape]
        simp
      · next d hshape =>
        split
        · next hhidden => exact hnone (.hidden hshape hhidden)
        · next hhidden =>
          have hdrawn : ¬ (element tag attributes children).Suppresses := by
            simp [suppresses_element, hundrawn, hshape, hhidden]
          refine (hbelow.cons d fun e => not_draws_nil).congr fun p e => ?_
          rw [shows_iff, and_iff_right hdrawn, shape?, hshape]

/-- Parts that follow each other, from the `i`-th on. -/
theorem enumerates_visitsAll (i : Nat) (nodes : List Node) :
    Enumerates (ShowsFrom i nodes) (drawnOf (visitsAll nodes)) := by
  cases nodes with
  | nil => exact .nil (by rintro p d ⟨j, q, child, -, hchild, -⟩; cases hchild)
  | cons node rest =>
    rw [visitsAll, drawnOf_append]
    refine (((enumerates_visits node).below i).append (enumerates_visitsAll (i + 1) rest) ?_).congr
      fun _ _ => showsFrom_cons.symm
    rintro p d q e ⟨p, rfl, -⟩ ⟨j, q, child, rfl, -⟩
    exact List.cons_lt_cons_iff.mpr (.inl (by omega))

end

/-- The walk through a document meets what is drawn, in order. -/
theorem enumerates_visitsBelow (root : Node) :
    Enumerates root.Draws (drawnOf root.visitsBelow) := by
  have hall := (enumerates_visitsAll 0 root.children).congr fun _ _ => showsFrom_zero_children _
  cases root with
  | element tag attributes children => exact hall
  | comment text => exact hall
  | instruction text => exact hall

/-- The shapes that a document draws are those below its root such that no part on the way down
to them, they included, suppresses what is inside it.  Each is given once, in the order of the
document. -/
theorem drawables_in_document_order (root : Node) : Enumerates root.Draws root.drawables := by
  rw [drawables_eq]
  exact root.enumerates_visitsBelow

/-- Only a shape can be hidden: what stands in a group that is not displayed is drawn. -/
example : (element "svg" [] [element "g" [("display", "none")] [element "path" [] []],
    element "path" [("display", "none")] [element "rect" [] []]]).drawables =
      [⟨.path, "path", []⟩] := by
  decide +kernel

end Node

end SvgDrawing
