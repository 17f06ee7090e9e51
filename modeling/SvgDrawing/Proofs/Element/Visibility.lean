import Mathlib.Data.List.Perm.Subperm
import SvgDrawing.Proofs.Element.DocumentOrder

/-!
# Hidden elements

An element is hidden if its `display`, given as an attribute or in its style, is `none`.  A hidden
shape takes what is inside it along, but the display of an element without a shape is not looked at:
what stands in a hidden group is drawn.

`Node.displayedPart` is a document without its hidden elements.  It still draws what has nothing
hidden on the way from the root (`Node.draws_displayedPart`), and documents that draw nothing else
are those of `Node.drawables_displayed_iff`.
-/
namespace SvgDrawing

namespace Node

/-- An element that is not to be displayed. -/
def isHidden : Node → Bool
  | comment _ | instruction _ => false
  | element _ attributes _ => attributes.effective.get? "display" == some "none"

/-- Nothing on the way down to a position is hidden; `node` is below the root of a document. -/
def Displays (node : Node) (p : List Nat) : Prop :=
  ∀ q e, q <+: p → node.descendant? q = some e → ¬ e.isHidden

/-- Nothing on the way from the root of a document down to a position is hidden.  It does not
matter whether the root is. -/
def DisplaysBelow (root : Node) (p : List Nat) : Prop :=
  ∀ q e, q ≠ [] → q <+: p → root.descendant? q = some e → ¬ e.isHidden

mutual

/-- A part of a document without hidden elements.  In their places stand comments. -/
def displayed : Node → Node
  | comment text => comment text
  | instruction text => instruction text
  | element tag attributes children =>
    if (element tag attributes children).isHidden then comment ""
    else element tag attributes (displayedAll children)

/-- Parts that follow each other without hidden elements. -/
def displayedAll : List Node → List Node
  | [] => []
  | node :: rest => displayed node :: displayedAll rest

end

/-- A document without its hidden elements. -/
def displayedPart : Node → Node
  | comment text => comment text
  | instruction text => instruction text
  | element tag attributes children => element tag attributes (displayedAll children)

variable {node : Node} {i : Nat} {p : List Nat} {d : Drawable}

/-- A shape is hidden exactly if its element is. -/
theorem isHidden_eq_of_shape? (h : node.shape? = some d) : node.isHidden = d.hidden := by
  cases node with
  | comment text => cases h
  | instruction text => cases h
  | element tag attributes children =>
    obtain ⟨kind, -, rfl⟩ := Option.map_eq_some_iff.mp h
    rfl

/-! ## From the top down -/

theorem displaysBelow_cons {child : Node} (hchild : node.children[i]? = some child) :
    node.DisplaysBelow (i :: p) ↔ child.Displays p := by
  constructor
  · intro h q e hq he
    refine h (i :: q) e (List.cons_ne_nil _ _) (List.cons_prefix_cons.mpr ⟨rfl, hq⟩) ?_
    rw [descendant?, hchild]
    exact he
  · intro h q e hne hq he
    obtain ⟨j, q, rfl⟩ := List.exists_cons_of_ne_nil hne
    obtain ⟨rfl, htail⟩ := List.cons_prefix_cons.mp hq
    rw [descendant?, hchild] at he
    exact h q e htail he

theorem displays_iff : node.Displays p ↔ ¬ node.isHidden ∧ node.DisplaysBelow p := by
  constructor
  · intro h
    exact ⟨h [] node List.nil_prefix rfl, fun q e _ => h q e⟩
  · rintro ⟨hnode, hbelow⟩ q e hq he
    by_cases hnil : q = []
    · subst hnil
      cases he
      exact hnode
    · exact hbelow q e hnil hq he

theorem displaysBelow_nil : node.DisplaysBelow [] := fun _ _ hne hq =>
  absurd (List.prefix_nil.mp hq) hne

/-! ## Documents without hidden elements -/

theorem displayedAll_eq_map (nodes : List Node) : displayedAll nodes = nodes.map displayed := by
  induction nodes with
  | nil => rfl
  | cons node rest ih => rw [displayedAll, ih, List.map_cons]

theorem children_displayedPart (node : Node) :
    node.displayedPart.children = node.children.map displayed := by
  cases node with
  | element tag attributes children => exact displayedAll_eq_map children
  | comment text => rfl
  | instruction text => rfl

theorem shape?_displayedPart (node : Node) : node.displayedPart.shape? = node.shape? := by
  cases node <;> rfl

theorem suppresses_displayedPart : node.displayedPart.Suppresses ↔ node.Suppresses := by
  cases node with
  | element tag attributes children => rw [displayedPart, suppresses_element, suppresses_element]
  | comment text => rfl
  | instruction text => rfl

theorem displayed_of_isHidden (h : node.isHidden) : node.displayed = comment "" := by
  cases node with
  | element tag attributes children => rw [displayed, if_pos h]
  | comment text => cases h
  | instruction text => cases h

theorem displayed_of_not_isHidden (h : ¬ node.isHidden) : node.displayed = node.displayedPart := by
  cases node with
  | element tag attributes children => rw [displayed, if_neg h, displayedPart]
  | comment text => rfl
  | instruction text => rfl

/-- Taking hidden elements out of a part leaves what it shows outside of them. -/
theorem shows_displayed : node.displayed.Shows p d ↔ node.Shows p d ∧ node.Displays p := by
  -- by induction on the position, with the same step for the part and for its children
  induction p generalizing node with
  | nil =>
    rw [displays_iff, and_iff_left displaysBelow_nil]
    by_cases hnode : node.isHidden
    · rw [displayed_of_isHidden hnode, shows_iff]
      simp [hnode, Suppresses.comment]
    · rw [displayed_of_not_isHidden hnode, shows_iff, shows_iff, suppresses_displayedPart,
        shape?_displayedPart]
      simp [hnode, not_draws_nil]
  | cons i p ih =>
    rw [displays_iff]
    by_cases hnode : node.isHidden
    · rw [displayed_of_isHidden hnode, shows_iff]
      simp [hnode, Suppresses.comment]
    · rw [displayed_of_not_isHidden hnode, shows_iff, shows_iff, suppresses_displayedPart,
        draws_cons, draws_cons, children_displayedPart]
      cases hchild : node.children[i]? with
      | none => simp [hchild]
      | some child => simp [hchild, hnode, ih, displaysBelow_cons hchild, and_assoc]

/-- Taking hidden elements out of a document leaves what it draws outside of them. -/
theorem draws_displayedPart (root : Node) (p : List Nat) (d : Drawable) :
    root.displayedPart.Draws p d ↔ root.Draws p d ∧ root.DisplaysBelow p := by
  cases p with
  | nil => simp [not_draws_nil]
  | cons i p =>
    rw [draws_cons, draws_cons, children_displayedPart]
    cases hchild : root.children[i]? with
    | none => simp [hchild]
    | some child => simp [hchild, shows_displayed, displaysBelow_cons hchild]

end Node

/-! ## What is drawn although it is hidden -/

namespace Enumerates

variable {P Q : List Nat → Drawable → Prop} {ds es : List Drawable}

theorem mem_iff (h : Enumerates P ds) (d : Drawable) : d ∈ ds ↔ ∃ p, P p d := by
  obtain ⟨placed, rfl, -, hmem⟩ := h
  simp [hmem]

theorem nodup_of_pairwise_lt {placed : List (List Nat × Drawable)}
    (h : placed.Pairwise fun a b => a.1 < b.1) : placed.Nodup := by
  refine h.imp ?_
  rintro a _ hlt rfl
  exact List.lt_irrefl a.1 hlt

/-- Of two properties one of which implies the other, the lists are the same exactly if the
properties are. -/
theorem eq_iff (hP : Enumerates P ds) (hQ : Enumerates Q es) (h : ∀ p d, P p d → Q p d) :
    ds = es ↔ ∀ p d, Q p d → P p d := by
  obtain ⟨placed, rfl, hsorted, hmem⟩ := hP
  obtain ⟨placed', rfl, hsorted', hmem'⟩ := hQ
  have hsubset : placed ⊆ placed' := fun ⟨p, d⟩ hd => (hmem' p d).mpr (h p d ((hmem p d).mp hd))
  have hsubperm : placed.Subperm placed' := (nodup_of_pairwise_lt hsorted).subperm hsubset
  constructor
  · intro heq p d hd
    have hlength : placed.length = placed'.length := by simpa using congrArg List.length heq
    have hperm : placed.Perm placed' := hsubperm.perm_of_length_le (Nat.le_of_eq hlength.symm)
    exact (hmem p d).mp (hperm.mem_iff.mpr ((hmem' p d).mpr hd))
  · intro hback
    have hsubset' : placed' ⊆ placed :=
      fun ⟨p, d⟩ hd => (hmem p d).mpr (hback p d ((hmem' p d).mp hd))
    have hperm : placed.Perm placed' :=
      hsubperm.antisymm ((nodup_of_pairwise_lt hsorted').subperm hsubset')
    rw [hperm.eq_of_pairwise (fun a b _ _ hab hba => absurd hba (List.lt_asymm hab)) hsorted
      hsorted']

end Enumerates

namespace Node

variable {root e : Node} {p q : List Nat} {d : Drawable}

/-- What is hidden on the way to a shape that is drawn is not a shape. -/
theorem Draws.shape?_of_isHidden (h : root.Draws p d) (hne : q ≠ []) (hq : q <+: p)
    (he : root.descendant? q = some e) (hhidden : e.isHidden) : e.shape? = none := by
  cases hshape : e.shape? with
  | none => rfl
  | some d' =>
    rw [isHidden_eq_of_shape? hshape] at hhidden
    exact absurd (.hidden hshape hhidden) (h.2.2 q e hne hq he)

/-- A document draws nothing that is hidden, itself or by an element around it, exactly if it
draws the same without its hidden elements.  Whatever is drawn although an element around it is
hidden stands in one without a shape, such as a group.  The same holds of what is converted,
since these are elements that are drawn. -/
theorem drawables_displayed_iff (root : Node) :
    ((∀ p d, root.Draws p d → root.DisplaysBelow p) ↔
      root.displayedPart.drawables = root.drawables) ∧
    (∀ p d, root.displayedPart.Draws p d ↔ root.Draws p d ∧ root.DisplaysBelow p) ∧
    (∀ p d q e, root.Draws p d → q ≠ [] → q <+: p → root.descendant? q = some e → e.isHidden →
      q ≠ p ∧ e.shape? = none) ∧
    ∀ policy elements, (convertTree root policy).result = .ok elements →
      ∀ e ∈ elements, ∃ p d, root.Draws p d ∧ d.convert.result = .ok e := by
  have hdraws := draws_displayedPart root
  refine ⟨?_, hdraws, ?_, ?_⟩
  · rw [drawables_eq, drawables_eq, root.displayedPart.enumerates_visitsBelow.eq_iff
      root.enumerates_visitsBelow fun p d h => ((hdraws p d).mp h).1]
    exact forall₂_congr fun p d => ⟨fun h hd => (hdraws p d).mpr ⟨hd, h hd⟩,
      fun h hd => ((hdraws p d).mp (h hd)).2⟩
  · intro p d q e hd hne hq he hhidden
    have hshape : e.shape? = none := hd.shape?_of_isHidden hne hq he hhidden
    refine ⟨?_, hshape⟩
    rintro rfl
    obtain ⟨e', he', hshape'⟩ := hd.2.1
    rw [he] at he'
    cases he'
    rw [hshape] at hshape'
    cases hshape'
  · intro policy elements helements e he
    rw [convertTree_eq_ok helements] at he
    obtain ⟨d, hd, hconverted⟩ := List.mem_filterMap.mp he
    obtain ⟨p, hp⟩ := (root.enumerates_visitsBelow.mem_iff d).mp hd
    exact ⟨p, d, hp, Drawable.converted?_eq_some_iff.mp hconverted⟩

/-- A path in a group that is not displayed by its style is drawn. -/
theorem path_in_hidden_group :
    ∃ root : Node, root = element "svg" [] [element "g" [("style", "display: none")]
        [element "path" [("d", "M0 0")] []]] ∧
      ¬ ∀ p d, root.Draws p d → root.DisplaysBelow p := by
  refine ⟨_, rfl, ?_⟩
  rw [(drawables_displayed_iff _).1]
  decide +kernel

end Node

end SvgDrawing
