import Mathlib.Logic.Function.Iterate
import SvgDrawing.Proofs.Element.Style

/-!
# Styles declared in a style

A style is taken away before its declarations are written, so a declaration that is called `style`
brings one back.  Exactly then the attributes still have a style after it was spread out, and
exactly then spreading out once more changes them: what is left is the value of a declaration, which
is shorter than the style it stands in, so it cannot come back as it was.

For the same reason this ends.  Each round leaves a shorter style or none, and after as many rounds
as the first style has characters there is none.  `Drawable.settled_iff` has all of this.
-/
namespace SvgDrawing

open Text

/-! ## The last declaration of a name -/

/-- A value is shorter than the piece that declares it. -/
theorem IsDeclaration.length_lt {piece : List Char} {name value : String}
    (h : IsDeclaration piece name value) : value.length < piece.length := by
  have hstrip := length_strip_le piece
  cases h with
  | @pair front back hpiece _ =>
    have hle := length_strip_le back
    rw [hpiece, List.length_append, List.length_cons] at hstrip
    rw [String.length_ofList]
    omega
  | bare hne _ =>
    have hpos := List.length_pos_iff.mpr hne
    rw [String.length_empty]
    omega

section LastDeclares

variable {name value : String} {pieces : List (List Char)}

theorem LastDeclares.exists_mem (h : LastDeclares name value pieces) :
    ∃ piece ∈ pieces, IsDeclaration piece name value := by
  induction h with
  | @here piece rest h _ => exact ⟨piece, List.mem_cons_self, h⟩
  | behind _ ih =>
    obtain ⟨piece, hpiece, h⟩ := ih
    exact ⟨piece, List.mem_cons_of_mem _ hpiece, h⟩

/-- A name that is declared has a last declaration. -/
theorem exists_lastDeclares_iff :
    (∃ value, LastDeclares name value pieces) ↔
      ∃ piece ∈ pieces, ∃ value, IsDeclaration piece name value := by
  constructor
  · rintro ⟨value, h⟩
    obtain ⟨piece, hpiece, h⟩ := h.exists_mem
    exact ⟨piece, hpiece, value, h⟩
  · intro h
    induction pieces with
    | nil =>
      obtain ⟨piece, hpiece, -⟩ := h
      cases hpiece
    | cons first rest ih =>
      -- the first piece counts only if no later one declares the name
      by_cases hrest : ∃ piece ∈ rest, ∃ value, IsDeclaration piece name value
      · obtain ⟨value, hlast⟩ := ih hrest
        exact ⟨value, .behind hlast⟩
      · obtain ⟨piece, hpiece, value, h⟩ := h
        rcases List.mem_cons.mp hpiece with rfl | hpiece
        · exact ⟨value, .here h fun p hp other hother => hrest ⟨p, hp, other, hother⟩⟩
        · exact absurd ⟨piece, hpiece, value, h⟩ hrest

end LastDeclares

/-! ## Attributes that have a style again -/

namespace Attributes

variable {a : Attributes}

/-- A piece of the style declares a style. -/
def DeclaresStyle (a : Attributes) : Prop :=
  ∃ style pieces, a.get? "style" = some style ∧ SplitsAt ';' style.toList pieces ∧
    ∃ piece ∈ pieces, ∃ value, IsDeclaration piece "style" value

theorem effective_of_get?_style (h : a.get? "style" = none) : a.effective = a := by
  rw [effective, h]

/-- A style that is left is the last one declared in the style of the element. -/
theorem get?_effective_style_iff {left : String} :
    a.effective.get? "style" = some left ↔
      ∃ style pieces, a.get? "style" = some style ∧ SplitsAt ';' style.toList pieces ∧
        LastDeclares "style" left pieces := by
  rw [get?_effective_iff]
  constructor
  · intro h
    cases h with
    | declared hstyle hpieces h => exact ⟨_, _, hstyle, hpieces, h⟩
    | own hname => exact absurd rfl hname
  · rintro ⟨style, pieces, hstyle, hpieces, h⟩
    exact .declared hstyle hpieces h

theorem get?_effective_style_eq_none_iff :
    a.effective.get? "style" = none ↔ ¬ a.DeclaresStyle := by
  rw [← not_iff_not, not_not, ← Ne, Option.ne_none_iff_exists']
  simp only [get?_effective_style_iff, DeclaresStyle, ← exists_lastDeclares_iff]
  constructor
  · rintro ⟨left, style, pieces, hstyle, hpieces, h⟩
    exact ⟨style, pieces, hstyle, hpieces, left, h⟩
  · rintro ⟨style, pieces, hstyle, hpieces, left, h⟩
    exact ⟨left, style, pieces, hstyle, hpieces, h⟩

/-- A style that is left is shorter than the one it stands in. -/
theorem length_lt_of_get?_effective_style {left : String}
    (h : a.effective.get? "style" = some left) :
    ∃ style, a.get? "style" = some style ∧ left.length < style.length := by
  obtain ⟨style, pieces, hstyle, hpieces, hlast⟩ := get?_effective_style_iff.mp h
  obtain ⟨piece, hpiece, hdeclares⟩ := hlast.exists_mem
  have hlt := hdeclares.length_lt
  have hle := hpieces.length_le piece hpiece
  rw [String.length_toList] at hle
  exact ⟨style, hstyle, hlt.trans_le hle⟩

/-- Spreading out changes attributes that have a style: it leaves none or a shorter one. -/
theorem get?_style_eq_none_of_effective (h : a.effective.get? "style" = a.get? "style") :
    a.get? "style" = none := by
  cases hstyle : a.get? "style" with
  | none => rfl
  | some style =>
    obtain ⟨other, hother, hlt⟩ := length_lt_of_get?_effective_style (h.trans hstyle)
    rw [hstyle, Option.some.injEq] at hother
    rw [hother] at hlt
    exact absurd hlt (lt_irrefl _)

/-- After more rounds than the style has characters there is no style. -/
theorem get?_style_iterate_effective {n : Nat} {a : Attributes}
    (h : ∀ style, a.get? "style" = some style → style.length < n) :
    (effective^[n] a).get? "style" = none := by
  induction n generalizing a with
  | zero =>
    refine Option.eq_none_iff_forall_ne_some.mpr fun style hstyle => ?_
    exact absurd (h style hstyle) (Nat.not_lt_zero _)
  | succ n ih =>
    -- the bound on the length goes down with each round
    rw [Function.iterate_succ_apply]
    refine ih fun left hleft => ?_
    obtain ⟨style, hstyle, hlt⟩ := length_lt_of_get?_effective_style hleft
    have hlt' := h style hstyle
    omega

end Attributes

/-! ## Shapes -/

/-- The attributes of a shape are without a style exactly if none is declared in the style of its
element, and exactly then spreading them out once more changes nothing, neither the attributes as a
whole nor any value.  In any case no style is left after as many more rounds as the first one has
characters. -/
theorem Drawable.settled_iff {tag : String} {a : Attributes} {d : Drawable}
    (h : Drawable.ofElement? tag a = some d) :
    (d.attributes.get? "style" = none ↔ ¬ a.DeclaresStyle) ∧
    (d.attributes.effective = d.attributes ↔ ¬ a.DeclaresStyle) ∧
    ((∀ name, d.attributes.effective.get? name = d.attributes.get? name) ↔ ¬ a.DeclaresStyle) ∧
    ∀ style, a.get? "style" = some style →
      (Attributes.effective^[style.length] d.attributes).get? "style" = none := by
  obtain ⟨kind, -, hd⟩ := Option.map_eq_some_iff.mp h
  have hattributes : d.attributes = a.effective := by rw [← hd]
  rw [hattributes, ← Attributes.get?_effective_style_eq_none_iff]
  refine ⟨.rfl, ⟨?_, Attributes.effective_of_get?_style⟩, ⟨?_, ?_⟩, ?_⟩
  · intro hsame
    exact Attributes.get?_style_eq_none_of_effective (congrArg (·.get? "style") hsame)
  · intro hsame
    exact Attributes.get?_style_eq_none_of_effective (hsame "style")
  · intro hnone name
    rw [Attributes.effective_of_get?_style hnone]
  · intro style hstyle
    refine Attributes.get?_style_iterate_effective fun left hleft => ?_
    obtain ⟨other, hother, hlt⟩ := Attributes.length_lt_of_get?_effective_style hleft
    rw [hstyle, Option.some.injEq] at hother
    rwa [hother]

/-- A style in a style in a style: one is left twice, and only the third round gives the fill. -/
theorem Drawable.style_in_style_is_left :
    ∃ (a : Attributes) (d : Drawable), a = [("d", "M 0 0"), ("style", "style: style: fill: red")] ∧
      Drawable.ofElement? "path" a = some d ∧ a.DeclaresStyle ∧
      d.attributes.get? "style" = some "style: fill: red" ∧ d.attributes.effective ≠ d.attributes ∧
      d.attributes.effective.get? "style" = some "fill: red" ∧
      d.attributes.effective.effective = [("fill", "red"), ("d", "M 0 0")] ∧
      (Attributes.effective^[23] d.attributes).get? "style" = none := by
  have hshape : Drawable.ofElement? "path"
      [("d", "M 0 0"), ("style", "style: style: fill: red")] =
        some ⟨.path, "path", [("style", "style: fill: red"), ("d", "M 0 0")]⟩ := by
    decide +kernel
  obtain ⟨hstyle, hwhole, -, hends⟩ := Drawable.settled_iff hshape
  have hdeclares : Attributes.DeclaresStyle
      [("d", "M 0 0"), ("style", "style: style: fill: red")] := by
    by_contra hnone
    exact absurd (hstyle.mpr hnone) (by decide)
  refine ⟨_, _, rfl, hshape, hdeclares, rfl, fun hsame => hwhole.mp hsame hdeclares, ?_, ?_,
    hends _ rfl⟩
  · decide +kernel
  · decide +kernel

end SvgDrawing
