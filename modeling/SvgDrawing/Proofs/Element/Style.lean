import SvgDrawing.Element.Drawable
import SvgDrawing.Proofs.Element.Points
import SvgDrawing.Proofs.Element.Rectangle
import SvgDrawing.Proofs.Text.Blank

/-!
# Attributes and styles

The attributes of a shape are those of its element with the style spread out over them.  They are
told apart name by name: the last declaration of a name in the style counts, a name that is not
declared keeps the attribute of the element, and the style itself is gone.

A declaration is a piece of the style between semicolons, cut at its first colon.  Any text is a
style, so names may be repeated, be empty or be `style` again, and a value may have colons in it.

The style is spread out on a copy.  This is said about attributes that are changed where they are
kept: the copy is made at a place that was not in use, and nothing is written at any other place.

## Main definitions

* `IsDeclaration piece name value` — what a piece of a style declares.
* `LastDeclares name value pieces` — the last declaration of a name.
* `Attributes.Gives a name value` — what style and attributes of an element say about a name.
* `Attributes.copyAt source kept` — a copy of attributes with the style spread out in place.

## Main statements

* `Attributes.get?_setAll_iff` — declarations written one after the other.
* `Attributes.get?_effective_iff` — the attributes after spreading out the style.
* `Drawable.attributes_by_name` — the attributes of a shape and what depends on them.
-/
namespace SvgDrawing

open Text

/-! ## Declarations -/

/-- What a piece of a style declares: a value for the name in front of its first colon, without the
blanks around either, and an empty value if there is no colon.  A blank piece declares nothing. -/
inductive IsDeclaration (piece : List Char) : String → String → Prop
  | pair {name value : List Char} (hpiece : strip piece = name ++ ':' :: value)
      (hname : ':' ∉ name) :
      IsDeclaration piece (String.ofList (strip name)) (String.ofList (strip value))
  | bare (hne : strip piece ≠ []) (hcolon : ':' ∉ strip piece) :
      IsDeclaration piece (String.ofList (strip piece)) ""

/-- Of the pieces in a list, the last one that declares the name gives it the value. -/
inductive LastDeclares (name value : String) : List (List Char) → Prop
  | here {piece : List Char} {rest : List (List Char)} (h : IsDeclaration piece name value)
      (hrest : ∀ p ∈ rest, ∀ other, ¬ IsDeclaration p name other) :
      LastDeclares name value (piece :: rest)
  | behind {piece : List Char} {rest : List (List Char)} (h : LastDeclares name value rest) :
      LastDeclares name value (piece :: rest)

/-- The declaration of a piece. -/
def declaration? (piece : List Char) : Option (String × String) :=
  if (strip piece).isEmpty then none else some (declaration (strip piece))

theorem declarations_eq (style : String) :
    declarations style = (splitOn ';' style.toList).filterMap declaration? := rfl

section Declaration

variable {piece : List Char} {name value : String} {rest : List (List Char)}

theorem declaration_append {front : List Char} (h : ':' ∉ front) (back : List Char) :
    declaration (front ++ ':' :: back) =
      (String.ofList (strip front), String.ofList (strip back)) := by
  simp [declaration, cutAt_append h]

theorem declaration_of_not_mem {s : List Char} (h : ':' ∉ s) :
    declaration s = (String.ofList (strip s), "") := by
  simp [declaration, cutAt_of_not_mem h, strip, trim]

theorem isDeclaration_iff :
    IsDeclaration piece name value ↔ declaration? piece = some (name, value) := by
  constructor
  · intro h
    cases h with
    | pair hpiece hname =>
      rw [declaration?, hpiece, declaration_append hname]
      simp
    | bare hne hcolon =>
      rw [declaration?, declaration_of_not_mem hcolon, strip_strip]
      simp [hne]
  · intro h
    rw [declaration?] at h
    split at h
    · cases h
    · next hne =>
      have hne : strip piece ≠ [] := fun hnil => hne (List.isEmpty_iff.mpr hnil)
      by_cases hcolon : ':' ∈ strip piece
      · obtain ⟨front, back, hpiece, hfront⟩ := List.eq_append_cons_of_mem hcolon
        rw [hpiece, declaration_append hfront] at h
        cases h
        exact .pair hpiece hfront
      · rw [declaration_of_not_mem hcolon, strip_strip] at h
        cases h
        exact .bare hne hcolon

theorem lastDeclares_cons_iff :
    LastDeclares name value (piece :: rest) ↔
      (IsDeclaration piece name value ∧ ∀ p ∈ rest, ∀ other, ¬ IsDeclaration p name other) ∨
        LastDeclares name value rest := by
  constructor
  · intro h
    cases h with
    | here h hrest => exact .inl ⟨h, hrest⟩
    | behind h => exact .inr h
  · intro h
    rcases h with ⟨h, hrest⟩ | h
    · exact .here h hrest
    · exact .behind h

end Declaration

/-! ## Attributes after spreading out a style -/

namespace Attributes

/-- What style and attributes of an element say about a name: the last declaration in the style
counts, and only without one the attribute of the element does.  The style does not stay. -/
inductive Gives (a : Attributes) (name value : String) : Prop
  | declared {style : String} {pieces : List (List Char)} (hstyle : a.get? "style" = some style)
      (hpieces : SplitsAt ';' style.toList pieces) (h : LastDeclares name value pieces)
  | own (hname : name ≠ "style")
      (hnone : ∀ style pieces, a.get? "style" = some style → SplitsAt ';' style.toList pieces →
        ∀ p ∈ pieces, ∀ other, ¬ IsDeclaration p name other)
      (h : a.get? name = some value)

/-- Declarations that are written one after the other: the last one of a name is left, and what is
not declared is as it was. -/
theorem get?_setAll_iff (pieces : List (List Char)) (a : Attributes) (name value : String) :
    ((pieces.filterMap declaration?).foldl (fun b d => b.set d.1 d.2) a).get? name = some value ↔
      LastDeclares name value pieces ∨
        (∀ p ∈ pieces, ∀ other, ¬ IsDeclaration p name other) ∧ a.get? name = some value := by
  induction pieces generalizing a with
  | nil =>
    have hnone : ¬ LastDeclares name value [] := nofun
    simp [hnone]
  | cons piece rest ih =>
    rw [lastDeclares_cons_iff, List.forall_mem_cons]
    cases hpiece : declaration? piece with
    | none =>
      have hno : ∀ n v, ¬ IsDeclaration piece n v := by
        intro n v h
        rw [isDeclaration_iff, hpiece] at h
        cases h
      rw [List.filterMap_cons_none hpiece, ih]
      simp [hno]
    | some d =>
      have hone : ∀ n v, IsDeclaration piece n v ↔ d = (n, v) := by
        intro n v
        rw [isDeclaration_iff, hpiece, Option.some.injEq]
      rw [List.filterMap_cons_some hpiece, List.foldl_cons, ih, get?_set]
      by_cases hname : name = d.1
      · -- the declaration is the last one if none of the name follows
        have hvalue : d = (name, value) ↔ d.2 = value := by
          rw [hname]
          exact ⟨fun h => congrArg Prod.snd h, fun h => Prod.ext rfl h⟩
        have hdeclares : ¬ ∀ other, ¬ d = (name, other) := fun h => h d.2 (Prod.ext hname.symm rfl)
        rw [if_pos hname, Option.some.injEq]
        simp only [hone, hvalue, hdeclares, false_and, or_false]
        rw [or_comm, and_comm]
      · have hother : ∀ other, ¬ d = (name, other) := fun other h => hname (congrArg Prod.fst h).symm
        rw [if_neg hname]
        simp only [hone, hother, not_false_eq_true, implies_true, true_and, false_and, false_or]

/-- The attributes after spreading out the style, name by name. -/
theorem get?_effective_iff (a : Attributes) (name value : String) :
    a.effective.get? name = some value ↔ a.Gives name value := by
  rw [effective]
  cases hstyle : a.get? "style" with
  | none =>
    constructor
    · intro h
      refine .own ?_ ?_ h
      · intro hname
        rw [hname, hstyle] at h
        cases h
      · intro style pieces h
        rw [hstyle] at h
        cases h
    · intro h
      cases h with
      | declared hsome =>
        rw [hstyle] at hsome
        cases hsome
      | own hname hnone h => exact h
  | some style =>
    simp only [declarations_eq, get?_setAll_iff, get?_erase]
    have hsplits := splitsAt_splitOn ';' style.toList
    constructor
    · intro h
      rcases h with h | ⟨hnone, h⟩
      · exact .declared hstyle hsplits h
      · by_cases hname : name = "style"
        · rw [if_pos hname] at h
          cases h
        · rw [if_neg hname] at h
          refine .own hname ?_ h
          intro other pieces hother hpieces
          rw [hstyle] at hother
          cases hother
          rw [← splitsAt_iff.mp hpieces]
          exact hnone
    · intro h
      cases h with
      | declared hother hpieces h =>
        rw [hstyle] at hother
        cases hother
        rw [← splitsAt_iff.mp hpieces] at h
        exact .inl h
      | own hname hnone h =>
        rw [if_neg hname]
        exact .inr ⟨hnone style _ hstyle hsplits, h⟩

/-! ### In place -/

/-- Attributes that are kept one behind the other, with the style at one place spread out where it
is kept: it is taken away first, and then one declaration after the other is written. -/
def spreadAt (own : Nat) (kept : List Attributes) : List Attributes :=
  match kept[own]?.bind (·.get? "style") with
  | none => kept
  | some style =>
    (declarations style).foldl (fun k d => k.modify own (·.set d.1 d.2))
      (kept.modify own (·.erase "style"))

/-- A copy of attributes with the style spread out in place.  The copy is made at a place that was
not in use. -/
def copyAt (source : Nat) (kept : List Attributes) : List Attributes :=
  match kept[source]? with
  | none => kept
  | some a => spreadAt kept.length (kept ++ [a])

section Place

variable {kept : List Attributes} {own source : Nat} {a : Attributes}

theorem modify_congr {f g : Attributes → Attributes} (ha : kept[own]? = some a) (h : f a = g a) :
    kept.modify own f = kept.modify own g := by
  refine List.ext_getElem? fun place => ?_
  rw [List.getElem?_modify, List.getElem?_modify]
  by_cases hplace : own = place
  · subst hplace
    simp [ha, h]
  · simp [hplace]

theorem foldl_modify (own : Nat) (ds : List (String × String)) (kept : List Attributes)
    (f : Attributes → Attributes) :
    ds.foldl (fun k d => k.modify own (·.set d.1 d.2)) (kept.modify own f) =
      kept.modify own fun a => ds.foldl (fun b d => b.set d.1 d.2) (f a) := by
  induction ds generalizing f with
  | nil => rfl
  | cons d rest ih =>
    rw [List.foldl_cons, List.modify_modify_eq, ih]
    rfl

/-- Only the place with the style is written. -/
theorem spreadAt_eq (own : Nat) (kept : List Attributes) :
    spreadAt own kept = kept.modify own effective := by
  rw [spreadAt]
  cases ha : kept[own]? with
  | none => exact (List.modify_eq_self (List.getElem?_eq_none_iff.mp ha)).symm
  | some a =>
    cases hstyle : a.get? "style" with
    | none =>
      have hsame : id a = a.effective := by
        rw [effective, hstyle]
        rfl
      simp only [Option.bind_some, hstyle]
      rw [← modify_congr ha hsame, List.modify_id]
    | some style =>
      simp only [Option.bind_some, hstyle]
      rw [foldl_modify]
      refine modify_congr ha ?_
      rw [effective, hstyle]

/-- The copy comes behind what is kept already, which stays as it is. -/
theorem copyAt_eq (hsource : kept[source]? = some a) :
    copyAt source kept = kept ++ [a.effective] := by
  have hlast : kept.length < (kept ++ [a]).length := by simp
  rw [copyAt, hsource]
  change spreadAt kept.length (kept ++ [a]) = _
  rw [spreadAt_eq, List.modify_eq_take_cons_drop hlast]
  simp

end Place

end Attributes

/-! ## Shapes -/

/-- The attributes of a shape are spread out on a copy, which leaves those of the element, and all
others that are kept, as they are.  Name by name they are what style and attributes of the element
say, and so are the id and whether the shape is hidden, the data of a path, the points of a polygon
and the lengths of a rectangle. -/
theorem Drawable.attributes_by_name {kept : List Attributes} {source : Nat} {a : Attributes}
    (hsource : kept[source]? = some a) {tag : String} {d : Drawable}
    (h : Drawable.ofElement? tag a = some d) :
    Attributes.copyAt source kept = kept ++ [d.attributes] ∧
    (Attributes.copyAt source kept)[source]? = some a ∧
    (∀ name value, d.attributes.get? name = some value ↔ a.Gives name value) ∧
    (∀ id, d.id? = some id ↔ a.Gives "id" id) ∧
    (d.hidden ↔ a.Gives "display" "none") ∧
    (∀ data, a.Gives "d" data → Shape.path d.attributes = PathData.run .fresh data) ∧
    (∀ text, a.Gives "points" text →
      Shape.polygon d.attributes = Shape.parsePoints text >>= Shape.outline) ∧
    ∀ name x, Shape.HasLength d.attributes name x ↔
      ∃ text, a.Gives name text ∧ Shape.IsLength text.toList x := by
  obtain ⟨kind, -, hd⟩ := Option.map_eq_some_iff.mp h
  have hattributes : d.attributes = a.effective := by rw [← hd]
  have hcopy : Attributes.copyAt source kept = kept ++ [d.attributes] := by
    rw [Attributes.copyAt_eq hsource, hattributes]
  have hinUse : source < kept.length := (List.getElem?_eq_some_iff.mp hsource).1
  have hgives : ∀ name value, d.attributes.get? name = some value ↔ a.Gives name value := by
    intro name value
    rw [hattributes, Attributes.get?_effective_iff]
  refine ⟨hcopy, ?_, hgives, fun id => hgives "id" id, ?_, ?_, ?_, ?_⟩
  · rw [hcopy, List.getElem?_append_left hinUse, hsource]
  · rw [← hgives, Drawable.hidden, beq_iff_eq]
  · intro data hdata
    rw [← hgives] at hdata
    rw [Shape.path, hdata]
  · intro text htext
    rw [← hgives] at htext
    rw [Shape.polygon, htext]
  · intro name x
    simp only [Shape.HasLength, hgives]

/-- A path with a style in which a name is declared twice, one has no value and one is `style`.  In
front of its attributes the empty ones of another element are kept. -/
theorem Drawable.attributes_by_name_of_path :
    ∃ (a : Attributes) (d : Drawable),
      a = [("d", "M9 9"), ("style", "id: a;; d:m1 2 ;fill ;style:x; id :b:c;")] ∧
      Drawable.ofElement? "path" a = some d ∧
      (Attributes.copyAt 1 [[], a])[1]? = some a ∧
      a.Gives "id" "b:c" ∧ a.Gives "fill" "" ∧ a.Gives "style" "x" ∧ ¬ a.Gives "d" "M9 9" ∧
      Shape.path d.attributes = PathData.run .fresh "m1 2" := by
  have hshape : Drawable.ofElement? "path"
      [("d", "M9 9"), ("style", "id: a;; d:m1 2 ;fill ;style:x; id :b:c;")] =
        some ⟨.path, "path", [("id", "b:c"), ("style", "x"), ("fill", ""), ("d", "m1 2")]⟩ := by
    decide +kernel
  obtain ⟨-, hsource, hgives, hid, -, hpath, -, -⟩ := @Drawable.attributes_by_name
    [[], [("d", "M9 9"), ("style", "id: a;; d:m1 2 ;fill ;style:x; id :b:c;")]] 1 _ rfl "path" _
    hshape
  refine ⟨_, _, rfl, hshape, hsource, (hid _).mp (by decide +kernel),
    (hgives _ _).mp (by decide +kernel), (hgives _ _).mp (by decide +kernel), ?_,
    hpath _ ((hgives _ _).mp (by decide +kernel))⟩
  rw [← hgives]
  decide +kernel

end SvgDrawing
