import SvgDrawing.Proofs.Double.Places
import SvgDrawing.Proofs.Element.Ids
import SvgDrawing.Proofs.Swift.Coordinates
import SvgDrawing.Proofs.Text.Lines

/-!
# Ids in comments

The block of an element starts with a comment that shows its id.  The comment is meant as one line,
and as long as the id is, ids cannot change anything in a source but the text of these comments
(`relabel_changes_comments_only`).  An id is not checked for characters that end a line, though:
what follows one stands in the source as it is.

The class of these characters is left open.  It has the line feed in it, which separates the lines
that are written, and neither the blank nor the slash in front of an id.
-/
namespace SvgDrawing

open Text

/-- What the comment above an element says. -/
def Converted.caption (e : Converted) : String := e.id.getD e.tag

namespace Swift

/-! ## Sources that can be written -/

theorem fits_of_nonneg {precision : Int} (h : 0 ≤ precision) (x : Double) : Fits precision x := by
  obtain ⟨y, hy⟩ := Double.exists_roundTo? h x
  rw [Fits, number?, hy]
  rfl

/-- With places behind the point, every drawing is rendered. -/
theorem functionOf_eq_ok {precision : Int} (h : 0 ≤ precision) (name : String)
    {converted : Logged Failure (List Converted)} {elements : List Converted}
    (helements : converted.result = .ok elements) :
    (functionOf name precision converted).result =
      .ok (functionWith (written precision) name elements) :=
  functionOf_eq_ok_iff.mpr ⟨elements, helements, fun x _ => fits_of_nonneg h x, rfl⟩

/-! ## Lines -/

/-- A line that is a comment after its indentation. -/
def isComment (line : List Char) : Bool :=
  ['/', '/', ' '].isPrefixOf (line.dropWhile (· == ' '))

/-- Two lines that are the same outside of comments. -/
def SameCode (line line' : List Char) : Prop := line = line' ∨ isComment line ∧ isComment line'

/-- The comment above the block of an element. -/
def commentOf (e : Converted) : String := indented ("// " ++ e.caption)

/-- The lines of the block of an element below its comment. -/
def blockLines (ends : Char → Bool) (write : Double → String) (e : Converted) : List (List Char) :=
  ("do \x7b" :: (e.operations.map (Style.statementWith {} write)).map indented ++ ["\x7d"]).flatMap
    fun line => linesOf ends (indented line)

variable {ends : Char → Bool} {write : Double → String} {name : String}

/-- The lines of a source: those of its beginning, of a comment and a block for each element,
and of its end. -/
theorem linesOf_functionWith (hfeed : ends '\n') (elements : List Converted) :
    linesOf ends (functionWith write name elements) =
      ["import CoreGraphics", "",
        "func draw" ++ identifier name ++ "(in context: CGContext) \x7b"].flatMap (linesOf ends) ++
      (elements.flatMap fun e => linesOf ends (commentOf e) ++ blockLines ends write e) ++
      ["\x7d", ""].flatMap (linesOf ends) := by
  rw [functionWith, linesOf_lines hfeed (by simp), List.flatMap_append, List.flatMap_append,
    List.map_flatMap, List.flatMap_assoc]
  simp only [elementLinesWith, List.map_cons, List.flatMap_cons, List.cons_append, blockLines,
    List.flatMap_map, List.map_append, List.flatMap_append]
  rfl

/-- Only the comment of a block shows an id. -/
theorem blockLines_eq {e e' : Converted} (h : e.SameButId e') :
    blockLines ends write e' = blockLines ends write e := by
  rw [blockLines, blockLines, h.operations_eq]

/-! ## Comments -/

section comments

variable (hspace : ends ' ' = false) (hslash : ends '/' = false) (e : Converted)

include hspace hslash

/-- A caption stands behind the two slashes, its first line on theirs. -/
theorem linesOf_commentOf : linesOf ends (commentOf e) =
    (linesOf ends e.caption).modifyHead ("    // ".toList ++ ·) := by
  have htext : commentOf e = "    // " ++ e.caption := by
    rw [commentOf, indented, indentation, ← String.append_assoc]
    rfl
  rw [htext]
  refine linesOf_append ?_ _
  simp [hspace, hslash]

/-- A caption adds as many lines as it has characters that end one. -/
theorem length_linesOf_commentOf :
    (linesOf ends (commentOf e)).length = e.caption.toList.countP ends + 1 := by
  rw [linesOf_commentOf hspace hslash, List.length_modifyHead, length_linesOf]

/-- A caption of one line stays in its comment. -/
theorem linesOf_commentOf_of_oneLine (h : ∀ c ∈ e.caption.toList, ends c = false) :
    linesOf ends (commentOf e) = ["    // ".toList ++ e.caption.toList] := by
  rw [linesOf_commentOf hspace hslash, linesOf_eq_singleton h]
  rfl

end comments

theorem isComment_append (s : List Char) : isComment ("    // ".toList ++ s) := by
  simp [isComment]

/-! ## Two sources -/

/-- How many characters that end a line the captions of elements have. -/
def lineEnds (ends : Char → Bool) (elements : List Converted) : Nat :=
  (elements.flatMap fun e => e.caption.toList).countP ends

/-- A caption without characters that end a line. -/
def OneLine (ends : Char → Bool) (e : Converted) : Prop := ∀ c ∈ e.caption.toList, ends c = false

section twoSources

variable {elements elements' : List Converted}

/-- Blocks of elements that differ in their ids have as many lines more or less as there are
more or less characters in the captions that end one. -/
theorem length_blocks_add (write : Double → String) (hspace : ends ' ' = false)
    (hslash : ends '/' = false)
    (h : List.Forall₂ Converted.SameButId elements elements') :
    (elements'.flatMap fun e => linesOf ends (commentOf e) ++ blockLines ends write e).length +
        lineEnds ends elements =
      (elements.flatMap fun e => linesOf ends (commentOf e) ++ blockLines ends write e).length +
        lineEnds ends elements' := by
  induction h with
  | nil => rfl
  | @cons e e' _ _ hsame _ ih =>
    simp only [List.flatMap_cons, List.length_append, lineEnds, List.countP_append,
      length_linesOf_commentOf hspace hslash, blockLines_eq hsame] at ih ⊢
    omega

/-- Two sources have equally many lines exactly if their captions have equally many characters
that end one. -/
theorem length_functionWith_eq_iff (hfeed : ends '\n') (hspace : ends ' ' = false)
    (hslash : ends '/' = false) (h : List.Forall₂ Converted.SameButId elements elements') :
    (linesOf ends (functionWith write name elements)).length =
        (linesOf ends (functionWith write name elements')).length ↔
      lineEnds ends elements = lineEnds ends elements' := by
  have hblocks := length_blocks_add write hspace hslash h
  rw [linesOf_functionWith hfeed, linesOf_functionWith hfeed]
  simp only [List.length_append]
  omega

theorem sameCode_of_forall₂ {lines : List (List Char)} : List.Forall₂ SameCode lines lines :=
  List.forall₂_same.mpr fun _ _ => .inl rfl

/-- Where two captions differ they have one line each, so nothing but this line differs. -/
theorem sameCode_commentOf (hspace : ends ' ' = false) (hslash : ends '/' = false)
    {e e' : Converted} (hsame : e.SameButId e')
    (h : e.id = e'.id ∨ OneLine ends e ∧ OneLine ends e') :
    List.Forall₂ SameCode (linesOf ends (commentOf e)) (linesOf ends (commentOf e')) := by
  rcases h with hid | ⟨he, he'⟩
  · have hcaption : e'.caption = e.caption := by
      rw [Converted.caption, Converted.caption, hid, hsame.tag_eq]
    rw [commentOf, commentOf, hcaption]
    exact sameCode_of_forall₂
  · rw [linesOf_commentOf_of_oneLine hspace hslash e he,
      linesOf_commentOf_of_oneLine hspace hslash e' he']
    exact .cons (.inr ⟨isComment_append _, isComment_append _⟩) .nil

/-- If ids differ only where they have one line each, sources differ only in comments. -/
theorem sameCode_functionWith (hfeed : ends '\n') (hspace : ends ' ' = false)
    (hslash : ends '/' = false) (h : List.Forall₂ Converted.SameButId elements elements')
    (hids : List.Forall₂ (fun e e' => e.id = e'.id ∨ OneLine ends e ∧ OneLine ends e')
      elements elements') :
    List.Forall₂ SameCode (linesOf ends (functionWith write name elements))
      (linesOf ends (functionWith write name elements')) := by
  rw [linesOf_functionWith hfeed, linesOf_functionWith hfeed]
  refine List.rel_append (List.rel_append sameCode_of_forall₂ ?_) sameCode_of_forall₂
  induction h with
  | nil => exact .nil
  | cons hsame _ ih =>
    obtain ⟨hid, hids⟩ := List.forall₂_cons.mp hids
    rw [List.flatMap_cons, List.flatMap_cons, blockLines_eq hsame]
    exact List.rel_append (List.rel_append (sameCode_commentOf hspace hslash hsame hid)
      sameCode_of_forall₂) (ih hids)

/-- What follows a character that ends a line in a caption are lines of the source. -/
theorem mem_linesOf_functionWith (hfeed : ends '\n') (hspace : ends ' ' = false)
    (hslash : ends '/' = false) {e : Converted} (he : e ∈ elements) {line : List Char}
    (hline : line ∈ (linesOf ends e.caption).tail) :
    line ∈ linesOf ends (functionWith write name elements) := by
  have hcomment : line ∈ linesOf ends (commentOf e) := by
    rw [linesOf_commentOf hspace hslash]
    cases hlines : linesOf ends e.caption with
    | nil => rw [hlines] at hline; cases hline
    | cons first later =>
      rw [hlines] at hline
      exact List.mem_cons_of_mem _ hline
  rw [linesOf_functionWith hfeed]
  refine List.mem_append_left _ (List.mem_append_right _ ?_)
  exact List.mem_flatMap.mpr ⟨e, he, List.mem_append_left _ hcomment⟩

end twoSources

/-- A document that is converted is converted with any other ids, and both are written as
sources.  These have equally many lines exactly if their captions have equally many characters
that end one.  If ids differ only where they have one line each, lines at the same place differ
only where both are comments.  But what follows a character that ends a line in an id are lines
of the source, as they are. -/
theorem relabel_changes_comments_only (ends : Char → Bool) (hfeed : ends '\n')
    (hspace : ends ' ' = false) (hslash : ends '/' = false) (root : Node)
    (new : List Nat → String) (name policy : String) (precision : Int) (hprecision : 0 ≤ precision)
    {elements : List Converted} (helements : (convertTree root policy).result = .ok elements) :
    ∃ elements' code code',
      (convertTree (root.relabel new) policy).result = .ok elements' ∧
      (functionOf name precision (convertTree root policy)).result = .ok code ∧
      (functionOf name precision (convertTree (root.relabel new) policy)).result = .ok code' ∧
      ((linesOf ends code).length = (linesOf ends code').length ↔
        lineEnds ends elements = lineEnds ends elements') ∧
      (List.Forall₂ (fun e e' => e.id = e'.id ∨ OneLine ends e ∧ OneLine ends e')
          elements elements' →
        List.Forall₂ SameCode (linesOf ends code) (linesOf ends code')) ∧
      ∀ e ∈ elements, ∀ line ∈ (linesOf ends e.caption).tail, line ∈ linesOf ends code := by
  obtain ⟨elements', helements', hsame⟩ := convertTree_relabel new helements
  refine ⟨elements', functionWith (written precision) name elements,
    functionWith (written precision) name elements', helements', ?_, ?_,
    length_functionWith_eq_iff hfeed hspace hslash hsame, ?_,
    fun e he line hline => mem_linesOf_functionWith hfeed hspace hslash he hline⟩
  · exact functionOf_eq_ok hprecision name helements
  · exact functionOf_eq_ok hprecision name helements'
  · exact sameCode_functionWith hfeed hspace hslash hsame

/-- The second line of the id of a path is a line of the source, which an id of one line does
not add. -/
theorem id_with_two_lines_adds_a_line :
    ∃ root : Node,
      root = .element "svg" [] [.element "path" [("id", "a\nexit(1)"), ("d", "M0 0")] []] ∧
      ∃ code code', (functionOf "Icon" 5 (convertTree root "raise")).result = .ok code ∧
        (functionOf "Icon" 5 (convertTree (root.relabel fun _ => "a") "raise")).result =
          .ok code' ∧
        (linesOf (· == '\n') code).length ≠ (linesOf (· == '\n') code').length ∧
        "exit(1)".toList ∈ linesOf (· == '\n') code := by
  refine ⟨_, rfl, ?_⟩
  have hpath (id : String) (hid : id = "a\nexit(1)" ∨ id = "a") :
      (convertTree (.element "svg" [] [.element "path" [("id", id), ("d", "M0 0")] []])
        "raise").result =
      .ok [⟨"path", some id, [.start, .segment (.moveTo .origin), .fill], []⟩] := by
    rcases hid with rfl | rfl <;> exact toOption_eq_some_iff.mp (by decide +kernel)
  obtain ⟨elements', code, code', helements', hcode, hcode', hlength, -, hlines⟩ :=
    relabel_changes_comments_only (· == '\n') rfl rfl rfl
      (.element "svg" [] [.element "path" [("id", "a\nexit(1)"), ("d", "M0 0")] []])
      (fun _ => "a") "Icon" "raise" 5 (by decide) (hpath _ (.inl rfl))
  refine ⟨code, code', hcode, hcode', ?_, ?_⟩
  · rw [Ne, hlength]
    cases helements'.symm.trans (hpath _ (.inr rfl))
    decide
  · exact hlines _ (List.mem_singleton.mpr rfl) _ (by decide +kernel)

end Swift

end SvgDrawing
