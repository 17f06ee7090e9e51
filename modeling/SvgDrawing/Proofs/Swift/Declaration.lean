import SvgDrawing.Files.IconFolder
import SvgDrawing.Proofs.Results
import SvgDrawing.Proofs.Swift.Coordinates
import SvgDrawing.Proofs.Swift.Identifier
import SvgDrawing.Proofs.Text.Lines

/-!
# What a source declares

A source has one declaration, on its third line: the function of a drawing, or the enumeration of an
index.  From this line can be told which of the two a source is (`Declares`).
-/
namespace SvgDrawing

open Text

namespace Swift

/-- The third line of a source declares the drawing function with this name. -/
def Declares (code name : String) : Prop :=
  (linesOf (· == '\n') code)[2]? = some ("func " ++ name ++ "(in context: CGContext) \x7b").toList

/-- The third line behind two that are the same in all sources. -/
theorem getElem?_two_linesOf {third : String} (h : '\n' ∉ third.toList) (rest : List String) :
    (linesOf (· == '\n') (lines (["import CoreGraphics", "", third] ++ rest)))[2]? =
      some third.toList := by
  have hline {s : String} (hs : '\n' ∉ s.toList) : ∀ c ∈ s.toList, (c == '\n') = false :=
    fun c hc => beq_eq_false_iff_ne.mpr fun heq => hs (heq ▸ hc)
  have hfront : ∀ s ∈ ["import CoreGraphics", "", third], ∀ c ∈ s.toList, (c == '\n') = false := by
    simp only [List.forall_mem_cons]
    exact ⟨hline (by decide +kernel), hline (by decide +kernel), hline h, List.forall_mem_nil _⟩
  rw [linesOf_lines_append (by decide) (by simp) hfront]
  rfl

/-- The source of a drawing declares its function. -/
theorem declares_functionWith (write : Double → String) (name : String)
    (elements : List Converted) :
    Declares (functionWith write name elements) ("draw" ++ identifier name) := by
  rw [Declares, functionWith, List.append_assoc,
    getElem?_two_linesOf (not_mem_around (by decide) name (by decide +kernel) (by decide +kernel))]
  simp [String.append_assoc]

theorem declares_of_functionOf {name code : String} {precision : Int}
    {converted : Logged Failure (List Converted)}
    (h : (functionOf name precision converted).result = .ok code) :
    Declares code ("draw" ++ identifier name) := by
  obtain ⟨elements, -, -, rfl⟩ := functionOf_eq_ok_iff.mp h
  exact declares_functionWith _ name elements

/-- An index declares an enumeration, and no function. -/
theorem not_declares_index (name : String) (icons : List (String × String)) (function : String) :
    ¬ Declares (index name icons) function := by
  have hthird : (linesOf (· == '\n') (index name icons))[2]? =
      some ("public enum " ++ identifier name ++ " \x7b").toList :=
    getElem?_two_linesOf
      (not_mem_around (by decide) name (by decide +kernel) (by decide +kernel)) _
  rw [Declares, hthird]
  simp [String.toList_append]

end Swift

/-- The source for an icon file declares the function with the identifier of the file. -/
theorem Job.declares_of_source {job : Job} {files : FileTree} {file : Path} {code : String}
    (h : (job.source files file).result = .ok code) :
    Swift.Declares code ("draw" ++ Swift.identifier file.stem) := by
  rw [source] at h
  split at h
  · cases h
  · split at h
    · cases h
    · split at h
      · exact Swift.declares_of_functionOf h
      · exact Swift.declares_of_functionOf h

end SvgDrawing
