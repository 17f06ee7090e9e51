import SvgDrawing.Proofs.Element.Policy
import SvgDrawing.Proofs.Files.FailedRun

/-!
# Runs that fail at an element

That an element cannot be converted is a failure of its own, apart from those of files, of markup
and of rendering.  It ends a run exactly where the run comes to an icon with such an element, and
only under the policy that stops there (`renderFolder_conversion_iff`).  Everything that may go
wrong with the icon before its elements are looked at goes wrong instead, and everything after is
not tried.
-/
namespace SvgDrawing

/-! ## Documents -/

/-- An element is drawn and cannot be converted. -/
def Node.HasUnconvertible (root : Node) : Prop := ∃ d ∈ root.drawables, d.failure? ≠ none

/-- Stopping at what cannot be converted fails exactly if there is something of the kind. -/
theorem exists_convertTree_eq_conversion_iff (root : Node) :
    (∃ e, (convertTree root "raise").result = .error (.conversion e)) ↔ root.HasUnconvertible := by
  constructor
  · rintro ⟨e, he⟩
    by_cases hall : ∀ d ∈ root.drawables, d.failure? = none
    · rw [convertTree_raise_eq_skip hall, convertTree_skip] at he
      cases he
    · simpa [Node.HasUnconvertible] using hall
  · rintro ⟨d, hd, hfailure⟩
    obtain ⟨before, d', after, e, hds, hbefore, hd'⟩ :=
      exists_first_failure fun hall => hfailure (hall d hd)
    exact ⟨e, (convertTree_raise_of_failure hds hbefore hd').1⟩

theorem convertTree_skip_ne (root : Node) (e : Failure) :
    (convertTree root "skip").result ≠ .error e := by
  rw [convertTree_skip]
  nofun

/-- A rendering that fails for an element has failed before anything was rendered. -/
theorem functionOf_eq_conversion_iff {name : String} {precision : Int} {e : ConversionError}
    {converted : Logged Failure (List Converted)} :
    (Swift.functionOf name precision converted).result = .error (.conversion e) ↔
      converted.result = .error (.conversion e) := by
  rw [Swift.functionOf]
  cases converted.result with
  | error cause =>
    change Except.error cause = Except.error _ ↔ _
    rw [Except.error.injEq, Except.error.injEq]
  | ok elements =>
    change (Swift.function name precision elements).mapError Failure.render = _ ↔ _
    refine iff_of_false ?_ (by simp)
    intro h
    cases hfunction : Swift.function name precision elements <;> rw [hfunction] at h <;> cases h

/-- A missing precision is noticed after the conversion. -/
theorem renderUnrounded_eq_conversion_iff {text name policy : String} {e : ConversionError} :
    (renderUnrounded text name policy).result = .error (.conversion e) ↔
      (convertDocument text policy).result = .error (.conversion e) := by
  simp only [renderUnrounded, functionOf_eq_conversion_iff]
  cases (convertDocument text policy).result with
  | error cause => rfl
  | ok elements =>
    refine iff_of_false ?_ nofun
    intro h
    change (if Swift.hasCoordinates elements then _ else _) = _ at h
    split at h <;> cases h

theorem convertDocument_eq_conversion_iff {text policy : String} {e : ConversionError} :
    (convertDocument text policy).result = .error (.conversion e) ↔
      ∃ root, Node.ofText? text = .ok root ∧
        (convertTree root policy).result = .error (.conversion e) := by
  rw [convertDocument]
  cases Node.ofText? text with
  | error cause =>
    constructor
    · intro h
      cases h
    · rintro ⟨root, hroot, -⟩
      cases hroot
  | ok root => simp

/-! ## Icons -/

/-- A file can be read as a document, and one of its elements is drawn and cannot be converted. -/
def HoldsUnconvertible (files : FileTree) (file : Path) : Prop :=
  ∃ bytes text root, files.read file = .ok bytes ∧ Text.decodeLines bytes = .ok text ∧
    Node.ofText? text = .ok root ∧ root.HasUnconvertible

namespace Job

variable {job : Job} {files : FileTree} {file : Path} {e : ConversionError}

theorem source_eq_conversion_iff : (job.source files file).result = .error (.conversion e) ↔
    ∃ bytes text root, files.read file = .ok bytes ∧ Text.decodeLines bytes = .ok text ∧
      Node.ofText? text = .ok root ∧
      (convertTree root job.policy).result = .error (.conversion e) := by
  constructor
  · intro h
    rw [source] at h
    split at h
    · cases h
    · next bytes hread =>
      split at h
      · cases h
      · next text htext =>
        have hconverted : (convertDocument text job.policy).result = .error (.conversion e) := by
          split at h
          · exact functionOf_eq_conversion_iff.mp h
          · exact renderUnrounded_eq_conversion_iff.mp h
        obtain ⟨root, hroot, he⟩ := convertDocument_eq_conversion_iff.mp hconverted
        exact ⟨bytes, text, root, hread, htext, hroot, he⟩
  · rintro ⟨bytes, text, root, hread, htext, hroot, he⟩
    have hconverted := convertDocument_eq_conversion_iff.mpr ⟨root, hroot, he⟩
    simp only [source, hread, htext]
    split
    · exact functionOf_eq_conversion_iff.mpr hconverted
    · exact renderUnrounded_eq_conversion_iff.mpr hconverted

/-- An icon fails for one of its elements if the policy is to stop there. -/
theorem exists_source_eq_conversion_iff (h : job.policy = "raise") :
    (∃ e, (job.source files file).result = .error (.conversion e)) ↔
      HoldsUnconvertible files file := by
  simp only [source_eq_conversion_iff, h, HoldsUnconvertible,
    ← exists_convertTree_eq_conversion_iff]
  constructor
  · rintro ⟨e, bytes, text, root, hread, htext, hroot, he⟩
    exact ⟨bytes, text, root, hread, htext, hroot, e, he⟩
  · rintro ⟨bytes, text, root, hread, htext, hroot, e, he⟩
    exact ⟨e, bytes, text, root, hread, htext, hroot, he⟩

/-- An icon never fails for one of its elements if these are left out. -/
theorem source_ne_conversion (h : job.policy = "skip") :
    (job.source files file).result ≠ .error (.conversion e) := by
  intro hsource
  obtain ⟨_, _, root, -, -, -, he⟩ := source_eq_conversion_iff.mp hsource
  rw [h] at he
  exact convertTree_skip_ne root _ he

end Job

/-! ## Runs -/

/-- A run makes the output folder, goes well through the icons in front of one, and comes to this
one, whose identifier is not taken. -/
def Reaches (job : Job) (files : FileTree) (name : String) (q : Progress) : Prop :=
  ∃ made front back, files.makeFolder job.outputFolder = (made, none) ∧
    job.iconNames made = .ok (front ++ name :: back) ∧
    renderIcons job (.start made) front = (q, none) ∧ iconIdentifier name ∉ q.icons.map Prod.snd

/-- A run fails for an element exactly if it comes to an icon that does. -/
theorem renderFolder_conversion_iff {job : Job} {files : FileTree} :
    (∃ e, (renderFolder job files).2 = some (.conversion e)) ↔
      ∃ name q, Reaches job files name q ∧
        ∃ e, (job.source q.files (job.file name)).result = .error (.conversion e) := by
  constructor
  · rintro ⟨e, h⟩
    obtain ⟨front, name, made, q, hfails⟩ := exists_failsAt (Prod.ext rfl h) nofun nofun
    obtain ⟨back, hnames⟩ := hfails.names_eq
    exact ⟨name, q, ⟨made, front, back, hfails.folder_eq, hnames, hfails.front_eq, hfails.free⟩,
      e, hfails.source_eq⟩
  · rintro ⟨name, q, ⟨made, front, back, hmade, hnames, hfront, hfree⟩, e, hsource⟩
    have hfails : FailsAt job files front name made q (.conversion e) :=
      ⟨hmade, ⟨back, hnames⟩, hfront, hfree, hsource⟩
    exact ⟨e, congrArg Prod.snd hfails.renderFolder_eq⟩

end SvgDrawing
