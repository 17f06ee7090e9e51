import SvgDrawing.Proofs.Element.Policy
import SvgDrawing.Proofs.Swift.Comments

/-!
# Documents that are always rendered

If elements that cannot be converted are left out, all that can go wrong with a document that has
been read is that rounding a coordinate overflows.  It does not with places behind the point, and
the infinities and not-a-number are written as words, so then there is a source for every document
(`skip_renders`).
-/
namespace SvgDrawing

open Swift

variable {name policy : String} {precision : Int}

/-- The conversion of a document does not render anything. -/
theorem convertTree_ne_error_render (root : Node) (policy : String) (cause : RenderError) :
    (convertTree root policy).result ≠ .error (.render cause) := by
  intro h
  rw [convertTree] at h
  split at h
  · cases h
  · next policy' _ =>
    simp only at h
    cases hresult : (convertVisits policy' root.visitsBelow).result with
    | error e =>
      rw [hresult] at h
      cases h
    | ok elements =>
      rw [hresult] at h
      cases h

/-- Elements that have been converted are rendered unless rounding one of their coordinates
overflows. -/
theorem functionOf_eq_error {converted : Logged Failure (List Converted)} {e : Failure}
    {elements : List Converted} (helements : converted.result = .ok elements)
    (h : (functionOf name precision converted).result = .error e) :
    e = .render .overflow ∧ ∃ x ∈ coordinates elements, number? precision x = none := by
  rw [functionOf, helements] at h
  change (function name precision elements).mapError Failure.render = .error e at h
  rw [function_eq, orOverflow] at h
  split at h
  · cases h
  · next hfits =>
    cases h
    refine ⟨rfl, ?_⟩
    simpa [Fits] using hfits

/-- Without places in front of the point nothing overflows. -/
theorem neg_of_functionOf_eq_error_render {root : Node} {cause : RenderError}
    (h : (functionOf name precision (convertTree root policy)).result = .error (.render cause)) :
    cause = .overflow ∧ precision < 0 := by
  cases hconverted : (convertTree root policy).result with
  | error e =>
    have herror : e = .render cause := by
      rw [functionOf, hconverted] at h
      cases h
      rfl
    exact absurd (herror ▸ hconverted) (convertTree_ne_error_render root policy cause)
  | ok elements =>
    obtain ⟨hcause, x, -, hx⟩ := functionOf_eq_error hconverted h
    cases hcause
    refine ⟨rfl, Int.not_le.mp fun hprecision => ?_⟩
    have hfits := fits_of_nonneg hprecision x
    rw [Fits, hx] at hfits
    cases hfits

/-- The elements of a tree that can be converted as source, and the log of their conversion. -/
theorem functionOf_skip (h : 0 ≤ precision) (root : Node) (name : String) :
    functionOf name precision (convertTree root "skip") =
      ⟨root.visitsBelow.flatMap Visit.log,
        .ok (functionWith (written precision) name
          (root.drawables.filterMap Drawable.converted?))⟩ := by
  have hresult := functionOf_eq_ok h name (congrArg Logged.result (convertTree_skip root))
  have hlog : (functionOf name precision (convertTree root "skip")).log =
      root.visitsBelow.flatMap Visit.log := congrArg Logged.log (convertTree_skip root)
  rw [← hlog, ← hresult]

/-- With places behind the point every coordinate has a text.  If elements that cannot be converted
are left out, every tree has a source, in which each of the other elements has its block, and a
document has one exactly if it can be read.  Rounding overflows for a negative precision only,
whatever is done about elements that cannot be converted. -/
theorem skip_renders (h : 0 ≤ precision) :
    (∀ x, ∃ text, number? precision x = some text) ∧
    (∀ root name, functionOf name precision (convertTree root "skip") =
        ⟨root.visitsBelow.flatMap Visit.log,
          .ok (functionWith (written precision) name
            (root.drawables.filterMap Drawable.converted?))⟩) ∧
    (∀ e : Converted, elementLines precision e = .ok (elementLinesWith (written precision) e)) ∧
    (∀ s name, (∃ code, (renderDocument s name precision "skip").result = .ok code) ↔
      ∃ root, Node.ofText? s = .ok root) ∧
    ∀ p root name policy cause,
      (functionOf name p (convertTree root policy)).result = .error (.render cause) →
        cause = .overflow ∧ p < 0 := by
  refine ⟨fun x => Option.isSome_iff_exists.mp (fits_of_nonneg h x), functionOf_skip h, ?_, ?_,
    fun p root name policy cause => neg_of_functionOf_eq_error_render⟩
  · intro e
    rw [elementLines_eq]
    exact if_pos fun x _ => fits_of_nonneg h x
  · intro s name
    rw [renderDocument, convertDocument]
    cases Node.ofText? s with
    | error e =>
      refine iff_of_false ?_ ?_
      · rintro ⟨code, hcode⟩
        cases hcode
      · rintro ⟨root, hroot⟩
        cases hroot
    | ok root =>
      have hcode := congrArg Logged.result (functionOf_skip h root name)
      exact iff_of_true ⟨_, hcode⟩ ⟨root, rfl⟩

/-- A document with a rectangle that cannot be converted and a line to infinity is rendered without
decimal places, and a coordinate that is not rendered to multiples of `10 ^ 308`. -/
theorem skip_renders_line_to_infinity :
    (∃ code, (renderDocument "<svg><rect/><path d='M1e308 0l1e308 0'/></svg>" "a" 0 "skip").result =
      .ok code) ∧
    number? (-308) (.ofDecimal false ⟨17, 307⟩) = none := by
  obtain ⟨-, -, -, hdocument, -⟩ := skip_renders (Int.le_refl 0)
  refine ⟨(hdocument _ _).mpr ?_, by decide +kernel⟩
  simp only [← toOption_eq_some_iff, ← Option.isSome_iff_exists]
  decide +kernel

end SvgDrawing
