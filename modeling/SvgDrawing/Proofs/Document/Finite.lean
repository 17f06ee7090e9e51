import SvgDrawing.Proofs.Element.Finite
import SvgDrawing.Proofs.Swift.NumberText

/-!
# Documents with finite coordinates

Only single numbers are checked for being too large, so the coordinates of a path may become
infinite or not-a-number, and then such words stand in the source of its document.  When that
happens can be told from the path data, by following the sums and reflections that they make:
`finite_iff_inRange`.
-/
namespace SvgDrawing

open PathData Swift

/-- All paths that a document draws are in range. -/
def DocumentInRange (s : String) : Prop :=
  ∀ drawables, drawablesOf s = .ok drawables → ∀ d ∈ drawables, d.InRange

/-- One drawn path that is out of range is enough. -/
theorem not_documentInRange {s data : String} {drawables : List Drawable} {d : Drawable}
    {segments : List Segment} (hs : drawablesOf s = .ok drawables) (hd : d ∈ drawables)
    (hkind : d.kind = .path) (hdata : d.attributes.get? "d" = some data)
    (hsegments : interpret data = .ok segments) (hrange : ¬ PathInRange data) :
    ¬ DocumentInRange s := by
  intro hall
  exact hrange (hall drawables hs d hd hkind data segments hdata hsegments)

/-- A document that is rendered was converted, and its coordinates can be rounded. -/
theorem renderDocument_eq_ok {s name policy code : String} {precision : Int}
    (h : (renderDocument s name precision policy).result = .ok code) :
    ∃ elements, (convertDocument s policy).result = .ok elements ∧
      (∀ x ∈ coordinates elements, Fits precision x) ∧
      functionWith (written precision) name elements = code :=
  functionOf_eq_ok_iff.mp h

theorem Swift.number?_eq_written {precision : Int} {x : Double} (h : Fits precision x) :
    number? precision x = some (written precision x) := by
  obtain ⟨text, htext⟩ := Option.isSome_iff_exists.mp h
  rw [written, htext, Option.getD_some]

/-- What a path draws by itself is finite exactly if the path is in range.  In the source of a
document no coordinate is written as a word exactly if all paths that it draws are in range. -/
theorem finite_iff_inRange (d : String) (segments : List Segment) (s name policy code : String)
    (precision : Int) :
    (interpret d = .ok segments → ((∀ s ∈ segments, s.isFinite) ↔ PathInRange d)) ∧
    ((renderDocument s name precision policy).result = .ok code →
      ∃ elements, (convertDocument s policy).result = .ok elements ∧
        code = functionWith (written precision) name elements ∧
        (∀ x ∈ coordinates elements, number? precision x = some (written precision x)) ∧
        ((∀ x ∈ coordinates elements, written precision x ∉ nonNumbers) ↔ DocumentInRange s)) := by
  refine ⟨fun h => interpret_isFinite_iff h, ?_⟩
  intro h
  obtain ⟨elements, helements, hfits, hcode⟩ := renderDocument_eq_ok h
  have htexts : ∀ x ∈ coordinates elements, number? precision x = some (written precision x) :=
    fun x hx => number?_eq_written (hfits x hx)
  refine ⟨elements, helements, hcode.symm, htexts, ?_⟩
  have hfinite : (∀ x ∈ coordinates elements, written precision x ∉ nonNumbers) ↔
      ∀ x ∈ coordinates elements, x.isFinite :=
    forall₂_congr fun x hx => by rw [mem_nonNumbers_iff (htexts x hx), not_not]
  obtain ⟨drawables, hdrawables, rfl⟩ := convertDocument_eq_ok helements
  rw [hfinite, isFinite_converted_iff]
  constructor
  · intro hall drawables' hdrawables'
    rw [hdrawables] at hdrawables'
    cases hdrawables'
    exact hall
  · intro hall
    exact hall drawables hdrawables

/-- A relative line to the sum of two large numbers ends at infinity, and the source of a
document with this path has a word for a coordinate. -/
theorem relative_line_overflows :
    (∃ segments, interpret "M1e308 0l1e308 0" = .ok segments ∧ ¬ ∀ s ∈ segments, s.isFinite) ∧
    ∃ code elements,
      (renderDocument "<svg><path d='M1e308 0l1e308 0'/></svg>" "a" 5 "raise").result = .ok code ∧
      (convertDocument "<svg><path d='M1e308 0l1e308 0'/></svg>" "raise").result = .ok elements ∧
      ∃ x ∈ coordinates elements, written 5 x ∈ nonNumbers := by
  have hrange : ¬ PathInRange "M1e308 0l1e308 0" := by decide +kernel
  have hdrawn : drawablesOf "<svg><path d='M1e308 0l1e308 0'/></svg>" =
      .ok [⟨.path, "path", [("d", "M1e308 0l1e308 0")]⟩] :=
    toOption_eq_some_iff.mp (by decide +kernel)
  obtain ⟨segments, hsegments⟩ : ∃ segments, interpret "M1e308 0l1e308 0" = .ok segments := by
    simp only [← toOption_eq_some_iff, ← Option.isSome_iff_exists]
    decide +kernel
  obtain ⟨code, hcode⟩ : ∃ code,
      (renderDocument "<svg><path d='M1e308 0l1e308 0'/></svg>" "a" 5 "raise").result =
        .ok code := by
    simp only [← toOption_eq_some_iff, ← Option.isSome_iff_exists]
    decide +kernel
  obtain ⟨hpath, hdocument⟩ := finite_iff_inRange "M1e308 0l1e308 0" segments
    "<svg><path d='M1e308 0l1e308 0'/></svg>" "a" "raise" code 5
  obtain ⟨elements, helements, -, -, hwords⟩ := hdocument hcode
  refine ⟨⟨segments, hsegments, ?_⟩, code, elements, hcode, helements, ?_⟩
  · rw [hpath hsegments]
    exact hrange
  · have hout := not_documentInRange hdrawn (List.mem_singleton.mpr rfl) rfl rfl hsegments hrange
    rw [← hwords] at hout
    simpa using hout

end SvgDrawing
