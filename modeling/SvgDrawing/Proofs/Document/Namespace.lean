import SvgDrawing.Proofs.Markup.Tags

/-!
# Which elements of a document have a shape

An element has a shape if it is a rectangle, a polygon or a path of the SVG namespace, or has one of
these names and no namespace.  The URI of its namespace is told from the tag as a text, and so
another URI passes for that of SVG, one that goes on after a closing brace.  Documents have no such
URIs, and in them the SVG namespace is the only one.

`Drawable.ofElement?_by_namespace` says this of all trees, and of those of documents.
-/
namespace SvgDrawing

namespace Drawable

variable {name tag : String} {a : Attributes} {d : Drawable}

theorem ofElement?_eq_some_iff :
    ofElement? tag a = some d ↔
      ∃ kind, Tag.shape? tag = some kind ∧ d = ⟨kind, kind.name, a.effective⟩ := by
  rw [ofElement?, Option.map_eq_some_iff]
  refine exists_congr fun kind => and_congr_right fun hkind => ?_
  rw [(Tag.shape?_eq_some_iff.mp hkind).2]
  exact eq_comm

/-- The elements of a namespace that have a shape. -/
theorem ofElement?_qualified_iff {uri : String} (h : Tag.IsBare name) :
    ofElement? (Tag.qualified uri name) a = some d ↔
      Tag.PassesForSvg uri ∧
        ∃ kind : ShapeKind, name = kind.name ∧ d = ⟨kind, name, a.effective⟩ := by
  simp only [ofElement?_eq_some_iff, Tag.shape?_qualified_iff h, and_assoc, exists_and_left]
  refine and_congr_right fun _ => exists_congr fun kind => and_congr_right fun hname => ?_
  rw [hname]

/-- The elements in no namespace that have a shape. -/
theorem ofElement?_of_isBare_iff (h : Tag.IsBare name) :
    ofElement? name a = some d ↔
      ∃ kind : ShapeKind, name = kind.name ∧ d = ⟨kind, name, a.effective⟩ := by
  simp only [ofElement?_eq_some_iff, Tag.shape?_of_isBare_iff h]
  refine exists_congr fun kind => and_congr_right fun hname => ?_
  rw [hname]

end Drawable

namespace Tag

theorem isBare_name (kind : ShapeKind) : IsBare kind.name := by
  unfold IsBare
  cases kind <;> decide

/-- Only the URI itself passes for that of SVG if it has no closing brace. -/
theorem passesForSvg_iff {uri : String} (h : '\x7d' ∉ uri.toList) :
    PassesForSvg uri ↔ uri = svgUri := by
  refine or_iff_left ?_
  rintro ⟨more, -, rfl⟩
  exact h (by simp)

/-- The tags of documents that have a shape. -/
theorem IsProper.shape?_iff {tag : String} (h : IsProper tag) {kind : ShapeKind} :
    shape? tag = some kind ↔ tag = kind.name ∨ tag = qualified svgUri kind.name := by
  constructor
  · intro hkind
    obtain ⟨name, hname, rfl | ⟨uri, huri, rfl⟩⟩ := h
    · exact .inl ((shape?_of_isBare_iff hname).mp hkind)
    · obtain ⟨hsvg, rfl⟩ := (shape?_qualified_iff hname).mp hkind
      rw [passesForSvg_iff huri] at hsvg
      exact .inr (hsvg ▸ rfl)
  · rintro (rfl | rfl)
    · exact (shape?_of_isBare_iff (isBare_name kind)).mpr rfl
    · exact (shape?_qualified_iff (isBare_name kind)).mpr ⟨.inl rfl, rfl⟩

end Tag

/-- An element with a local name has a shape if this is the name of one, an element in a namespace
if besides the URI is that of SVG or goes on after it with a closing brace and has one line.  It is
reported by its local name.  In documents the URI is that of SVG. -/
theorem Drawable.ofElement?_by_namespace :
    (∀ uri name a d, Tag.IsBare name →
      (Drawable.ofElement? (Tag.qualified uri name) a = some d ↔
        Tag.PassesForSvg uri ∧
          ∃ kind : ShapeKind, name = kind.name ∧ d = ⟨kind, name, a.effective⟩)) ∧
    (∀ name a d, Tag.IsBare name →
      (Drawable.ofElement? name a = some d ↔
        ∃ kind : ShapeKind, name = kind.name ∧ d = ⟨kind, name, a.effective⟩)) ∧
    ∀ s root p tag a inside d, Node.ofText? s = .ok root →
      root.descendant? p = some (.element tag a inside) →
      (Drawable.ofElement? tag a = some d ↔
        ∃ kind : ShapeKind, (tag = kind.name ∨ tag = Tag.qualified Tag.svgUri kind.name) ∧
          d = ⟨kind, kind.name, a.effective⟩) := by
  refine ⟨fun uri name a d h => ofElement?_qualified_iff h,
    fun name a d h => ofElement?_of_isBare_iff h, ?_⟩
  intro s root p tag a inside d hs hp
  have hproper : Tag.IsProper tag := Node.hasProperTags_of_ofText? hs p tag a inside hp
  rw [ofElement?_eq_some_iff]
  exact exists_congr fun kind => and_congr_left' hproper.shape?_iff

/-- A path in the SVG namespace and one in no namespace have a shape, and of the two paths in a
document with two namespaces only the one in that of SVG. -/
theorem Drawable.ofElement?_path_by_namespace :
    Drawable.ofElement? (Tag.qualified Tag.svgUri "path") [] = some ⟨.path, "path", []⟩ ∧
    Drawable.ofElement? "path" [] = some ⟨.path, "path", []⟩ ∧
    ∃ root,
      Node.ofText? "<a xmlns:s='http://www.w3.org/2000/svg' xmlns:t='t'><s:path/><t:path/></a>" =
        .ok root ∧
      root.descendant? [0] = some (.element (Tag.qualified Tag.svgUri "path") [] []) ∧
      root.descendant? [1] = some (.element (Tag.qualified "t" "path") [] []) ∧
      ∀ d, Drawable.ofElement? (Tag.qualified "t" "path") [] ≠ some d := by
  have hbare : Tag.IsBare "path" := Tag.isBare_name .path
  have hread : Node.ofText?
      "<a xmlns:s='http://www.w3.org/2000/svg' xmlns:t='t'><s:path/><t:path/></a>" =
        .ok (.element "a" [] [.element (Tag.qualified Tag.svgUri "path") [] [],
          .element (Tag.qualified "t" "path") [] []]) := by
    with_unfolding_all rfl
  obtain ⟨hqualified, hname, hdocument⟩ := Drawable.ofElement?_by_namespace
  refine ⟨?_, ?_, _, hread, rfl, rfl, ?_⟩
  · exact (hqualified _ _ _ _ hbare).mpr ⟨.inl rfl, .path, rfl, rfl⟩
  · exact (hname _ _ _ hbare).mpr ⟨.path, rfl, rfl⟩
  · intro d hd
    obtain ⟨kind, htag, -⟩ := (hdocument _ _ [1] _ _ _ d hread rfl).mp hd
    revert htag
    cases kind <;> decide

/-- The URI of an element with a shape can be another one than that of SVG. -/
theorem Drawable.ofElement?_brace_in_namespace :
    ¬ ∀ uri name a, Tag.IsBare name →
      ((∃ d, Drawable.ofElement? (Tag.qualified uri name) a = some d) ↔
        uri = Tag.svgUri ∧ ∃ kind : ShapeKind, name = kind.name) := by
  intro h
  have hrect : Drawable.ofElement? (Tag.qualified "http://www.w3.org/2000/svg\x7dx" "rect") [] =
      some ⟨.rect, "rect", []⟩ := by
    decide +kernel
  obtain ⟨huri, -⟩ := (h _ _ _ (Tag.isBare_name .rect)).mp ⟨_, hrect⟩
  exact absurd huri (by decide)

end SvgDrawing
