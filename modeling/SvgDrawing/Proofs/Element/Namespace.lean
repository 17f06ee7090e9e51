import Mathlib.Data.List.TakeWhile
import SvgDrawing.Element.Drawable
import SvgDrawing.Proofs.Text.Lines
import SvgDrawing.Proofs.Text.Pieces

/-!
# Elements of the SVG namespace

A tag in a namespace is the URI in braces with the local name after it, `Tag.qualified`.  Whether an
element has a shape is decided by how its tag begins and by what is left of it without the text in
braces, and both together say that it is in the SVG namespace and has the name of a shape.

The beginning ends at the first closing brace and the text in braces at the last one on its line.
So a URI that goes on after a closing brace of its own passes for the SVG namespace
(`Tag.PassesForSvg`).
-/
namespace SvgDrawing

/-- The local name of the elements that have a shape. -/
def ShapeKind.name : ShapeKind → String
  | rect => "rect"
  | polygon => "polygon"
  | path => "path"

namespace Tag

/-- The tag of a local name in a namespace. -/
def qualified (uri name : String) : String := "\x7b" ++ uri ++ "\x7d" ++ name

/-- A name without braces. -/
def IsBare (name : String) : Prop := '\x7b' ∉ name.toList ∧ '\x7d' ∉ name.toList

/-- The URI of the SVG namespace. -/
def svgUri : String := "http://www.w3.org/2000/svg"

/-- The SVG namespace, or a URI that begins with it and a closing brace and has one line. -/
def PassesForSvg (uri : String) : Prop :=
  uri = svgUri ∨ ∃ more, '\n' ∉ more.toList ∧ uri = svgUri ++ "\x7d" ++ more

/-! ## Lines without braces -/

theorem withoutBraces_eq_self {line : List Char} (h : '\x7b' ∉ line) :
    withoutBraces line = line := by
  have hfront : line.takeWhile (· != '\x7b') = line :=
    List.takeWhile_eq_self_iff.mpr fun c hc => bne_iff_ne.mpr fun heq => h (heq ▸ hc)
  simp only [withoutBraces, hfront]
  rw [if_neg (by omega)]

/-- From a line that begins with an opening brace, all is taken away up to the last closing one. -/
theorem withoutBraces_enclosed (inside : List Char) {behind : List Char} (h : '\x7d' ∉ behind) :
    withoutBraces ('\x7b' :: inside ++ '\x7d' :: behind) = behind := by
  have hbehind : ∀ c ∈ behind.reverse, c != '\x7d' := fun c hc =>
    bne_iff_ne.mpr fun heq => h (heq ▸ List.mem_reverse.mp hc)
  simp [withoutBraces, List.takeWhile_append_of_pos hbehind]
  omega

/-! ## Local names -/

/-- The local name line by line. -/
theorem toList_localName (tag : String) :
    (localName tag).toList = withoutBraces (Text.firstPiece '\n' tag.toList).1 ++
      (Text.firstPiece '\n' tag.toList).2.flatMap fun line => '\n' :: withoutBraces line := by
  rw [localName, Text.splitOn, List.map_cons, Text.toList_lines_cons, String.toList_ofList,
    List.flatMap_map]
  simp only [String.toList_ofList]

/-- Lines without braces in them are left as they are. -/
theorem flatMap_withoutBraces {lines : List (List Char)} (h : ∀ line ∈ lines, '\x7b' ∉ line) :
    (lines.flatMap fun line => '\n' :: withoutBraces line) = lines.flatMap ('\n' :: ·) := by
  rw [List.flatMap_def, List.flatMap_def, List.map_congr_left fun line hline => by
    rw [withoutBraces_eq_self (h line hline)]]

/-- A name without braces is its own local name. -/
theorem localName_of_isBare {name : String} (h : IsBare name) : localName name = name := by
  obtain ⟨hfirst, hlater⟩ := Text.not_mem_firstPiece '\n' h.1
  rw [← String.toList_inj, toList_localName, withoutBraces_eq_self hfirst,
    flatMap_withoutBraces hlater, Text.firstPiece_append]

/-- The URI is taken away if it has one line. -/
theorem localName_qualified {uri name : String} (h : IsBare name) (huri : '\n' ∉ uri.toList) :
    localName (qualified uri name) = name := by
  have hfeed : '\n' ∉ '\x7b' :: uri.toList ++ ['\x7d'] := by simp [huri]
  have htag : (qualified uri name).toList = '\x7b' :: uri.toList ++ ['\x7d'] ++ name.toList := by
    simp [qualified]
  obtain ⟨hopen, hlater⟩ := Text.not_mem_firstPiece '\n' h.1
  obtain ⟨hclose, -⟩ := Text.not_mem_firstPiece '\n' h.2
  rw [← String.toList_inj, toList_localName, htag, Text.firstPiece_append_of_not_mem hfeed,
    flatMap_withoutBraces hlater, List.append_assoc, List.singleton_append,
    withoutBraces_enclosed _ hclose, Text.firstPiece_append]

/-- What has one line without the text in braces has one line. -/
theorem lineFeed_not_mem_of_localName {tag : String} (h : '\n' ∉ (localName tag).toList) :
    '\n' ∉ tag.toList := by
  rw [toList_localName, List.mem_append, not_or] at h
  have hlater : (Text.firstPiece '\n' tag.toList).2 = [] := by
    by_contra hne
    obtain ⟨line, rest, hlines⟩ := List.exists_cons_of_ne_nil hne
    exact h.2 (by simp [hlines])
  rw [← Text.firstPiece_append '\n' tag.toList, hlater, List.flatMap_nil, List.append_nil]
  exact Text.not_mem_firstPiece_sep '\n' tag.toList

/-! ## Shapes -/

theorem shape?_eq_some_iff {tag : String} {kind : ShapeKind} :
    shape? tag = some kind ↔
      ("\x7b".toList <+: tag.toList → svgNamespace.toList <+: tag.toList) ∧
        localName tag = kind.name := by
  rw [shape?, ← String.startsWith_string_iff, ← String.startsWith_string_iff]
  split
  · next hforeign => simp_all
  · next hforeign =>
    have hsvg : tag.startsWith "\x7b" → tag.startsWith svgNamespace := by simpa using hforeign
    rw [and_iff_right hsvg]
    split
    · next h => cases kind <;> simp [h, ShapeKind.name]
    · next h => cases kind <;> simp [h, ShapeKind.name]
    · next h => cases kind <;> simp [h, ShapeKind.name]
    · next hrect hpolygon hpath =>
      refine iff_of_false nofun ?_
      cases kind
      · exact hrect
      · exact hpolygon
      · exact hpath

/-- The URIs of the tags that begin like those of the SVG namespace. -/
theorem svgNamespace_prefix_qualified_iff {uri name : String} :
    svgNamespace.toList <+: (qualified uri name).toList ↔
      uri = svgUri ∨ ∃ more, uri = svgUri ++ "\x7d" ++ more := by
  have hsvg : svgNamespace.toList = '\x7b' :: (svgUri.toList ++ ['\x7d']) := by decide
  have htag : (qualified uri name).toList = '\x7b' :: (uri.toList ++ '\x7d' :: name.toList) := by
    simp [qualified]
  rw [hsvg, htag, List.cons_prefix_cons, and_iff_right rfl]
  constructor
  · rintro ⟨rest, hrest⟩
    rw [List.append_assoc, List.singleton_append, List.append_eq_append_iff] at hrest
    rcases hrest with ⟨more, huri, hmore⟩ | ⟨more, hshort, hmore⟩
    · cases more with
      | nil => exact .inl (String.toList_inj.mp (by simpa using huri))
      | cons c more =>
        obtain ⟨rfl, -⟩ := List.cons.inj hmore
        exact .inr ⟨String.ofList more, String.toList_inj.mp (by simp [huri])⟩
    · cases more with
      | nil => exact .inl (String.toList_inj.mp (by simpa using hshort.symm))
      | cons c more =>
        -- a shorter URI would end inside the one of the namespace
        obtain ⟨rfl, -⟩ := List.cons.inj hmore
        have hbrace : '\x7d' ∉ svgUri.toList := by decide
        exact absurd (by simp [hshort]) hbrace
  · rintro (rfl | ⟨more, rfl⟩)
    · exact ⟨name.toList, by simp⟩
    · exact ⟨more.toList ++ '\x7d' :: name.toList, by simp⟩

theorem lineFeed_not_mem_name (kind : ShapeKind) : '\n' ∉ kind.name.toList := by
  cases kind <;> decide

/-- The tags in a namespace that have a shape. -/
theorem shape?_qualified_iff {uri name : String} {kind : ShapeKind} (h : IsBare name) :
    shape? (qualified uri name) = some kind ↔ PassesForSvg uri ∧ name = kind.name := by
  have hbegins : "\x7b".toList <+: (qualified uri name).toList :=
    ⟨uri.toList ++ '\x7d' :: name.toList, by simp [qualified]⟩
  rw [shape?_eq_some_iff, imp_iff_right hbegins, svgNamespace_prefix_qualified_iff]
  constructor
  · rintro ⟨huri, hlocal⟩
    have hfeed : '\n' ∉ uri.toList := by
      have htag := lineFeed_not_mem_of_localName (hlocal ▸ lineFeed_not_mem_name kind)
      simp only [qualified, String.toList_append, List.mem_append, not_or] at htag
      exact htag.1.1.2
    rw [localName_qualified h hfeed] at hlocal
    refine ⟨huri.imp id ?_, hlocal⟩
    rintro ⟨more, rfl⟩
    exact ⟨more, fun hmore => hfeed (by simp [hmore]), rfl⟩
  · rintro ⟨huri, hname⟩
    have hfeed : '\n' ∉ uri.toList := by
      rcases huri with rfl | ⟨more, hmore, rfl⟩
      · decide
      · simp only [String.toList_append, List.mem_append, not_or]
        exact ⟨⟨by decide, by decide⟩, hmore⟩
    refine ⟨huri.imp id fun ⟨more, _, hmore⟩ => ⟨more, hmore⟩, ?_⟩
    rw [localName_qualified h hfeed, hname]

/-- The tags in no namespace that have a shape. -/
theorem shape?_of_isBare_iff {name : String} {kind : ShapeKind} (h : IsBare name) :
    shape? name = some kind ↔ name = kind.name := by
  have hbegins : ¬ "\x7b".toList <+: name.toList := fun hstart =>
    h.1 (hstart.subset (by decide))
  rw [shape?_eq_some_iff, localName_of_isBare h]
  exact and_iff_right fun hstart => absurd hstart hbegins

end Tag

end SvgDrawing
