import SvgDrawing.Element.Shape
import SvgDrawing.Proofs.PathData.LiteralRow
import SvgDrawing.Proofs.Results
import SvgDrawing.Proofs.Text.Pieces

/-!
# The points of a polygon

The text of a polygon's points is cut into chunks at its blanks, and a chunk is a point if it is two
numbers with one comma between them.  No number has a comma or a blank in it, so a chunk is a point
in one way at most and there is nothing to strip from its numbers.

Either all chunks are points or there is no polygon.  Then the first chunk that is no point tells
what is wrong, also where it has two numbers of which one is too large for a double.  A text has no
chunks at all exactly if it is blank, and then it has no points either.

## Main definitions

* `IsPoint chunk p` — a chunk and the point it stands for.
* `Outlines a segments` — the outline of a polygon, by its attributes.
* `RefusesOutline a e` — what is wrong with the attributes of a polygon.

## Main statements

* `parsePoint_eq_ok_iff`, `parsePoint_eq_error_iff` — the point of a chunk.
* `parsePoints_eq_ok_iff`, `parsePoints_eq_error_iff` — the points of a text.
* `polygon_outlines_or_refuses` — a polygon.
-/
namespace SvgDrawing.Shape

open PathData Text

/-! ## Chunks -/

/-- Two numbers with one comma between them, and the point with these coordinates. -/
def IsPoint (chunk : List Char) (p : Point) : Prop :=
  ∃ x y, chunk = x ++ ',' :: y ∧ Denotes x p.x ∧ Denotes y p.y

/-- A text without blanks. -/
def IsChunk (s : List Char) : Prop := ∀ c ∈ s, ¬ isBlank c

section Chunk

variable {chunk : List Char} {p : Point} {e : ConversionError}

/-- A number has no comma in it, so a point is cut at its own comma. -/
theorem splitOn_numbers {x y : List Char} {u v : Double} (hx : Denotes x u) (hy : Denotes y v) :
    splitOn ',' (x ++ ',' :: y) = [x, y] := by
  rw [splitOn_append_cons hx.comma_not_mem, splitOn_of_not_mem hy.comma_not_mem]

theorem denotes_of_parseNumber {s : List Char} {x : Double} (hs : IsChunk s)
    (h : parseNumber (String.ofList s) = .ok x) : Denotes s x := by
  rwa [parseNumber_eq_ok_iff, String.toList_ofList, strip_of_forall hs] at h

theorem parsePoint_eq_ok_iff (hchunk : IsChunk chunk) :
    parsePoint chunk = .ok p ↔ IsPoint chunk p := by
  constructor
  · intro h
    rw [parsePoint] at h
    split at h
    · next x y hpieces =>
      split at h
      · next hx hy =>
        cases h
        have htext := eq_of_splitOn_eq_pair hpieces
        subst htext
        obtain ⟨hxchunk, hychunk⟩ := List.forall_mem_append.mp hchunk
        exact ⟨x, y, rfl, denotes_of_parseNumber hxchunk hx,
          denotes_of_parseNumber (List.forall_mem_cons.mp hychunk).2 hy⟩
      · cases h
    · cases h
  · rintro ⟨x, y, rfl, hx, hy⟩
    simp only [parsePoint, splitOn_numbers hx hy, hx.parseNumber_eq, hy.parseNumber_eq]

/-- Whatever is wrong with a chunk, it is told by the same error. -/
theorem eq_of_parsePoint_eq_error (h : parsePoint chunk = .error e) :
    e = .requiredAttribute "points" (some (String.ofList chunk)) := by
  rw [parsePoint] at h
  split at h
  · split at h
    · cases h
    · cases h
      rfl
  · cases h
    rfl

theorem parsePoint_eq_error_iff (hchunk : IsChunk chunk) :
    parsePoint chunk = .error e ↔
      (∀ p, ¬ IsPoint chunk p) ∧ e = .requiredAttribute "points" (some (String.ofList chunk)) :=
  eq_error_iff_of (fun _ => parsePoint_eq_ok_iff hchunk) fun _ => eq_of_parsePoint_eq_error

end Chunk

/-! ## Texts -/

/-- A text and what stands between its blanks. -/
abbrev Chunks (s : List Char) : List (List Char) → Prop := RunsIn (fun c => !isBlank c) s

theorem Chunks.isChunk {s : List Char} {chunks : List (List Char)} (h : Chunks s chunks) :
    ∀ chunk ∈ chunks, IsChunk chunk := by
  intro chunk hchunk
  rw [← runsIn_iff.mp h] at hchunk
  simpa [IsChunk] using forall_mem_runs hchunk

theorem parsePoints_eq_mapM {s : String} {chunks : List (List Char)} (h : Chunks s.toList chunks) :
    parsePoints s = chunks.mapM parsePoint := by
  rw [parsePoints, runsIn_iff.mp h]

section Text

variable {s : String} {chunks : List (List Char)} {ps : List Point} {e : ConversionError}

/-- There are points if all chunks are points. -/
theorem parsePoints_eq_ok_iff (h : Chunks s.toList chunks) :
    parsePoints s = .ok ps ↔ List.Forall₂ IsPoint chunks ps := by
  rw [parsePoints_eq_mapM h, mapM_eq_ok_iff]
  have hchunks := h.isChunk
  constructor
  · intro hpoints
    have hboth := (List.forall₂_and_left chunks ps).mpr ⟨hchunks, hpoints⟩
    exact hboth.imp fun chunk p hp => (parsePoint_eq_ok_iff hp.1).mp hp.2
  · intro hpoints
    have hboth := (List.forall₂_and_left chunks ps).mpr ⟨hchunks, hpoints⟩
    exact hboth.imp fun chunk p hp => (parsePoint_eq_ok_iff hp.1).mpr hp.2

/-- The first chunk that is no point is the one that is told. -/
theorem parsePoints_eq_error_iff (h : Chunks s.toList chunks) :
    parsePoints s = .error e ↔ ∃ front chunk back, chunks = front ++ chunk :: back ∧
      (∀ c ∈ front, ∃ p, IsPoint c p) ∧ (∀ p, ¬ IsPoint chunk p) ∧
      e = .requiredAttribute "points" (some (String.ofList chunk)) := by
  have hchunks := h.isChunk
  rw [parsePoints_eq_mapM h, mapM_eq_error_iff]
  refine exists_congr fun front => exists_congr fun chunk => exists_congr fun back =>
    and_congr_right fun hsplit => ?_
  rw [hsplit, List.forall_mem_append, List.forall_mem_cons] at hchunks
  rw [parsePoint_eq_error_iff hchunks.2.1]
  refine and_congr_left fun _ => forall₂_congr fun c hc => exists_congr fun p => ?_
  exact parsePoint_eq_ok_iff (hchunks.1 c hc)

end Text

/-! ## Polygons -/

section Polygon

variable {a : Attributes} {e : ConversionError}

/-- The outline of a polygon: a move to the first of the points between the blanks of the attribute
and lines to the others, in order. -/
def Outlines (a : Attributes) (segments : List Segment) : Prop :=
  ∃ text chunks p ps, a.get? "points" = some text ∧ Chunks text.toList chunks ∧
    List.Forall₂ IsPoint chunks (p :: ps) ∧ segments = .moveTo p :: ps.map .lineTo

/-- What is wrong with the attributes of a polygon. -/
inductive RefusesOutline (a : Attributes) : ConversionError → Prop
  | absent (h : a.get? "points" = none) : RefusesOutline a (.requiredAttribute "points" none)
  | empty {text : String} (htext : a.get? "points" = some text)
      (h : ∀ c ∈ text.toList, isBlank c) : RefusesOutline a .emptyPolygon
  | chunk {text : String} {front back : List (List Char)} {chunk : List Char}
      (htext : a.get? "points" = some text) (h : Chunks text.toList (front ++ chunk :: back))
      (hfront : ∀ c ∈ front, ∃ p, IsPoint c p) (hchunk : ∀ p, ¬ IsPoint chunk p) :
      RefusesOutline a (.requiredAttribute "points" (some (String.ofList chunk)))

theorem outline_eq_ok_iff {ps : List Point} {segments : List Segment} :
    outline ps = .ok segments ↔
      ∃ p rest, ps = p :: rest ∧ segments = .moveTo p :: rest.map .lineTo := by
  cases ps with
  | nil => exact iff_of_false nofun nofun
  | cons p rest =>
    constructor
    · intro h
      cases h
      exact ⟨p, rest, rfl, rfl⟩
    · rintro ⟨_, _, ⟨⟩, rfl⟩
      rfl

theorem outline_eq_error_iff {ps : List Point} :
    outline ps = .error e ↔ ps = [] ∧ e = .emptyPolygon := by
  cases ps with
  | nil =>
    constructor
    · intro h
      cases h
      exact ⟨rfl, rfl⟩
    · rintro ⟨-, rfl⟩
      rfl
  | cons p rest => exact iff_of_false nofun nofun

theorem polygon_eq_bind {text : String} (htext : a.get? "points" = some text) :
    polygon a = parsePoints text >>= outline := by
  rw [polygon, htext]

theorem polygon_eq_ok_iff {segments : List Segment} :
    polygon a = .ok segments ↔ Outlines a segments := by
  constructor
  · intro h
    cases htext : a.get? "points" with
    | none =>
      rw [polygon, htext] at h
      cases h
    | some text =>
      rw [polygon_eq_bind htext] at h
      obtain ⟨points, hpoints, h⟩ := exists_of_bind_eq_ok h
      obtain ⟨p, ps, rfl, rfl⟩ := outline_eq_ok_iff.mp h
      have hchunks := runsIn_runs (fun c => !isBlank c) text.toList
      exact ⟨text, _, p, ps, htext, hchunks, (parsePoints_eq_ok_iff hchunks).mp hpoints, rfl⟩
  · rintro ⟨text, chunks, p, ps, htext, hchunks, hpoints, rfl⟩
    rw [polygon_eq_bind htext, (parsePoints_eq_ok_iff hchunks).mpr hpoints]
    rfl

theorem polygon_eq_error_iff : polygon a = .error e ↔ RefusesOutline a e := by
  constructor
  · intro h
    cases htext : a.get? "points" with
    | none =>
      rw [polygon, htext] at h
      cases h
      exact .absent htext
    | some text =>
      rw [polygon_eq_bind htext] at h
      have hchunks := runsIn_runs (fun c => !isBlank c) text.toList
      rcases bind_eq_error_iff.mp h with hfails | ⟨points, hpoints, h⟩
      · obtain ⟨front, chunk, back, hsplit, hfront, hchunk, rfl⟩ :=
          (parsePoints_eq_error_iff hchunks).mp hfails
        rw [hsplit] at hchunks
        exact .chunk htext hchunks hfront hchunk
      · obtain ⟨rfl, rfl⟩ := outline_eq_error_iff.mp h
        -- no points come of no chunks only, and a text without chunks is blank
        have hnone := (parsePoints_eq_ok_iff hchunks).mp hpoints
        rw [List.forall₂_nil_right_iff] at hnone
        rw [hnone, runsIn_nil_iff] at hchunks
        exact .empty htext (by simpa using hchunks)
  · intro h
    cases h with
    | absent habsent => rw [polygon, habsent]
    | @empty text htext hblank =>
      have hchunks : Chunks text.toList [] := runsIn_nil_iff.mpr (by simpa using hblank)
      rw [polygon_eq_bind htext, (parsePoints_eq_ok_iff hchunks).mpr .nil]
      rfl
    | @chunk text front back chunk htext hchunks hfront hchunk =>
      rw [polygon_eq_bind htext]
      refine bind_eq_error_iff.mpr (.inl ((parsePoints_eq_error_iff hchunks).mpr ?_))
      exact ⟨front, chunk, back, rfl, hfront, hchunk, rfl⟩

end Polygon

/-- A polygon is drawn exactly if all chunks of its attribute are points and there is one, and then
its outline goes through them in order and is not closed.  Else it draws nothing, and the error
tells if the attribute is absent, if it is blank, or which chunk is the first that is no point. -/
theorem polygon_outlines_or_refuses (a : Attributes) :
    (∀ segments, polygon a = .ok segments ↔ Outlines a segments) ∧
      ∀ e, polygon a = .error e ↔ RefusesOutline a e :=
  ⟨fun _ => polygon_eq_ok_iff, fun _ => polygon_eq_error_iff⟩

/-- A number that is too large is as wrong as no number, and the chunks after it do not matter. -/
example : polygon [("points", "-0,.5\u20031e999,0 2,3,4")] =
    .error (.requiredAttribute "points" (some "1e999,0")) := by decide +kernel

end SvgDrawing.Shape
