import SvgDrawing.Proofs.Double.Mirror
import SvgDrawing.Proofs.Element.Finite
import SvgDrawing.Proofs.Element.Points
import SvgDrawing.Proofs.PathData.Absolute
import SvgDrawing.Proofs.PathData.Ignored
import SvgDrawing.Proofs.PathData.Repetition

/-!
# Polygons as paths

The points of a polygon are cut at blanks and each point at its comma, and each coordinate has to be
one number.  The arguments of a path command are read from left to right, as far as each number
goes.  A text that is accepted in the first way is read in the second way to its end, and gives the
coordinates of the same points (`readsPoints_of_parsePoints`): a comma or a blank ends every number.

So a polygon draws what a path draws that moves to the first of these points and on to the others.
The path adds the origin to each point, which changes the signs of zeros only.
-/
namespace SvgDrawing

open PathData Text

/-! ## Segments that are the same -/

theorem Point.Same.equals {p q : Point} (h : p.Same q) (hq : q.isFinite) : p.equals q := by
  obtain ⟨hx, hy⟩ := (Point.isFinite_iff q).mp hq
  rw [Point.equals, h.x.equals hx, h.y.equals hy, Bool.and_self]

theorem Segment.Same.equals {s t : Segment} (h : s.Same t) (ht : t.isFinite) : s.equals t := by
  cases h with
  | moveTo h => exact h.equals ((isFinite_moveTo _).mp ht)
  | lineTo h => exact h.equals ((isFinite_lineTo _).mp ht)
  | cubicTo h₁ h₂ h =>
    obtain ⟨ht₁, ht₂, ht⟩ := (isFinite_cubicTo _ _ _).mp ht
    rw [Segment.equals, h₁.equals ht₁, h₂.equals ht₂, h.equals ht, Bool.and_self, Bool.and_self]
  | closePath => rfl

/-- Segments that are the same as finite ones have numerically equal points. -/
theorem Segment.forall₂_equals {drawn segments : List Segment}
    (h : List.Forall₂ Segment.Same drawn segments) (hfinite : ∀ s ∈ segments, s.isFinite) :
    List.Forall₂ (fun s t => s.equals t) drawn segments := by
  induction h with
  | nil => exact .nil
  | cons hs _ ih =>
    rw [List.forall_mem_cons] at hfinite
    exact .cons (hs.equals hfinite.1) (ih hfinite.2)

/-! ## Reading points as numbers -/

/-- A text that is read to its end as literals with finite values, the coordinates of points. -/
def ReadsPoints (s : List Char) (ps : List Point) : Prop :=
  ∃ literals, Literal.readAll s = (literals, []) ∧ (∀ l ∈ literals, l.value.isFinite) ∧
    literals.map Literal.value = ps.flatMap Point.values

namespace ReadsPoints

variable {s rest : List Char} {ps : List Point}

theorem nil : ReadsPoints [] [] := ⟨[], Literal.readAll_of_none rfl, nofun, rfl⟩

/-- A separator in front does not matter. -/
theorem skip {c : Char} (hc : Literal.isSeparator c) (h : ReadsPoints s ps) :
    ReadsPoints (c :: s) ps := by
  obtain ⟨literals, hread, hfinite, hvalues⟩ := h
  have hskip := Literal.readAll_separators_append (List.forall_mem_singleton.mpr hc) s
  exact ⟨literals, hskip.trans hread, hfinite, hvalues⟩

/-- Two numbers with a comma between them are a point where a separator follows. -/
theorem point {x y : List Char} {p : Point} (hx : Denotes x p.x) (hy : Denotes y p.y)
    (hrest : ∀ c ∈ rest.head?, Literal.isSeparator c) (h : ReadsPoints rest ps) :
    ReadsPoints (x ++ ',' :: y ++ rest) (p :: ps) := by
  obtain ⟨literals, hread, hfinite, hvalues⟩ := h
  obtain ⟨lx, hlx, rfl, hxfinite, hxvalue⟩ := hx
  obtain ⟨ly, hly, rfl, hyfinite, hyvalue⟩ := hy
  have hcomma : Literal.isSeparator ',' := rfl
  have hskip : Literal.readAll (',' :: (ly.text ++ rest)) = Literal.readAll (ly.text ++ rest) :=
    Literal.readAll_separators_append (List.forall_mem_singleton.mpr hcomma) (ly.text ++ rest)
  have hxcloses : lx.Closes (',' :: (ly.text ++ rest)) :=
    Literal.closes_of_startsWith_isSeparator hcomma
  have hycloses : ly.Closes rest := by
    cases rest with
    | nil => exact ly.closes_nil
    | cons c rest => exact Literal.closes_of_startsWith_isSeparator (hrest c rfl)
  refine ⟨lx :: ly :: literals, ?_, ?_, ?_⟩
  · rw [List.append_assoc, List.cons_append, Literal.readAll_text_append hlx hxcloses, hskip,
      Literal.readAll_text_append hly hycloses, hread]
  · exact List.forall_mem_cons.mpr ⟨hxfinite, List.forall_mem_cons.mpr ⟨hyfinite, hfinite⟩⟩
  · rw [List.map_cons, List.map_cons, hvalues, ← hxvalue, ← hyvalue]
    rfl

/-- All characters belong to numbers or separate them. -/
theorem isSeparator_or_isNumeric (h : ReadsPoints s ps) :
    ∀ c ∈ s, Literal.isSeparator c ∨ IsNumeric c := by
  obtain ⟨literals, hread, -, -⟩ := h
  exact Literal.isSeparator_or_isNumeric (congrArg Prod.snd hread)

/-- At least one point is enough for a command that takes points. -/
theorem supplies (h : ReadsPoints s ps) (hne : ps ≠ []) :
    Supplies 2 s ∧ scanned s = ps.flatMap Point.values := by
  obtain ⟨literals, hread, hfinite, hvalues⟩ := h
  have hlength : literals.length = 2 * ps.length := by
    rw [← length_flatMap_values, ← hvalues, List.length_map]
  have hpos := List.length_pos_iff.mpr hne
  have hnonempty : literals ≠ [] := List.length_pos_iff.mp (by omega)
  refine ⟨⟨?_, ?_, ?_⟩, ?_⟩
  · rw [hread]
    exact Literal.tooLarge?_eq_none_iff.mpr hfinite
  · rw [hread]
    exact hnonempty
  · rw [hread]
    exact ⟨ps.length, hlength⟩
  · rw [scanned, hread]
    exact hvalues

end ReadsPoints

namespace Shape

/-- What is read as points between blanks is also read as numbers. -/
theorem readsPoints_of_chunks {s : List Char} {chunks : List (List Char)} {ps : List Point}
    (hchunks : Chunks s chunks) (h : List.Forall₂ IsPoint chunks ps) : ReadsPoints s ps := by
  have hseparator : ∀ {c : Char}, (!isBlank c) = false → Literal.isSeparator c := fun hc =>
    Literal.isSeparator_of_isBlank (by simpa using hc)
  induction hchunks generalizing ps with
  | nil =>
    cases h
    exact .nil
  | skip hc _ ih => exact (ih h).skip (hseparator hc)
  | run _ _ hrest _ ih =>
    cases h with
    | cons hp hps =>
      obtain ⟨x, y, rfl, hx, hy⟩ := hp
      exact (ih hps).point hx hy fun c hc => hseparator (hrest c hc)

theorem readsPoints_of_parsePoints {text : String} {ps : List Point}
    (h : parsePoints text = .ok ps) : ReadsPoints text.toList ps :=
  readsPoints_of_chunks (runsIn_runs _ _) ((parsePoints_eq_ok_iff (runsIn_runs _ _)).mp h)

end Shape

/-! ## Paths with one command -/

namespace PathData

/-- Command letters are no part of numbers and do not separate them. -/
theorem not_isCommandLetter {c : Char} (h : Literal.isSeparator c ∨ IsNumeric c) :
    ¬ isCommandLetter c := by
  have hall : "MmLlCcVvHhSsQqTtAaZz".toList.all fun c =>
      decide (¬ (Literal.isSeparator c ∨ isDigit c ∨ (c = '+' ∨ c = '-') ∨ (c = 'e' ∨ c = 'E') ∨
        c = '.')) := by decide
  exact fun hc =>
    of_decide_eq_true (List.all_eq_true.mp hall c (by simpa [isCommandLetter] using hc)) h

/-- A letter with arguments in which there is no other one is one command. -/
theorem run_letter {letter : Char} {text : String} (hletter : isCommandLetter letter)
    (htext : ∀ c ∈ text.toList, ¬ isCommandLetter c) (pen : Pen) :
    run pen (String.ofList [letter] ++ text) =
      execute pen (String.ofList [letter]) text.toList := by
  have htokens : tokenize (String.ofList [letter] ++ text).toList = [⟨letter, text.toList⟩] := by
    have hproper : Token.IsProper ⟨letter, text.toList⟩ := ⟨hletter, htext⟩
    have hcut := Token.cut_flatMap_text (List.forall_mem_singleton.mpr hproper)
    rw [List.flatMap_singleton, Token.text] at hcut
    rw [String.toList_append, String.toList_ofList, tokenize]
    exact congrArg Prod.snd hcut
  rw [run, htokens, runTokens, runTokens, Trace.andThen_empty]

namespace Command

/-- Lines to points that count from the origin. -/
theorem lines_same (pen : Pen) (ps : List Point) :
    List.Forall₂ Segment.Same (pen.drawEach (line false) ps) (ps.map .lineTo) := by
  induction ps generalizing pen with
  | nil => exact .nil
  | cons p rest ih => exact .cons (.lineTo (Point.origin_add_same p)) (ih _)

/-- A move with the coordinates of several points. -/
theorem draw_move_same (pen : Pen) (p : Point) (rest : List Point) :
    List.Forall₂ Segment.Same (draw ⟨.moveTo, false⟩ pen ((p :: rest).flatMap Point.values))
      (.moveTo p :: rest.map .lineTo) := by
  rw [draw, points_values]
  exact .cons (.moveTo (Point.origin_add_same p)) (lines_same _ rest)

end Command

end PathData

/-! ## Polygons -/

namespace Shape

/-- Wherever the points of a polygon are accepted, the letter `M` in front of their text makes path
data that are carried out without an error and without a note, and the segments drawn are those of
the polygon, one for one, with numerically equal points. -/
theorem polygon_equals_path {a : Attributes} {text : String} {segments : List Segment}
    (htext : a.get? "points" = some text) (h : polygon a = .ok segments) :
    ∃ drawn, interpret ("M" ++ text) = .ok drawn ∧
      (run .fresh ("M" ++ text)).diagnostics = [] ∧
      List.Forall₂ (fun s t => s.equals t) drawn segments := by
  have hfinite := isFinite_of_polygon h
  rw [polygon, htext] at h
  obtain ⟨ps, hps, h⟩ := exists_of_bind_eq_ok h
  cases ps with
  | nil => cases h
  | cons p rest =>
    cases h
    have hreads := readsPoints_of_parsePoints hps
    have hletters : ∀ c ∈ text.toList, ¬ isCommandLetter c := fun c hc =>
      not_isCommandLetter (hreads.isSeparator_or_isNumeric c hc)
    have hrun : run .fresh ("M" ++ text) = .ofSegments
        (Command.draw ⟨.moveTo, false⟩ .fresh ((p :: rest).flatMap Point.values)) := by
      have hmove : Command.ofText? "M" = some ⟨.moveTo, false⟩ := by decide
      obtain ⟨hsupplies, hscanned⟩ := hreads.supplies (List.cons_ne_nil p rest)
      rw [← hscanned, ← execute_of_supplies hmove (by decide) hsupplies .fresh]
      exact run_letter rfl hletters .fresh
    refine ⟨_, ?_, ?_, Segment.forall₂_equals (Command.draw_move_same .fresh p rest) hfinite⟩
    · rw [interpret, hrun]
      exact congrArg Except.ok (Trace.segments_ofSegments _)
    · rw [hrun, Trace.diagnostics_ofSegments]

/-- Points with a negative zero, with a digit of another script and with a wide blank between
them. -/
theorem polygon_equals_path_of_two_points :
    ∃ segments, polygon [("points", " 1,-0\u2003.5e1,+\u0662\n")] = .ok segments ∧
      segments.length = 2 ∧
      ∃ drawn, interpret "M 1,-0\u2003.5e1,+\u0662\n" = .ok drawn ∧
        (run .fresh "M 1,-0\u2003.5e1,+\u0662\n").diagnostics = [] ∧
        List.Forall₂ (fun s t => s.equals t) drawn segments := by
  have htext : Attributes.get? [("points", " 1,-0\u2003.5e1,+\u0662\n")] "points" =
      some " 1,-0\u2003.5e1,+\u0662\n" := rfl
  have hok : polygon [("points", " 1,-0\u2003.5e1,+\u0662\n")] =
      .ok [.moveTo ⟨.ofNat 1, .zero true⟩, .lineTo ⟨.ofNat 5, .ofNat 2⟩] := by decide +kernel
  have hdata : "M" ++ " 1,-0\u2003.5e1,+\u0662\n" = "M 1,-0\u2003.5e1,+\u0662\n" := by decide
  rw [← hdata]
  exact ⟨_, hok, rfl, polygon_equals_path htext hok⟩

end Shape

end SvgDrawing
