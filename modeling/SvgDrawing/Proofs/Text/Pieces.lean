import Mathlib.Data.List.TakeWhile
import SvgDrawing.Text.Pieces

/-!
# What the pieces of a text are

The runs of a class of characters are found by passing over the characters in front of a run and
then taking all that follow without a gap.  Said in this way a fact about a text can be proved along
its runs, while the cut itself works from the last character to the first.

Cutting at separators loses nothing but the separators, so the pieces can be put together again.

## Main definitions

* `RunsIn p s pieces` — a text and its runs of characters of the class `p`.
* `SplitsAt sep s pieces` — a text and its pieces between separators.

## Main statements

* `runsIn_runs`, `runsIn_iff` — cutting a text into its runs.
* `firstPiece_append`, `splitOn_append_cons`, `splitsAt_iff` — cutting a text at separators.
* `cutAt_append`, `cutAt_of_not_mem` — cutting a text at its first separator.
-/
namespace SvgDrawing.Text

/-! ## Runs -/

/-- A text and its runs of characters of the class `p`: other characters are passed over, and a run
goes on until one of them follows. -/
inductive RunsIn (p : Char → Bool) : List Char → List (List Char) → Prop
  | nil : RunsIn p [] []
  | skip {c : Char} {s : List Char} {pieces : List (List Char)} (hc : p c = false)
      (h : RunsIn p s pieces) : RunsIn p (c :: s) pieces
  | run {run rest : List Char} {pieces : List (List Char)} (hne : run ≠ []) (hrun : ∀ c ∈ run, p c)
      (hrest : ∀ c ∈ rest.head?, p c = false) (h : RunsIn p rest pieces) :
      RunsIn p (run ++ rest) (run :: pieces)

variable {p : Char → Bool}

/-- A run that may be empty is one of the runs unless it is. -/
theorem RunsIn.consPiece {run rest : List Char} {pieces : List (List Char)}
    (hrun : ∀ c ∈ run, p c) (hrest : ∀ c ∈ rest.head?, p c = false) (h : RunsIn p rest pieces) :
    RunsIn p (run ++ rest) (consPiece run pieces) := by
  cases run with
  | nil => exact h
  | cons c run => exact .run (List.cons_ne_nil c run) hrun hrest h

/-- The run that a text starts with ends where another character follows, and the later runs are
those of the rest. -/
theorem exists_rest_of_firstRun (p : Char → Bool) (s : List Char) :
    ∃ rest, s = (firstRun p s).1 ++ rest ∧ (∀ c ∈ (firstRun p s).1, p c) ∧
      (∀ c ∈ rest.head?, p c = false) ∧ RunsIn p rest (firstRun p s).2 := by
  induction s with
  | nil => exact ⟨[], rfl, nofun, nofun, .nil⟩
  | cons c s ih =>
    obtain ⟨rest, hs, hrun, hrest, h⟩ := ih
    simp only [firstRun]
    by_cases hc : p c
    · rw [if_pos hc]
      exact ⟨rest, congrArg (c :: ·) hs, List.forall_mem_cons.mpr ⟨hc, hrun⟩, hrest, h⟩
    · rw [if_neg hc]
      have hc : p c = false := by simpa using hc
      refine ⟨c :: s, rfl, nofun, ?_, ?_⟩
      · rintro _ ⟨⟩
        exact hc
      · have hpieces := RunsIn.consPiece hrun hrest h
        rw [← hs] at hpieces
        exact .skip hc hpieces

/-- A text is cut into its runs. -/
theorem runsIn_runs (p : Char → Bool) (s : List Char) : RunsIn p s (runs p s) := by
  obtain ⟨rest, hs, hrun, hrest, h⟩ := exists_rest_of_firstRun p s
  have hpieces := RunsIn.consPiece hrun hrest h
  rwa [← hs] at hpieces

theorem firstRun_append_of_forall {run : List Char} (h : ∀ c ∈ run, p c) (rest : List Char) :
    firstRun p (run ++ rest) = (run ++ (firstRun p rest).1, (firstRun p rest).2) := by
  induction run with
  | nil => rfl
  | cons c run ih =>
    rw [List.forall_mem_cons] at h
    simp [firstRun, h.1, ih h.2]

theorem firstRun_of_head? {s : List Char} (h : ∀ c ∈ s.head?, p c = false) :
    firstRun p s = ([], runs p s) := by
  cases s with
  | nil => rfl
  | cons c rest => simp [firstRun, runs, Text.consPiece, h c rfl]

/-- There is one way to cut a text into its runs. -/
theorem runsIn_iff {s : List Char} {pieces : List (List Char)} :
    RunsIn p s pieces ↔ runs p s = pieces := by
  constructor
  · intro h
    induction h with
    | nil => rfl
    | skip hc _ ih =>
      rw [← ih]
      simp [runs, firstRun, hc, Text.consPiece]
    | run hne hrun hrest _ ih =>
      rw [runs, firstRun_append_of_forall hrun, firstRun_of_head? hrest, ih]
      simp [Text.consPiece, hne]
  · rintro rfl
    exact runsIn_runs p s

/-- There is no run where no character is in the class. -/
theorem runsIn_nil_iff {s : List Char} : RunsIn p s [] ↔ ∀ c ∈ s, p c = false := by
  constructor
  · intro h
    generalize hpieces : ([] : List (List Char)) = pieces at h
    induction h with
    | nil => exact List.forall_mem_nil _
    | skip hc _ ih => exact List.forall_mem_cons.mpr ⟨hc, ih hpieces⟩
    | run => cases hpieces
  · intro h
    induction s with
    | nil => exact .nil
    | cons c rest ih =>
      rw [List.forall_mem_cons] at h
      exact .skip h.1 (ih h.2)

/-- The characters of a run are in its class. -/
theorem forall_mem_runs {s run : List Char} (h : run ∈ runs p s) : ∀ c ∈ run, p c := by
  have hruns := runsIn_runs p s
  generalize runs p s = pieces at h hruns
  induction hruns with
  | nil => cases h
  | skip _ _ ih => exact ih h
  | run _ hrun _ _ ih =>
    rcases List.mem_cons.mp h with rfl | h
    · exact hrun
    · exact ih h

/-! ## Pieces between separators -/

/-- The first piece and the later ones with a separator in front of each make up the text. -/
theorem firstPiece_append (sep : Char) (s : List Char) :
    (firstPiece sep s).1 ++ (firstPiece sep s).2.flatMap (sep :: ·) = s := by
  induction s with
  | nil => rfl
  | cons c rest ih =>
    simp only [firstPiece]
    by_cases hc : c = sep
    · rw [if_pos hc, List.flatMap_cons, List.nil_append, List.cons_append, ih, hc]
    · rw [if_neg hc, List.cons_append, ih]

/-- What is not in a text is in none of its pieces. -/
theorem not_mem_firstPiece {c : Char} (sep : Char) {s : List Char} (h : c ∉ s) :
    c ∉ (firstPiece sep s).1 ∧ ∀ line ∈ (firstPiece sep s).2, c ∉ line := by
  rw [← firstPiece_append sep s, List.mem_append, not_or, List.mem_flatMap] at h
  exact ⟨h.1, fun line hline hc => h.2 ⟨line, hline, List.mem_cons_of_mem _ hc⟩⟩

/-- There is no separator in the first piece. -/
theorem not_mem_firstPiece_sep (sep : Char) (s : List Char) : sep ∉ (firstPiece sep s).1 := by
  induction s with
  | nil => exact List.not_mem_nil
  | cons c rest ih =>
    simp only [firstPiece]
    by_cases hc : c = sep
    · rw [if_pos hc]
      exact List.not_mem_nil
    · rw [if_neg hc]
      exact List.not_mem_cons_of_ne_of_not_mem (Ne.symm hc) ih

theorem firstPiece_append_of_not_mem {sep : Char} {piece : List Char} (h : sep ∉ piece)
    (rest : List Char) :
    firstPiece sep (piece ++ rest) =
      (piece ++ (firstPiece sep rest).1, (firstPiece sep rest).2) := by
  induction piece with
  | nil => rfl
  | cons c piece ih =>
    rw [List.mem_cons, not_or] at h
    simp [firstPiece, Ne.symm h.1, ih h.2]

/-- Pieces without separators are found again. -/
theorem splitOn_append_cons {sep : Char} {piece : List Char} (h : sep ∉ piece) (rest : List Char) :
    splitOn sep (piece ++ sep :: rest) = piece :: splitOn sep rest := by
  rw [splitOn, firstPiece_append_of_not_mem h]
  simp [firstPiece, splitOn]

theorem splitOn_of_not_mem {sep : Char} {s : List Char} (h : sep ∉ s) : splitOn sep s = [s] := by
  have hfirst := firstPiece_append_of_not_mem h []
  rw [List.append_nil] at hfirst
  simp [splitOn, hfirst, firstPiece]

/-- A text and its pieces between separators: there is a separator behind each but the last. -/
inductive SplitsAt (sep : Char) : List Char → List (List Char) → Prop
  | last {s : List Char} (hs : sep ∉ s) : SplitsAt sep s [s]
  | cut {piece rest : List Char} {pieces : List (List Char)} (hpiece : sep ∉ piece)
      (h : SplitsAt sep rest pieces) : SplitsAt sep (piece ++ sep :: rest) (piece :: pieces)

theorem splitsAt_splitOn (sep : Char) (s : List Char) : SplitsAt sep s (splitOn sep s) := by
  induction s with
  | nil => exact .last List.not_mem_nil
  | cons c rest ih =>
    simp only [splitOn, firstPiece] at ih ⊢
    by_cases hc : c = sep
    · rw [if_pos hc, hc]
      exact .cut List.not_mem_nil ih
    · rw [if_neg hc]
      generalize (firstPiece sep rest).1 = piece at ih ⊢
      generalize (firstPiece sep rest).2 = later at ih ⊢
      cases ih with
      | last hs => exact .last (List.not_mem_cons_of_ne_of_not_mem (Ne.symm hc) hs)
      | cut hpiece h => exact .cut (List.not_mem_cons_of_ne_of_not_mem (Ne.symm hc) hpiece) h

/-- There is one way to cut a text at its separators. -/
theorem splitsAt_iff {sep : Char} {s : List Char} {pieces : List (List Char)} :
    SplitsAt sep s pieces ↔ splitOn sep s = pieces := by
  constructor
  · intro h
    induction h with
    | last hs => exact splitOn_of_not_mem hs
    | cut hpiece _ ih => rw [splitOn_append_cons hpiece, ih]
  · rintro rfl
    exact splitsAt_splitOn sep s

/-- No piece is longer than the text. -/
theorem SplitsAt.length_le {sep : Char} {s : List Char} {pieces : List (List Char)}
    (h : SplitsAt sep s pieces) : ∀ piece ∈ pieces, piece.length ≤ s.length := by
  induction h with
  | last _ => exact List.forall_mem_singleton.mpr le_rfl
  | cut _ _ ih =>
    refine List.forall_mem_cons.mpr ⟨?_, fun piece hpiece => ?_⟩
    · rw [List.length_append]
      omega
    · have hle := ih piece hpiece
      rw [List.length_append, List.length_cons]
      omega

/-- A text that is cut in two has one separator, between the pieces. -/
theorem eq_of_splitOn_eq_pair {sep : Char} {s x y : List Char} (h : splitOn sep s = [x, y]) :
    s = x ++ sep :: y := by
  have happend := firstPiece_append sep s
  rw [splitOn, List.cons.injEq] at h
  rw [h.1, h.2] at happend
  rw [← happend, List.flatMap_singleton]

/-! ## The first separator -/

theorem cutAt_append {sep : Char} {front : List Char} (h : sep ∉ front) (back : List Char) :
    cutAt sep (front ++ sep :: back) = (front, back) := by
  have hfront : ∀ c ∈ front, (c != sep) = true := by
    intro c hc
    simpa using ne_of_mem_of_not_mem hc h
  simp [cutAt, List.takeWhile_append_of_pos hfront, List.dropWhile_append_of_pos hfront]

theorem cutAt_of_not_mem {sep : Char} {s : List Char} (h : sep ∉ s) : cutAt sep s = (s, []) := by
  have hs : ∀ c ∈ s, (c != sep) = true := by
    intro c hc
    simpa using ne_of_mem_of_not_mem hc h
  rw [cutAt, List.takeWhile_eq_self_iff.mpr hs, List.dropWhile_eq_nil_iff.mpr hs, List.drop_nil]

end SvgDrawing.Text
