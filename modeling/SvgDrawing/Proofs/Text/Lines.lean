import SvgDrawing.Text.Pieces

/-!
# Lines of a text

Which characters end a line depends on who reads the text.  All readers agree on the line feed, so a
text that is put together from lines has at least these as its own, and more where a part that was
meant as one line is not.  `linesOf` leaves the class of these characters open.
-/
namespace SvgDrawing.Text

/-- The lines of a text.  They end at the characters of the class `ends`. -/
def linesOf (ends : Char → Bool) (s : String) : List (List Char) := s.toList.splitOnP ends

variable {ends : Char → Bool}

/-- Parts on lines of their own, as one text. -/
theorem toList_lines_cons (part : String) (rest : List String) :
    (lines (part :: rest)).toList =
      part.toList ++ rest.flatMap fun line => '\n' :: line.toList := by
  induction rest generalizing part with
  | nil => simp [lines, joined]
  | cons next rest ih =>
    have hrest := ih next
    rw [lines] at hrest ⊢
    simp [joined, hrest]

/-- Parts that stand on different lines are read one after the other. -/
theorem linesOf_lines (hfeed : ends '\n') {parts : List String} (hparts : parts ≠ []) :
    linesOf ends (lines parts) = parts.flatMap (linesOf ends) := by
  induction parts with
  | nil => exact absurd rfl hparts
  | cons part rest ih =>
    cases rest with
    | nil => simp [lines, joined]
    | cons next rest =>
      have hrest : linesOf ends (joined "\n" (next :: rest)) =
          (next :: rest).flatMap (linesOf ends) :=
        ih (List.cons_ne_nil _ _)
      have htext : (lines (part :: next :: rest)).toList =
          part.toList ++ '\n' :: (joined "\n" (next :: rest)).toList := by
        simp [lines, joined]
      rw [linesOf, htext, List.splitOnP_append_cons _ _ hfeed, List.flatMap_cons, ← hrest]
      rfl

theorem splitOnP_append {front : List Char} (h : ∀ c ∈ front, ends c = false) (back : List Char) :
    (front ++ back).splitOnP ends = (back.splitOnP ends).modifyHead (front ++ ·) := by
  induction front with
  | nil =>
    rw [List.nil_append]
    cases back.splitOnP ends <;> rfl
  | cons c rest ih =>
    rw [List.forall_mem_cons] at h
    rw [List.cons_append, List.splitOnP_cons_eq_if_modifyHead, h.1, ih h.2]
    simp [Function.comp_def]

/-- A beginning that ends no line stands in front of the first line. -/
theorem linesOf_append {front : String} (h : ∀ c ∈ front.toList, ends c = false) (back : String) :
    linesOf ends (front ++ back) = (linesOf ends back).modifyHead (front.toList ++ ·) := by
  rw [linesOf, String.toList_append]
  exact splitOnP_append h back.toList

theorem linesOf_eq_singleton {s : String} (h : ∀ c ∈ s.toList, ends c = false) :
    linesOf ends s = [s.toList] :=
  List.splitOnP_eq_singleton h

/-- Parts of one line each that others follow. -/
theorem linesOf_lines_append (hfeed : ends '\n') {front : List String} (hne : front ≠ [])
    (hfront : ∀ s ∈ front, ∀ c ∈ s.toList, ends c = false) (rest : List String) :
    linesOf ends (lines (front ++ rest)) =
      front.map String.toList ++ rest.flatMap (linesOf ends) := by
  have hparts : front.flatMap (linesOf ends) = front.map String.toList := by
    rw [List.map_eq_flatMap, List.flatMap_def, List.flatMap_def,
      List.map_congr_left fun s hs => linesOf_eq_singleton (hfront s hs)]
  rw [linesOf_lines hfeed (List.append_ne_nil_of_left_ne_nil hne _), List.flatMap_append, hparts]

/-- There is one line more than there are characters that end one. -/
theorem length_linesOf (s : String) : (linesOf ends s).length = s.toList.countP ends + 1 := by
  rw [linesOf]
  induction s.toList with
  | nil => rfl
  | cons c rest ih =>
    rw [List.splitOnP_cons_eq_if_modifyHead, List.countP_cons]
    split <;> simp [ih]

end SvgDrawing.Text
