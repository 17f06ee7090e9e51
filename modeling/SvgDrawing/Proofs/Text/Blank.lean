import Mathlib.Data.List.DropRight
import SvgDrawing.Text.Pieces

/-!
# Texts without the characters at their ends

Trimming a text of the characters of a class leaves what stands between the first and the last
character outside the class.  So a text is trimmed to another one exactly if it is that one with
characters of the class on both sides, and the other one neither begins nor ends with such a
character (`trim_eq_iff`); blanks inside are kept.
-/
namespace SvgDrawing.Text

variable {p : Char → Bool} {s t : List Char}

theorem dropWhile_eq_self (h : ∀ c ∈ s.head?, ¬ p c) : s.dropWhile p = s := by
  cases s with
  | nil => rfl
  | cons c rest => exact List.dropWhile_cons_of_neg (h c rfl)

theorem not_of_mem_head?_dropWhile : ∀ c ∈ (s.dropWhile p).head?, ¬ p c := by
  intro c hc
  have hfirst := List.head?_dropWhile_not p s
  rw [hc] at hfirst
  simpa using hfirst

/-- Trimming leaves the only part of a text that neither begins nor ends with a character of the
class and has nothing but such characters around it. -/
theorem trim_eq_iff :
    trim p s = t ↔ (∀ c ∈ t.head?, ¬ p c) ∧ (∀ c ∈ t.getLast?, ¬ p c) ∧
      ∃ front back, (∀ c ∈ front, p c) ∧ (∀ c ∈ back, p c) ∧ s = front ++ t ++ back := by
  constructor
  · rintro rfl
    have hback : trim p s ++ (s.dropWhile p).rtakeWhile p = s.dropWhile p :=
      List.rdropWhile_append_rtakeWhile
    refine ⟨?_, ?_, s.takeWhile p, (s.dropWhile p).rtakeWhile p, ?_, ?_, ?_⟩
    · intro c hc
      have hfirst : c ∈ (s.dropWhile p).head? := by
        rw [← hback]
        exact List.mem_head?_append_of_mem_head? hc
      exact not_of_mem_head?_dropWhile c hfirst
    · rw [trim, List.getLast?_reverse]
      exact not_of_mem_head?_dropWhile
    · exact fun c hc => List.mem_takeWhile_imp hc
    · exact fun c hc => List.mem_rtakeWhile_imp hc
    · rw [List.append_assoc, hback, List.takeWhile_append_dropWhile]
  · rintro ⟨hhead, hlast, front, back, hfront, hback, rfl⟩
    rw [trim, List.append_assoc, List.dropWhile_append_of_pos hfront]
    by_cases ht : t = []
    · subst ht
      rw [List.nil_append, List.dropWhile_eq_nil_iff.mpr hback]
      rfl
    · have hstart : (t ++ back).dropWhile p = t ++ back := by
        refine dropWhile_eq_self fun c hc => hhead c ?_
        rwa [List.head?_append_of_ne_nil _ ht] at hc
      have hend : (back.reverse ++ t.reverse).dropWhile p = t.reverse := by
        rw [List.dropWhile_append_of_pos fun c hc => hback c (List.mem_reverse.mp hc)]
        refine dropWhile_eq_self fun c hc => hlast c ?_
        rwa [List.head?_reverse] at hc
      rw [hstart, List.reverse_append, hend, List.reverse_reverse]

/-- Nothing is left of a text when all of it is trimmed. -/
theorem trim_eq_nil_iff : trim p s = [] ↔ ∀ c ∈ s, p c := by
  rw [trim_eq_iff]
  constructor
  · rintro ⟨-, -, front, back, hfront, hback, rfl⟩
    rw [List.append_nil]
    exact List.forall_mem_append.mpr ⟨hfront, hback⟩
  · intro h
    exact ⟨nofun, nofun, s, [], h, nofun, by simp⟩

/-- A text is made up of what is left of it and the blanks on both sides. -/
theorem exists_append_strip (s : List Char) : ∃ front back, (∀ c ∈ front, isBlank c) ∧
    (∀ c ∈ back, isBlank c) ∧ s = front ++ strip s ++ back :=
  (trim_eq_iff.mp rfl).2.2

/-- A text without blanks is what is left of it with blanks on both sides. -/
theorem strip_append_append {front back : List Char} (h : ∀ c ∈ t, ¬ isBlank c)
    (hfront : ∀ c ∈ front, isBlank c) (hback : ∀ c ∈ back, isBlank c) :
    strip (front ++ t ++ back) = t :=
  trim_eq_iff.mpr ⟨fun c hc => h c (List.mem_of_mem_head? hc),
    fun c hc => h c (List.mem_of_mem_getLast? hc), front, back, hfront, hback, rfl⟩

theorem strip_of_forall (h : ∀ c ∈ s, ¬ isBlank c) : strip s = s := by
  have hstrip := strip_append_append h (List.forall_mem_nil _) (List.forall_mem_nil _)
  rwa [List.nil_append, List.append_nil] at hstrip

/-- There is nothing to strip from what is left of a text. -/
theorem strip_strip (s : List Char) : strip (strip s) = strip s := by
  obtain ⟨hhead, hlast, -⟩ := trim_eq_iff.mp (rfl : trim isBlank s = strip s)
  exact trim_eq_iff.mpr ⟨hhead, hlast, [], [], nofun, nofun, by simp⟩

theorem strip_cons_of_isBlank {c : Char} (h : isBlank c) (s : List Char) :
    strip (c :: s) = strip s := by
  rw [strip, trim, List.dropWhile_cons_of_pos h]
  rfl

theorem length_strip_le (s : List Char) : (strip s).length ≤ s.length := by
  obtain ⟨front, back, -, -, hs⟩ := exists_append_strip s
  have hlength := congrArg List.length hs
  simp only [List.length_append] at hlength
  omega

end SvgDrawing.Text
