import SvgDrawing.Proofs.Text.Pieces
import SvgDrawing.Proofs.Text.UpperCase
import SvgDrawing.Swift.Source

/-!
# What identifiers are made of

Only runs of letters and digits of a name go into its identifier, so that it stays one word wherever
it is written.  The word begins with a capital: each run gets one, and where the first run has a
digit in its place, or there is no run at all, another word is put in front.  So an identifier is a
single run that has its capital already, and it is its own identifier.
-/
namespace SvgDrawing

namespace Swift

theorem toNat_lt_of_isAlphanum {c : Char} (h : c.isAlphanum) : c.toNat < 128 := by
  -- the ranges of capitals, small letters and digits
  change ((decide ('A'.val ≤ c.val ∧ c.val ≤ 'Z'.val) ||
      decide ('a'.val ≤ c.val) && decide (c.val ≤ 'z'.val)) ||
    decide ('0'.val ≤ c.val) && decide (c.val ≤ '9'.val)) = true at h
  simp only [Bool.or_eq_true, Bool.and_eq_true, decide_eq_true_eq, UInt32.le_iff_toNat_le] at h
  change ((65 ≤ c.toNat ∧ c.toNat ≤ 90) ∨ 97 ≤ c.toNat ∧ c.toNat ≤ 122) ∨
    48 ≤ c.toNat ∧ c.toNat ≤ 57 at h
  omega

/-- Capitals of letters are letters, and a digit is its own capital. -/
theorem isAlphanum_toUpper {c : Char} (h : c.isAlphanum) : c.toUpper.isAlphanum :=
  Text.forall_ascii (P := fun c => c.isAlphanum → c.toUpper.isAlphanum) (by decide +kernel)
    (toNat_lt_of_isAlphanum h) h

theorem isUpper_toUpper {c : Char} (h : c.isAlphanum) (hdigit : ¬ c.toUpper.isDigit) :
    c.toUpper.isUpper :=
  Text.forall_ascii (P := fun c => c.isAlphanum → ¬ c.toUpper.isDigit → c.toUpper.isUpper)
    (by decide +kernel) (toNat_lt_of_isAlphanum h) h hdigit

/-- A capital is no digit, and its own capital. -/
theorem toUpper_of_isUpper {c : Char} (h : c.isUpper) : c.toUpper = c ∧ ¬ c.isDigit := by
  have halphanum : c.isAlphanum := by
    change (c.isUpper || c.isLower || c.isDigit) = true
    rw [h, Bool.true_or, Bool.true_or]
  exact Text.forall_ascii (P := fun c => c.isUpper → c.toUpper = c ∧ ¬ c.isDigit)
    (by decide +kernel) (toNat_lt_of_isAlphanum halphanum) h

theorem isAlphanum_of_mem_icon : ∀ c ∈ "Icon".toList, c.isAlphanum :=
  List.all_eq_true.mp (by decide +kernel)

/-- Identifiers have ASCII letters and digits only. -/
theorem isAlphanum_of_mem_identifier {name : String} {c : Char}
    (h : c ∈ (identifier name).toList) : c.isAlphanum := by
  have hcamel : ∀ c ∈ camelCase name.toList, c.isAlphanum := by
    intro c hc
    obtain ⟨word, hword, hc⟩ := List.mem_flatMap.mp hc
    have hall : ∀ c ∈ word, c.isAlphanum := Text.forall_mem_runs hword
    cases word with
    | nil => cases hc
    | cons first rest =>
      rw [List.forall_mem_cons] at hall
      rcases List.mem_cons.mp hc with rfl | hc
      · exact isAlphanum_toUpper hall.1
      · exact hall.2 c hc
  rw [identifier] at h
  split at h
  · exact isAlphanum_of_mem_icon c h
  · next first rest hfirst =>
    rw [hfirst] at hcamel
    rw [String.toList_ofList] at h
    split at h
    · rcases List.mem_append.mp h with h | h
      · exact isAlphanum_of_mem_icon c h
      · exact hcamel c h
    · exact hcamel c h

theorem not_mem_identifier {c : Char} (hc : c.isAlphanum = false) (name : String) :
    c ∉ (identifier name).toList := fun h => by
  simp [isAlphanum_of_mem_identifier h] at hc

/-- Other characters than letters and digits come from around an identifier. -/
theorem not_mem_around {c : Char} (hc : c.isAlphanum = false) (name : String) {front back : String}
    (hfront : c ∉ front.toList) (hback : c ∉ back.toList) :
    c ∉ (front ++ identifier name ++ back).toList := by
  simp only [String.toList_append, List.mem_append, not_or]
  exact ⟨⟨hfront, not_mem_identifier hc name⟩, hback⟩

/-! ## The form of identifiers -/

/-- The words of a name with their capitals, and one in front of them if there is none or the first
begins with a digit. -/
theorem toList_identifier (name : String) :
    (identifier name).toList =
      (if (camelCase name.toList).head?.all Char.isDigit then "Icon".toList else []) ++
        camelCase name.toList := by
  rw [identifier]
  cases camelCase name.toList with
  | nil => rfl
  | cons c rest =>
    rw [String.toList_ofList]
    by_cases hc : c.isDigit
    · simp [hc]
    · simp [hc]

/-- What words with capitals begin with. -/
theorem isDigit_or_isUpper_of_mem_head? (words : List (List Char))
    (h : ∀ word ∈ words, ∀ c ∈ word, c.isAlphanum) :
    ∀ c ∈ (words.flatMap capitalized).head?, c.isDigit ∨ c.isUpper := by
  induction words with
  | nil => nofun
  | cons word rest ih =>
    rw [List.forall_mem_cons] at h
    cases word with
    | nil => exact ih h.2
    | cons first word =>
      intro c hc
      cases hc
      by_cases hdigit : first.toUpper.isDigit
      · exact .inl hdigit
      · exact .inr (isUpper_toUpper (h.1 first List.mem_cons_self) hdigit)

/-- An identifier begins with a capital. -/
theorem exists_identifier_eq_cons (name : String) :
    ∃ first rest, (identifier name).toList = first :: rest ∧ first.isUpper := by
  rw [toList_identifier]
  split
  · exact ⟨'I', _, rfl, by decide⟩
  · next hfront =>
    have hhead := isDigit_or_isUpper_of_mem_head? (words name.toList)
      fun word hword => Text.forall_mem_runs hword
    rw [← camelCase] at hhead
    cases hcamel : camelCase name.toList with
    | nil =>
      rw [hcamel] at hfront
      exact absurd rfl hfront
    | cons first rest =>
      rw [hcamel] at hfront hhead
      exact ⟨first, rest, rfl, (hhead first rfl).resolve_left hfront⟩

/-- An identifier is its own identifier: it is a single run that has its capital. -/
theorem identifier_identifier (name : String) :
    identifier (identifier name) = identifier name := by
  obtain ⟨first, rest, hname, hfirst⟩ := exists_identifier_eq_cons name
  obtain ⟨hupper, hdigit⟩ := toUpper_of_isUpper hfirst
  have hall : ∀ c ∈ first :: rest, c.isAlphanum := by
    intro c hc
    rw [← hname] at hc
    exact isAlphanum_of_mem_identifier hc
  have hruns : Text.RunsIn Char.isAlphanum (first :: rest ++ []) [first :: rest] :=
    .run (List.cons_ne_nil _ _) hall nofun .nil
  rw [List.append_nil, Text.runsIn_iff] at hruns
  have hcamel : camelCase (identifier name).toList = first :: rest := by
    rw [hname, camelCase, words, hruns, List.flatMap_singleton, capitalized, hupper]
  apply String.toList_inj.mp
  rw [toList_identifier, hcamel, List.head?_cons, Option.all_some, if_neg hdigit, hname,
    List.nil_append]

/-- An identifier begins with a capital, and ASCII letters and digits follow.  It is its own
identifier.  A name has one sequence of runs of ASCII letters and digits, and the identifier is made
up of these runs, each with a capital for its first letter; the word `Icon` stands in front of them
if there is none or the first begins with a digit. -/
theorem identifier_of_runs (name : String) :
    (∃ first rest, (identifier name).toList = first :: rest ∧ first.isUpper ∧
      ∀ c ∈ rest, c.isAlphanum) ∧
    identifier (identifier name) = identifier name ∧
    ∃ pieces, (∀ other, Text.RunsIn Char.isAlphanum name.toList other ↔ other = pieces) ∧
      (identifier name).toList =
        (if (pieces.flatMap capitalized).head?.all Char.isDigit then "Icon".toList else []) ++
          pieces.flatMap capitalized := by
  refine ⟨?_, identifier_identifier name, words name.toList, ?_, toList_identifier name⟩
  · obtain ⟨first, rest, hname, hfirst⟩ := exists_identifier_eq_cons name
    refine ⟨first, rest, hname, hfirst, ?_⟩
    intro c hc
    have hmem : c ∈ (identifier name).toList := by
      rw [hname]
      exact List.mem_cons_of_mem _ hc
    exact isAlphanum_of_mem_identifier hmem
  · intro other
    rw [Text.runsIn_iff, eq_comm]
    rfl

example : identifier "größe 2up" = "GrE2up" := by decide +kernel

end Swift

end SvgDrawing
