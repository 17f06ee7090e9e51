import SvgDrawing.Swift.Renderer

/-!
# The characters of numbers

A finite number is written with digits, signs, a point and the mark of an exponent.  The infinities
and not-a-number are written as words, and rounding keeps what they are, so the text of a coordinate
tells whether it is finite.
-/
namespace SvgDrawing

/-- A character that numbers are written with. -/
def isNumeral (c : Char) : Bool := c.isDigit || ['.', 'e', '+', '-'].contains c

theorem isNumeral_of_isDigit {c : Char} (h : c.isDigit) : isNumeral c := by
  rw [isNumeral, h, Bool.true_or]

/-! ## Decimals -/

namespace Decimal

theorem isDigit_of_mem_toDigits {n : Nat} : ∀ c ∈ Nat.toDigits 10 n, c.isDigit :=
  fun _ => Nat.isDigit_of_mem_toDigits (by decide) (by decide)

theorem isDigit_of_mem_significant (d : Decimal) : ∀ c ∈ d.significant, c.isDigit := by
  intro c hc
  have hdrop := (List.dropWhile_sublist _).mem (List.mem_reverse.mp hc)
  exact isDigit_of_mem_toDigits c (List.mem_reverse.mp hdrop)

theorem isNumeral_of_mem_positional {digits : List Char} (h : ∀ c ∈ digits, c.isDigit)
    (place : Int) : ∀ c ∈ positional digits place, isNumeral c := by
  have hzeros : ∀ n, ∀ c ∈ List.replicate n '0', isNumeral c := by
    intro n c hc
    rw [List.eq_of_mem_replicate hc]
    rfl
  have hdigits : ∀ c ∈ digits, isNumeral c := fun c hc => isNumeral_of_isDigit (h c hc)
  rw [positional]
  split
  · simp only [List.cons_append, List.forall_mem_cons, List.forall_mem_append]
    exact ⟨rfl, rfl, hzeros _, hdigits⟩
  · simp only [List.forall_mem_append, List.forall_mem_cons]
    refine ⟨⟨fun c hc => hdigits c (List.mem_of_mem_take hc), hzeros _⟩, rfl, ?_⟩
    split
    · simp [isNumeral]
    · exact fun c hc => hdigits c (List.mem_of_mem_drop hc)

theorem isNumeral_of_mem_scientific {digits : List Char} (h : ∀ c ∈ digits, c.isDigit)
    (place : Int) : ∀ c ∈ scientific digits place, isNumeral c := by
  have hdigits : ∀ c ∈ digits, isNumeral c := fun c hc => isNumeral_of_isDigit (h c hc)
  have hexponent : ∀ c ∈ Nat.toDigits 10 place.natAbs, isNumeral c :=
    fun c hc => isNumeral_of_isDigit (isDigit_of_mem_toDigits c hc)
  simp only [scientific, List.forall_mem_append, List.forall_mem_cons]
  refine ⟨⟨fun c hc => hdigits c (List.mem_of_mem_take hc), ?_⟩, rfl, ?_, ?_⟩
  · split
    · exact List.forall_mem_nil _
    · rw [List.forall_mem_cons]
      exact ⟨rfl, fun c hc => hdigits c (List.mem_of_mem_drop hc)⟩
  · split <;> rfl
  · split
    · rw [List.forall_mem_cons]
      exact ⟨rfl, hexponent⟩
    · exact hexponent

theorem isNumeral_of_mem_text (d : Decimal) : ∀ c ∈ d.text, isNumeral c := by
  rw [text]
  split
  · exact isNumeral_of_mem_positional d.isDigit_of_mem_significant _
  · exact isNumeral_of_mem_scientific d.isDigit_of_mem_significant _

end Decimal

/-! ## Doubles -/

namespace Double

theorem isNumeral_of_mem_signText (negative : Bool) : ∀ c ∈ signText negative, isNumeral c := by
  cases negative <;> simp [signText, isNumeral]

theorem isNumeral_of_mem_text {x : Double} (h : x.isFinite) : ∀ c ∈ x.text.toList, isNumeral c := by
  cases x with
  | nan => cases h
  | infinite s => cases h
  | finite s n k =>
    simp only [text, String.toList_ofList, List.forall_mem_append]
    refine ⟨isNumeral_of_mem_signText s, ?_⟩
    split
    · simp [isNumeral]
    · exact (Decimal.shortest n).isNumeral_of_mem_text

/-- Rounding a finite number gives a finite number or nothing, and keeps all others. -/
theorem isFinite_roundTo? {x y : Double} {places : Int} (h : x.roundTo? places = some y) :
    y.isFinite = x.isFinite := by
  cases x with
  | nan => cases h; rfl
  | infinite s => cases h; rfl
  | finite s n k =>
    simp only [roundTo?, ofDecimal] at h
    generalize (Decimal.ofUnits n (max (-309) (min 324 places))).clamp = d at h
    rcases Nat.lt_or_ge (nearest d.num d.den) limit with hlt | hle
    · rw [ofUnits_of_lt s hlt] at h
      cases h
      rfl
    · rw [ofUnits_of_le s hle] at h
      cases h

end Double

/-! ## Coordinates -/

namespace Swift

theorem isNumeral_of_mem_number {x : Double} (h : x.isFinite) :
    ∀ c ∈ (number x).toList, isNumeral c := by
  cases x with
  | nan => cases h
  | infinite s => cases h
  | finite s n k =>
    simp only [number]
    split
    · simp [isNumeral]
    · split
      · simp only [integerText, String.toList_ofList, List.forall_mem_append]
        exact ⟨Double.isNumeral_of_mem_signText s,
          fun c hc => isNumeral_of_isDigit (Decimal.isDigit_of_mem_toDigits c hc)⟩
      · exact Double.isNumeral_of_mem_text h

/-- The words that stand for the infinities and for not-a-number. -/
def nonNumbers : List String := ["inf", "-inf", "nan"]

theorem number_mem_nonNumbers_iff (x : Double) : number x ∈ nonNumbers ↔ ¬ x.isFinite := by
  constructor
  · intro hword hfinite
    have hn : 'n' ∈ (number x).toList := by
      simp only [nonNumbers, List.mem_cons, List.not_mem_nil, or_false] at hword
      rcases hword with hword | hword | hword <;> rw [hword] <;> decide
    exact absurd (isNumeral_of_mem_number hfinite 'n' hn) (by decide)
  · intro hfinite
    cases x with
    | nan => decide
    | infinite s => cases s <;> decide
    | finite s n k => exact absurd rfl hfinite

/-- A coordinate is written as a word exactly if it is not finite, whatever it is rounded
to. -/
theorem mem_nonNumbers_iff {precision : Int} {x : Double} {text : String}
    (h : number? precision x = some text) : text ∈ nonNumbers ↔ ¬ x.isFinite := by
  obtain ⟨y, hy, rfl⟩ := Option.map_eq_some_iff.mp h
  rw [number_mem_nonNumbers_iff, Double.isFinite_roundTo? hy]

end Swift

end SvgDrawing
