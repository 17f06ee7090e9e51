import Mathlib.Data.List.Basic
import Mathlib.Data.List.TakeWhile
import SvgDrawing.Proofs.Double.Reading
import SvgDrawing.Proofs.PathData.LiteralText
import SvgDrawing.Proofs.Swift.NumberText

/-!
# Written decimals as literals

The text of a decimal is that of a literal of path data, `Decimal.literal`.  Its parts depend on the
notation, and zeros are put in or taken away, but the literal always denotes the decimal.
-/
namespace SvgDrawing

-- powers are those of natural numbers, whatever other powers are in scope
attribute [local instance (high)] instPowNat

open PathData Text

/-! ## Digits -/

theorem digitValue?_of_isDigit {c : Char} (h : c.isDigit) :
    digitValue? c = some (c.toNat - 48) := by
  obtain ⟨hlow, hhigh⟩ : 48 ≤ c.toNat ∧ c.toNat ≤ 57 := Char.isDigit_iff_toNat.mp h
  have hrange : c.toNat < 48 + 10 := by omega
  simp [digitValue?, zeros, hlow, hrange]

theorem isDigit_of_char {c : Char} (h : c.isDigit) : Text.isDigit c := by
  rw [Text.isDigit, digitValue?_of_isDigit h]
  rfl

/-- The value of ASCII digits. -/
theorem digitsValue_eq {s : List Char} (h : ∀ c ∈ s, c.isDigit) :
    digitsValue s = Nat.ofDigitChars 10 s 0 := by
  rw [digitsValue, Nat.ofDigitChars_eq_foldl]
  apply List.foldl_ext
  intro n c hc
  rw [digitValue?_of_isDigit (h c hc)]
  rfl

theorem digitsValue_toDigits (n : Nat) : digitsValue (Nat.toDigits 10 n) = n := by
  rw [digitsValue_eq Decimal.isDigit_of_mem_toDigits, Nat.ofDigitChars_ten_toDigits]

theorem isDigit_of_mem_replicate {n : Nat} : ∀ c ∈ List.replicate n '0', c.isDigit := by
  intro c hc
  rw [List.eq_of_mem_replicate hc]
  rfl

/-- One ASCII digit or more. -/
def AreDigits (s : List Char) : Prop := s ≠ [] ∧ ∀ c ∈ s, c.isDigit

theorem areDigits_zeros_append {s : List Char} (h : AreDigits s) (n : Nat) :
    AreDigits (List.replicate n '0' ++ s) :=
  ⟨List.append_ne_nil_of_right_ne_nil _ h.1,
    List.forall_mem_append.mpr ⟨isDigit_of_mem_replicate, h.2⟩⟩

/-- Zeros in front do not count. -/
theorem digitsValue_zeros_append {s : List Char} (h : ∀ c ∈ s, c.isDigit) (n : Nat) :
    digitsValue (List.replicate n '0' ++ s) = digitsValue s := by
  rw [digitsValue_eq (List.forall_mem_append.mpr ⟨isDigit_of_mem_replicate, h⟩), digitsValue_eq h,
    Nat.ofDigitChars_append, Nat.ofDigitChars_replicate_zero, Nat.mul_zero]

/-- Each zero at the end counts as a factor. -/
theorem digitsValue_append_zeros {s : List Char} (h : ∀ c ∈ s, c.isDigit) (n : Nat) :
    digitsValue (s ++ List.replicate n '0') = digitsValue s * 10 ^ n := by
  rw [digitsValue_eq (List.forall_mem_append.mpr ⟨h, isDigit_of_mem_replicate⟩), digitsValue_eq h,
    Nat.ofDigitChars_append, Nat.ofDigitChars_replicate_zero, Nat.mul_comm]

namespace Decimal

/-- The digits of a decimal end with the zeros that `significant` leaves out. -/
theorem exists_toDigits_eq (d : Decimal) :
    ∃ k, Nat.toDigits 10 d.digits = d.significant ++ List.replicate k '0' := by
  have hzeros : (Nat.toDigits 10 d.digits).reverse.takeWhile (· == '0') =
      List.replicate ((Nat.toDigits 10 d.digits).reverse.takeWhile (· == '0')).length '0' :=
    List.eq_replicate_of_mem fun c hc => by simpa using List.mem_takeWhile_imp hc
  refine ⟨((Nat.toDigits 10 d.digits).reverse.takeWhile (· == '0')).length, ?_⟩
  rw [significant, ← List.reverse_replicate, ← hzeros, ← List.reverse_append,
    List.takeWhile_append_dropWhile, List.reverse_reverse]

/-- The value of a decimal from its digits without the zeros at the end. -/
theorem exists_eq_significant (d : Decimal) :
    ∃ k : Nat, d.digits = digitsValue d.significant * 10 ^ k ∧
      d.leadingPlace + 1 - d.significant.length = d.exponent + k := by
  obtain ⟨k, hk⟩ := d.exists_toDigits_eq
  refine ⟨k, ?_, ?_⟩
  · rw [← digitsValue_append_zeros d.isDigit_of_mem_significant, ← hk, digitsValue_toDigits]
  · rw [leadingPlace, hk, List.length_append, List.length_replicate]
    omega

theorem areDigits_toDigits (n : Nat) : AreDigits (Nat.toDigits 10 n) :=
  ⟨Nat.toDigits_ne_nil, isDigit_of_mem_toDigits⟩

theorem areDigits_significant {d : Decimal} (h : d.digits ≠ 0) : AreDigits d.significant := by
  obtain ⟨k, hk, -⟩ := d.exists_eq_significant
  refine ⟨fun hnil => ?_, d.isDigit_of_mem_significant⟩
  rw [hnil] at hk
  exact h (by rw [hk]; exact Nat.zero_mul _)

/-! ## Literals of decimals -/

/-- The sign of a literal. -/
def signOf (negative : Bool) : Option Char := if negative then some '-' else none

theorem isSign_of_mem_signOf {negative : Bool} : ∀ c ∈ signOf negative, IsSign c := by
  cases negative
  · simp [signOf]
  · intro c hc
    cases hc
    exact .inr rfl

theorem toList_signOf (negative : Bool) : (signOf negative).toList = Double.signText negative := by
  cases negative <;> rfl

theorem signOf_beq (negative : Bool) : (signOf negative == some '-') = negative := by
  cases negative <;> rfl

/-- The parts of positional notation. -/
def positionalLiteral (sign : Option Char) (digits : List Char) (place : Int) : Literal :=
  if place < 0 then
    ⟨sign, ['0'], some (List.replicate (-place - 1).toNat '0' ++ digits), none⟩
  else
    ⟨sign, digits.take (place.toNat + 1) ++ List.replicate (place.toNat + 1 - digits.length) '0',
      some (if (digits.drop (place.toNat + 1)).isEmpty then ['0']
        else digits.drop (place.toNat + 1)),
      none⟩

/-- The digits of an exponent, at least two. -/
def exponentDigits (n : Nat) : List Char :=
  if (Nat.toDigits 10 n).length < 2 then '0' :: Nat.toDigits 10 n else Nat.toDigits 10 n

/-- The exponent of scientific notation. -/
def placeExponent (place : Int) : Exponent :=
  ⟨'e', some (if place < 0 then '-' else '+'), exponentDigits place.natAbs⟩

/-- The parts of scientific notation. -/
def scientificLiteral (sign : Option Char) (digits : List Char) (place : Int) : Literal :=
  ⟨sign, digits.take 1, if (digits.drop 1).isEmpty then none else some (digits.drop 1),
    some (placeExponent place)⟩

/-- The parts of a written decimal. -/
def literal (sign : Option Char) (d : Decimal) : Literal :=
  if -4 ≤ d.leadingPlace ∧ d.leadingPlace ≤ 15 then
    positionalLiteral sign d.significant d.leadingPlace
  else scientificLiteral sign d.significant d.leadingPlace

section

variable (sign : Option Char) (digits : List Char) (place : Int)

theorem text_positionalLiteral :
    (positionalLiteral sign digits place).text = sign.toList ++ positional digits place := by
  rw [positionalLiteral, positional]
  split <;> simp [Literal.text]

theorem text_scientificLiteral :
    (scientificLiteral sign digits place).text = sign.toList ++ scientific digits place := by
  simp only [scientificLiteral, scientific, Literal.text]
  generalize digits.drop 1 = fraction
  cases fraction <;> simp [placeExponent, exponentDigits, Exponent.text]

theorem text_literal (d : Decimal) : (d.literal sign).text = sign.toList ++ d.text := by
  simp only [literal, text]
  split
  · exact text_positionalLiteral ..
  · exact text_scientificLiteral ..

end

section

variable {sign : Option Char} {digits : List Char}

/-- Parts of ASCII digits make a literal. -/
theorem wellFormed_mk (hsign : ∀ c ∈ sign, IsSign c) {whole : List Char}
    {fraction : Option (List Char)} (hwhole : AreDigits whole)
    (hfraction : ∀ s ∈ fraction, AreDigits s) {exponent : Option Exponent}
    (hexponent : ∀ e ∈ exponent, e.WellFormed) :
    Literal.WellFormed ⟨sign, whole, fraction, exponent⟩ :=
  ⟨hsign, fun c hc => isDigit_of_char (hwhole.2 c hc),
    fun s hs c hc => isDigit_of_char ((hfraction s hs).2 c hc), hexponent, .inl hwhole.1⟩

/-- Positional notation has digits on both sides of the point. -/
theorem exists_positionalLiteral_eq (sign : Option Char) (hdigits : AreDigits digits)
    (place : Int) : ∃ whole fraction, AreDigits whole ∧ AreDigits fraction ∧
      positionalLiteral sign digits place = ⟨sign, whole, some fraction, none⟩ := by
  have hzero : AreDigits ['0'] := ⟨List.cons_ne_nil _ _, by simp⟩
  rw [positionalLiteral]
  split
  · exact ⟨['0'], _, hzero, areDigits_zeros_append hdigits _, rfl⟩
  · refine ⟨_, _, ⟨?_, ?_⟩, ?_, rfl⟩
    · simp [hdigits.1]
    · exact List.forall_mem_append.mpr
        ⟨fun c hc => hdigits.2 c (List.mem_of_mem_take hc), isDigit_of_mem_replicate⟩
    · split
      · exact hzero
      · next hne =>
        exact ⟨fun hnil => hne (List.isEmpty_iff.mpr hnil),
          fun c hc => hdigits.2 c (List.mem_of_mem_drop hc)⟩

theorem areDigits_exponentDigits (n : Nat) : AreDigits (exponentDigits n) := by
  rw [exponentDigits]
  split
  · exact areDigits_zeros_append (areDigits_toDigits n) 1
  · exact areDigits_toDigits n

/-- Scientific notation has one digit in front of the point, if there is a point. -/
theorem exists_scientificLiteral_eq (sign : Option Char) (hdigits : AreDigits digits)
    (place : Int) : ∃ (digit : Char) (fraction : Option (List Char)), digit.isDigit ∧
      (∀ s ∈ fraction, AreDigits s) ∧
      scientificLiteral sign digits place =
        ⟨sign, [digit], fraction, some (placeExponent place)⟩ := by
  obtain ⟨digit, rest, rfl⟩ := List.exists_cons_of_ne_nil hdigits.1
  obtain ⟨hdigit, hrest⟩ := List.forall_mem_cons.mp hdigits.2
  cases rest with
  | nil => exact ⟨digit, none, hdigit, by simp, rfl⟩
  | cons c rest =>
    refine ⟨digit, some (c :: rest), hdigit, ?_, rfl⟩
    rintro _ ⟨⟩
    exact ⟨List.cons_ne_nil _ _, hrest⟩

theorem wellFormed_placeExponent (place : Int) : (placeExponent place).WellFormed := by
  obtain ⟨hne, hdigits⟩ := areDigits_exponentDigits place.natAbs
  refine ⟨.inl rfl, ?_, fun c hc => isDigit_of_char (hdigits c hc), hne⟩
  intro c hc
  cases hc
  rw [IsSign]
  split
  · exact .inr rfl
  · exact .inl rfl

theorem wellFormed_literal (hsign : ∀ c ∈ sign, IsSign c) {d : Decimal} (h : d.digits ≠ 0) :
    (d.literal sign).WellFormed := by
  rw [literal]
  split
  · obtain ⟨whole, fraction, hwhole, hfraction, heq⟩ :=
      exists_positionalLiteral_eq sign (areDigits_significant h) d.leadingPlace
    rw [heq]
    exact wellFormed_mk hsign hwhole (by rintro _ ⟨⟩; exact hfraction) nofun
  · obtain ⟨digit, fraction, hdigit, hfraction, heq⟩ :=
      exists_scientificLiteral_eq sign (areDigits_significant h) d.leadingPlace
    rw [heq]
    refine wellFormed_mk hsign ⟨List.cons_ne_nil _ _, by simpa using hdigit⟩ hfraction ?_
    rintro _ ⟨⟩
    exact wellFormed_placeExponent _

/-! ### Their values -/

/-- Positional notation denotes its digits, with zeros at the end where the point is behind them. -/
theorem magnitude_positionalLiteral (hdigits : ∀ c ∈ digits, c.isDigit) (place : Int) :
    ∃ k : Nat, (positionalLiteral sign digits place).magnitude =
      ⟨digitsValue digits * 10 ^ k, place + 1 - digits.length - k⟩ := by
  rw [positionalLiteral]
  split
  · next hplace =>
    refine ⟨0, ?_⟩
    have hvalue := digitsValue_zeros_append hdigits ((-place - 1).toNat + 1)
    rw [List.replicate_succ] at hvalue
    simp only [Literal.magnitude, Option.getD_some, Option.map_none, Option.getD_none, mk.injEq]
    refine ⟨?_, ?_⟩
    · rw [Nat.pow_zero, Nat.mul_one]
      exact hvalue
    · rw [List.length_append, List.length_replicate]
      omega
  · next hplace =>
    simp only [Literal.magnitude, Option.getD_some, Option.map_none, Option.getD_none, mk.injEq]
    generalize hwhole : place.toNat + 1 = whole
    rcases Nat.lt_or_ge whole digits.length with hlt | hge
    · -- the point is inside
      have hempty : (digits.drop whole).isEmpty = false := by simp [hlt]
      refine ⟨0, ?_, ?_⟩
      · simp only [hempty, Bool.false_eq_true, if_false, Nat.sub_eq_zero_of_le (Nat.le_of_lt hlt),
          List.replicate_zero, List.append_nil, List.take_append_drop, Nat.pow_zero, Nat.mul_one]
      · simp only [hempty, Bool.false_eq_true, if_false, List.length_drop]
        omega
    · have hempty : (digits.drop whole).isEmpty = true := by simp [hge]
      refine ⟨whole - digits.length + 1, ?_, ?_⟩
      · rw [hempty, if_pos rfl, List.take_of_length_le hge, List.append_assoc,
          ← List.replicate_succ', digitsValue_append_zeros hdigits]
      · rw [hempty, if_pos rfl, List.length_singleton]
        omega

theorem value_placeExponent (place : Int) : (placeExponent place).value = place := by
  have hdigits : digitsValue (exponentDigits place.natAbs) = place.natAbs := by
    rw [exponentDigits]
    split
    · have hzero := digitsValue_zeros_append (isDigit_of_mem_toDigits (n := place.natAbs)) 1
      exact hzero.trans (digitsValue_toDigits _)
    · exact digitsValue_toDigits _
  rw [Exponent.value, placeExponent, hdigits]
  rcases Int.lt_or_le place 0 with hneg | hpos
  · rw [if_pos hneg, if_pos rfl]
    omega
  · have hplus : ¬ some '+' = some '-' := by decide
    rw [if_neg (Int.not_lt.mpr hpos), if_neg hplus]
    omega

/-- Scientific notation denotes its digits. -/
theorem magnitude_scientificLiteral (hne : digits ≠ []) (place : Int) :
    (scientificLiteral sign digits place).magnitude =
      ⟨digitsValue digits, place + 1 - digits.length⟩ := by
  have hfraction : (if (digits.drop 1).isEmpty then none else some (digits.drop 1)).getD [] =
      digits.drop 1 := by
    generalize digits.drop 1 = fraction
    cases fraction <;> rfl
  have hlength : 0 < digits.length := List.length_pos_iff.mpr hne
  simp only [scientificLiteral, Literal.magnitude, hfraction, List.take_append_drop,
    Option.map_some, Option.getD_some, value_placeExponent, List.length_drop, mk.injEq, true_and]
  omega

theorem sign_literal (sign : Option Char) (d : Decimal) : (d.literal sign).sign = sign := by
  rw [literal, positionalLiteral, scientificLiteral]
  split
  · split <;> rfl
  · rfl

/-- A written decimal denotes its digits, with zeros taken away or put in at the end. -/
theorem exists_magnitude_literal {d : Decimal} (h : d.digits ≠ 0) (sign : Option Char) :
    ∃ j k : Nat, (d.literal sign).magnitude =
        ⟨digitsValue d.significant * 10 ^ k, d.exponent + j - k⟩ ∧
      d.digits = digitsValue d.significant * 10 ^ j := by
  obtain ⟨k, hk⟩ : ∃ k : Nat, (d.literal sign).magnitude =
      ⟨digitsValue d.significant * 10 ^ k, d.leadingPlace + 1 - d.significant.length - k⟩ := by
    rw [literal]
    split
    · exact magnitude_positionalLiteral d.isDigit_of_mem_significant _
    · refine ⟨0, ?_⟩
      rw [magnitude_scientificLiteral (areDigits_significant h).1, Nat.pow_zero, Nat.mul_one,
        Int.natCast_zero, Int.sub_zero]
  obtain ⟨j, hdigits, hexponent⟩ := d.exists_eq_significant
  rw [hexponent] at hk
  exact ⟨j, k, hk, hdigits⟩

/-- A written decimal has the value of the decimal. -/
theorem value_literal {d : Decimal} (h : d.digits ≠ 0) (negative : Bool) :
    (d.literal (signOf negative)).value = Double.ofDecimal negative d := by
  obtain ⟨j, k, hmagnitude, hdigits⟩ := exists_magnitude_literal h (signOf negative)
  have hd : d = ⟨digitsValue d.significant * 10 ^ j, d.exponent + j - j⟩ := by
    rw [← hdigits, Int.add_sub_cancel]
  rw [Literal.value, sign_literal, signOf_beq, hmagnitude, Double.ofDecimal_eq, ofUnits_shift,
    ← ofUnits_shift _ _ j, ← hd, Double.ofDecimal_eq]

end

end Decimal

end SvgDrawing
