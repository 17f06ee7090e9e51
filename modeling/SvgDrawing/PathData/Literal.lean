import SvgDrawing.Double.Decimal
import SvgDrawing.Failure
import SvgDrawing.Text.Pieces

/-!
# Number literals

A number is written with an optional sign, digits with an optional point anywhere but
alone, and an optional exponent.  No separator is needed between two numbers where the
second cannot continue the first, so the reader takes the longest literal at each
place: a part that could still belong to the literal always does.

A literal is kept in its parts, which can be put together to its text again and
evaluated.  Reading and evaluating are apart because a literal too large for a double
is an error only for who asks for its value.

## Main definitions

* `Literal`, with its `text` and `value`.
* `Literal.read? s` — the longest literal at the start of a text and the rest.
* `Literal.readAll s` — the literals of a list with separators, and the rest.
* `numbers s` — their values.
* `parseNumber s` — the value of a text that is one number.
-/

namespace SvgDrawing.PathData

open Text

/-- An exponent: its mark, its sign if there is one, and its digits. -/
structure Exponent where
  mark : Char
  sign : Option Char
  digits : List Char
  deriving DecidableEq

/-- A number as it is written.  `fraction` is what follows the point, if there is one. -/
structure Literal where
  sign : Option Char
  whole : List Char
  fraction : Option (List Char)
  exponent : Option Exponent
  deriving DecidableEq

namespace Exponent

/-- The exponent as it was written. -/
def text (e : Exponent) : List Char := e.mark :: e.sign.toList ++ e.digits

/-- The exponent as a number. -/
def value (e : Exponent) : Int :=
  if e.sign = some '-' then -(digitsValue e.digits : Int) else digitsValue e.digits

end Exponent

namespace Literal

/-! ## Text and value -/

/-- The literal as it was written. -/
def text (l : Literal) : List Char :=
  l.sign.toList ++ l.whole ++ (l.fraction.map ('.' :: ·)).getD [] ++
    (l.exponent.map Exponent.text).getD []

/-- The decimal that a literal denotes, without its sign. -/
def magnitude (l : Literal) : Decimal :=
  let fraction := l.fraction.getD []
  { digits := digitsValue (l.whole ++ fraction)
    exponent := (l.exponent.map Exponent.value).getD 0 - fraction.length }

/-- The double nearest to a literal, infinite if it is too large. -/
def value (l : Literal) : Double := .ofDecimal (l.sign == some '-') l.magnitude

/-- The value of a literal that a finite double can hold. -/
def finiteValue (l : Literal) : Except ConversionError Double :=
  if l.value.isFinite then .ok l.value else .error (.malformedNumber (String.ofList l.text))

/-! ## Reading one literal -/

/-- A leading sign and the rest. -/
def readSign : List Char → Option Char × List Char
  | [] => (none, [])
  | c :: rest => if c = '+' ∨ c = '-' then (some c, rest) else (none, c :: rest)

/-- The digits at the start of a text and the rest. -/
def readDigits (s : List Char) : List Char × List Char := (s.takeWhile isDigit, s.dropWhile isDigit)

/-- A point with the digits after it, and the rest. -/
def readFraction : List Char → Option (List Char) × List Char
  | '.' :: rest => (some (readDigits rest).1, (readDigits rest).2)
  | s => (none, s)

/-- An exponent and the rest.  A mark without digits after it is no exponent. -/
def readExponent : List Char → Option Exponent × List Char
  | [] => (none, [])
  | c :: rest =>
    if c = 'e' ∨ c = 'E' then
      let (sign, unsigned) := readSign rest
      let (digits, after) := readDigits unsigned
      if digits.isEmpty then (none, c :: rest) else (some ⟨c, sign, digits⟩, after)
    else (none, c :: rest)

/-- The longest literal at the start of a text and the rest, if there is any. -/
def read? (s : List Char) : Option (Literal × List Char) :=
  let (sign, s₁) := readSign s
  let (whole, s₂) := readDigits s₁
  let (fraction, s₃) := readFraction s₂
  if whole.isEmpty && (fraction.getD []).isEmpty then none
  else
    let (exponent, s₄) := readExponent s₃
    some (⟨sign, whole, fraction, exponent⟩, s₄)

/-! ### Nothing is lost -/

theorem readSign_append (s : List Char) : (readSign s).1.toList ++ (readSign s).2 = s := by
  cases s with
  | nil => rfl
  | cons c rest => simp only [readSign]; split <;> simp

theorem readDigits_append (s : List Char) : (readDigits s).1 ++ (readDigits s).2 = s := by
  simp [readDigits]

theorem readFraction_append (s : List Char) :
    ((readFraction s).1.map ('.' :: ·)).getD [] ++ (readFraction s).2 = s := by
  unfold readFraction
  split <;> simp [readDigits_append]

theorem readExponent_append (s : List Char) :
    ((readExponent s).1.map Exponent.text).getD [] ++ (readExponent s).2 = s := by
  cases s with
  | nil => rfl
  | cons c rest =>
    simp only [readExponent]
    split
    · split
      · simp
      · simp [Exponent.text, List.append_assoc, readDigits_append, readSign_append]
    · simp

/-- A literal that is read and the rest make up the text. -/
theorem append_of_read? {s rest : List Char} {l : Literal} (h : read? s = some (l, rest)) :
    l.text ++ rest = s := by
  simp only [read?] at h
  split at h
  · simp at h
  · simp only [Option.some.injEq, Prod.mk.injEq] at h
    obtain ⟨rfl, rfl⟩ := h
    simp only [text, List.append_assoc, readExponent_append, readFraction_append,
      readDigits_append, readSign_append]

/-- A literal that is read has a digit. -/
theorem text_ne_nil_of_read? {s rest : List Char} {l : Literal} (h : read? s = some (l, rest)) :
    l.text ≠ [] := by
  simp only [read?] at h
  split at h
  · simp at h
  · next hd =>
    simp only [Option.some.injEq, Prod.mk.injEq] at h
    obtain ⟨rfl, rfl⟩ := h
    intro ht
    simp only [text, List.append_eq_nil_iff] at ht
    obtain ⟨⟨⟨-, hw⟩, hf⟩, -⟩ := ht
    revert hf hd
    rw [hw]
    cases (readFraction (readDigits (readSign s).2).2).1 <;> simp

/-- Reading a literal leaves a shorter text. -/
theorem length_lt_of_read? {s rest : List Char} {l : Literal} (h : read? s = some (l, rest)) :
    rest.length < s.length := by
  rw [← append_of_read? h, List.length_append]
  have := List.length_pos_iff.2 (text_ne_nil_of_read? h)
  omega

/-! ## Lists of literals -/

/-- Numbers are separated by commas and blanks. -/
def isSeparator (c : Char) : Bool := c == ',' || isBlank c

/-- The literals at the start of a text, with any separators around them, and the rest
from the first character that cannot start a number. -/
def readAll (s : List Char) : List Literal × List Char :=
  match _h : read? (s.dropWhile isSeparator) with
  | none => ([], s.dropWhile isSeparator)
  | some (l, rest) =>
    let (more, last) := readAll rest
    (l :: more, last)
  termination_by s.length
  decreasing_by
    exact Nat.lt_of_lt_of_le (length_lt_of_read? _h) (List.dropWhile_sublist _).length_le

/-- The values of literals up to the first that is too large, and the error it makes. -/
def values : List Literal → List Double × Option ConversionError
  | [] => ([], none)
  | l :: rest =>
    match l.finiteValue with
    | .error e => ([], some e)
    | .ok x =>
      let (more, e) := values rest
      (x :: more, e)

end Literal

/-- The numbers at the start of a text; with a limit, only the first so many are read. -/
def numbers (s : List Char) (limit : Option Nat) : List Double × Option ConversionError :=
  let literals := (Literal.readAll s).1
  Literal.values (match limit with | none => literals | some n => literals.take n)

/-- The value of a text that is one number, blanks around it aside. -/
def parseNumber (s : String) : Except ConversionError Double :=
  match Literal.read? (strip s.toList) with
  | some (l, []) => l.finiteValue
  | _ => .error (.malformedNumber s)

end SvgDrawing.PathData
