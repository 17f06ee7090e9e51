import SvgDrawing.Markup.Reference

/-!
# String literals

A string literal on one line begins and ends with a double quote.  In between a character stands
for itself, unless it is a backslash: then it begins an escape, which is a letter or the number of
a character in braces.  A line break must not stand in a literal.  An expression behind a backslash
is no escape, since it stands for no fixed text.

## Main definitions

* `isPlain c` — the characters that stand for themselves.
* `readFrom place s` — the value of a literal and the text behind its closing quote.
* `literalIn? line` — the same for the first literal on a line.

## Main statements

* `readFrom_append` — a literal of plain characters has these characters as its value.
* `forall_isPlain_of_readFrom` — a literal that is no longer than its value has plain characters.
* `exists_readFrom_iff` — which texts can be put between quotes as they are.
-/
namespace SvgDrawing.Swift.StringLiteral

/-- A character that stands for itself. -/
def isPlain (c : Char) : Bool := c != '"' && c != '\\' && c != '\n' && c != '\r'

/-- The escapes of one letter. -/
def named? : Char → Option Char
  | '0' => some '\x00'
  | '\\' => some '\\'
  | 't' => some '\t'
  | 'n' => some '\n'
  | 'r' => some '\r'
  | '"' => some '"'
  | '\'' => some '\''
  | _ => none

/-- The character with a number of up to eight hexadecimal digits. -/
def numbered? (digits : List Char) : Option Char :=
  match Markup.number? 16 Markup.hexDigit? digits with
  | some n => if digits.length ≤ 8 ∧ n.isValidChar then some (Char.ofNat n) else none
  | none => none

/-- Where reading stands: among characters, behind a backslash, before a brace, or behind some
digits in braces. -/
inductive Place where
  | characters
  | escape
  | brace
  | digits (read : List Char)

/-- The value of a literal from a place in it, and what follows the closing quote. -/
def readFrom : Place → List Char → Option (List Char × List Char)
  | _, [] => none
  | .characters, c :: rest =>
    if c = '"' then some ([], rest)
    else if c = '\\' then readFrom .escape rest
    else if isPlain c then (readFrom .characters rest).map (Prod.map (c :: ·) id)
    else none
  | .escape, c :: rest =>
    if c = 'u' then readFrom .brace rest
    else match named? c with
      | some d => (readFrom .characters rest).map (Prod.map (d :: ·) id)
      | none => none
  | .brace, c :: rest => if c = '{' then readFrom (.digits []) rest else none
  | .digits read, c :: rest =>
    if c = '}' then
      match numbered? read with
      | some d => (readFrom .characters rest).map (Prod.map (d :: ·) id)
      | none => none
    else readFrom (.digits (read ++ [c])) rest

/-- Escapes of both kinds. -/
example : readFrom .characters "a\\n\\u\x7bE9\x7d\": b".toList =
    some (['a', '\n', 'é'], [':', ' ', 'b']) := by decide +kernel

/-- The value of the first literal on a line, and what follows it. -/
def literalIn? (line : List Char) : Option (List Char × List Char) :=
  match line.dropWhile (· != '"') with
  | [] => none
  | _ :: rest => readFrom .characters rest

variable {place : Place} {s value rest name tail : List Char} {c : Char}

/-! ## What is read -/

theorem isPlain_iff : isPlain c ↔ c ≠ '"' ∧ c ≠ '\\' ∧ c ≠ '\n' ∧ c ≠ '\r' := by
  simp [isPlain, and_assoc]

theorem readFrom_quote (rest : List Char) : readFrom .characters ('"' :: rest) = some ([], rest) :=
  rfl

theorem readFrom_cons (h : isPlain c) (rest : List Char) :
    readFrom .characters (c :: rest) =
      (readFrom .characters rest).map (Prod.map (c :: ·) id) := by
  obtain ⟨hquote, hbackslash, -, -⟩ := isPlain_iff.mp h
  rw [readFrom, if_neg hquote, if_neg hbackslash, if_pos h]

/-- Plain characters up to a quote are the value of a literal. -/
theorem readFrom_append (h : ∀ c ∈ name, isPlain c) (rest : List Char) :
    readFrom .characters (name ++ '"' :: rest) = some (name, rest) := by
  induction name with
  | nil => exact readFrom_quote rest
  | cons c later ih =>
    rw [List.forall_mem_cons] at h
    rw [List.cons_append, readFrom_cons h.1, ih h.2]
    rfl

/-- One character more in front of a value. -/
theorem exists_of_map_cons_eq {read : Option (List Char × List Char)}
    (h : read.map (Prod.map (c :: ·) id) = some (value, rest)) :
    ∃ later, read = some (later, rest) ∧ value = c :: later := by
  obtain ⟨⟨later, rest'⟩, hread, heq⟩ := Option.map_eq_some_iff.mp h
  cases heq
  exact ⟨later, hread, rfl⟩

/-- A literal ends at a quote, and what stands before this quote is not shorter than the value. -/
theorem exists_of_readFrom (h : readFrom place s = some (value, rest)) :
    ∃ body, s = body ++ '"' :: rest ∧ value.length ≤ body.length := by
  have hcons {s value : List Char} (c : Char)
      (h : ∃ body, s = body ++ '"' :: rest ∧ value.length ≤ body.length) :
      ∃ body, c :: s = body ++ '"' :: rest ∧ value.length + 1 ≤ body.length := by
    obtain ⟨body, rfl, hlength⟩ := h
    exact ⟨c :: body, rfl, Nat.succ_le_succ hlength⟩
  have hskip {s value : List Char} (c : Char)
      (h : ∃ body, s = body ++ '"' :: rest ∧ value.length ≤ body.length) :
      ∃ body, c :: s = body ++ '"' :: rest ∧ value.length ≤ body.length := by
    obtain ⟨body, hbody, hlength⟩ := hcons c h
    exact ⟨body, hbody, Nat.le_of_succ_le hlength⟩
  induction s generalizing place value with
  | nil => simp [readFrom] at h
  | cons c later ih =>
    cases place with
    | characters =>
      rw [readFrom] at h
      split at h
      · next hc =>
        cases h
        exact ⟨[], by rw [hc]; rfl, Nat.le_refl _⟩
      · split at h
        · exact hskip c (ih h)
        · split at h
          · obtain ⟨value, hread, rfl⟩ := exists_of_map_cons_eq h
            exact hcons c (ih hread)
          · cases h
    | escape =>
      rw [readFrom] at h
      split at h
      · exact hskip c (ih h)
      · split at h
        · obtain ⟨value, hread, rfl⟩ := exists_of_map_cons_eq h
          exact hcons c (ih hread)
        · cases h
    | brace =>
      rw [readFrom] at h
      split at h
      · exact hskip c (ih h)
      · cases h
    | digits read =>
      rw [readFrom] at h
      split at h
      · split at h
        · obtain ⟨value, hread, rfl⟩ := exists_of_map_cons_eq h
          exact hcons c (ih hread)
        · cases h
      · exact hskip c (ih h)

/-- A literal that is no longer than its value has no escapes. -/
theorem forall_isPlain_of_readFrom (h : readFrom .characters s = some (value, rest))
    (hlength : s.length = value.length + 1 + rest.length) : ∀ c ∈ value, isPlain c := by
  induction s generalizing value with
  | nil => cases h
  | cons c later ih =>
    rw [readFrom] at h
    split at h
    · cases h
      exact List.forall_mem_nil _
    · split at h
      · -- the backslash is one character more than the value can have
        obtain ⟨body, rfl, hbody⟩ := exists_of_readFrom h
        simp only [List.length_cons, List.length_append] at hlength
        omega
      · split at h
        · next hplain =>
          obtain ⟨value, hread, rfl⟩ := exists_of_map_cons_eq h
          refine List.forall_mem_cons.mpr ⟨hplain, ih hread ?_⟩
          simp only [List.length_cons] at hlength
          omega
        · cases h

/-- If no quote follows its own, a text between quotes is read as itself exactly if all its
characters are plain. -/
theorem exists_readFrom_iff (htail : '"' ∉ tail) :
    (∃ rest, readFrom .characters (name ++ '"' :: tail) = some (name, rest)) ↔
      ∀ c ∈ name, isPlain c := by
  constructor
  · rintro ⟨rest, hread⟩
    obtain ⟨body, heq, hbody⟩ := exists_of_readFrom hread
    -- the quote that ends the literal is the one behind the name, or one in the name
    have hrest : tail.length ≤ rest.length := by
      refine Nat.le_of_not_lt fun hlt => htail ?_
      obtain ⟨skipped, hskipped⟩ : '"' :: rest <:+ tail :=
        List.suffix_of_suffix_length_le ⟨body, heq.symm⟩ ⟨name ++ ['"'], by simp⟩
          (by rw [List.length_cons]; omega)
      rw [← hskipped]
      exact List.mem_append_right _ List.mem_cons_self
    have hlength := congrArg List.length heq
    simp only [List.length_append, List.length_cons] at hlength
    refine forall_isPlain_of_readFrom hread ?_
    simp only [List.length_append, List.length_cons]
    omega
  · intro h
    exact ⟨tail, readFrom_append h tail⟩

/-- The literal behind a beginning without quotes. -/
theorem literalIn?_append {front : List Char} (hfront : '"' ∉ front) (s : List Char) :
    literalIn? (front ++ '"' :: s) = readFrom .characters s := by
  have hdrop : (front ++ '"' :: s).dropWhile (· != '"') = '"' :: s := by
    rw [List.dropWhile_append_of_pos]
    · simp
    · intro c hc
      exact bne_iff_ne.mpr fun heq => hfront (heq ▸ hc)
  rw [literalIn?, hdrop]

end SvgDrawing.Swift.StringLiteral
