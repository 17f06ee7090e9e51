import SvgDrawing.PathData.Command

/-!
# Tokens as they are written

Path data are some text without command letters, and then tokens, each a command letter with a text
in which there is none.  There is one such reading of every text: a token cannot be written in a way
that would be cut elsewhere, because its letter is the only command letter in it.

So cutting loses nothing, and it undoes writing tokens one after the other, also where letters stand
next to each other or at the end: `tokenize_eq_iff`.
-/
namespace SvgDrawing.PathData

namespace Token

/-- A letter that begins a command, and arguments in which there is no other such letter. -/
structure IsProper (t : Token) : Prop where
  letter : isCommandLetter t.letter
  arguments : ∀ c ∈ t.arguments, ¬ isCommandLetter c

/-- Text without command letters goes to the front. -/
theorem cut_append_of_forall {front : List Char} (h : ∀ c ∈ front, ¬ isCommandLetter c)
    (back : List Char) : cut (front ++ back) = (front ++ (cut back).1, (cut back).2) := by
  induction front with
  | nil => rfl
  | cons c rest ih =>
    rw [List.forall_mem_cons] at h
    simp [cut, ih h.2, h.1]

/-- Proper tokens written one after the other are cut where they were joined. -/
theorem cut_flatMap_text {tokens : List Token} (h : ∀ t ∈ tokens, t.IsProper) :
    cut (tokens.flatMap text) = ([], tokens) := by
  induction tokens with
  | nil => rfl
  | cons t rest ih =>
    rw [List.forall_mem_cons] at h
    have harguments := cut_append_of_forall h.1.arguments (rest.flatMap text)
    rw [ih h.2, List.append_nil] at harguments
    simp [text, cut, harguments, h.1.letter]

theorem isProper_of_mem_cut (s : List Char) :
    (∀ c ∈ (cut s).1, ¬ isCommandLetter c) ∧ ∀ t ∈ (cut s).2, t.IsProper := by
  induction s with
  | nil => exact ⟨List.forall_mem_nil _, List.forall_mem_nil _⟩
  | cons c rest ih =>
    obtain ⟨hfront, htokens⟩ := ih
    simp only [cut]
    by_cases hc : isCommandLetter c
    · simp only [hc, if_true]
      exact ⟨List.forall_mem_nil _, List.forall_mem_cons.mpr ⟨⟨hc, hfront⟩, htokens⟩⟩
    · simp only [hc]
      exact ⟨List.forall_mem_cons.mpr ⟨hc, hfront⟩, htokens⟩

/-- A text is cut into the only front and the only proper tokens that it can be put together
from. -/
theorem cut_eq_iff {s front : List Char} {tokens : List Token} :
    cut s = (front, tokens) ↔
      (∀ c ∈ front, ¬ isCommandLetter c) ∧ (∀ t ∈ tokens, t.IsProper) ∧
        front ++ tokens.flatMap text = s := by
  constructor
  · intro h
    have hparts := isProper_of_mem_cut s
    have happend := append_cut s
    rw [h] at hparts happend
    exact ⟨hparts.1, hparts.2, happend⟩
  · rintro ⟨hfront, htokens, rfl⟩
    rw [cut_append_of_forall hfront, cut_flatMap_text htokens, List.append_nil]

end Token

theorem isProper_of_mem_tokenize {s : List Char} {t : Token} (h : t ∈ tokenize s) : t.IsProper :=
  (Token.isProper_of_mem_cut s).2 t h

/-- Tokens are those of a text exactly if each is a command letter with arguments in which there is
no command letter, and the text is made up of them, written one after the other, and of something
without command letters in front. -/
theorem tokenize_eq_iff (s : List Char) (tokens : List Token) :
    tokenize s = tokens ↔
      (∀ t ∈ tokens, t.IsProper) ∧
        ∃ front, (∀ c ∈ front, ¬ isCommandLetter c) ∧ s = front ++ tokens.flatMap Token.text := by
  constructor
  · rintro rfl
    obtain ⟨hfront, htokens, happend⟩ :=
      Token.cut_eq_iff.mp (Eq.refl ((Token.cut s).1, (Token.cut s).2))
    exact ⟨htokens, _, hfront, happend.symm⟩
  · rintro ⟨htokens, front, hfront, rfl⟩
    rw [tokenize, Token.cut_eq_iff.mpr ⟨hfront, htokens, rfl⟩]

/-- Letters next to each other, arguments without values, and a letter at the end. -/
example : tokenize "1zM,L2 3x4c".toList =
    [⟨'z', []⟩, ⟨'M', [',']⟩, ⟨'L', "2 3x4".toList⟩, ⟨'c', []⟩] := by decide

end SvgDrawing.PathData
