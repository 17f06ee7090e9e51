import SvgDrawing.Proofs.PathData.Grouping
import SvgDrawing.Proofs.PathData.Recording
import SvgDrawing.Proofs.Text.Blank

/-!
# Which commands are refused

The arguments of a command are checked before anything is drawn.  A refusal has one of
three reasons, looked for in a fixed order: a number too large for a double, no number
where there is other text, and a number of values that the command cannot use up.

A command that passes is carried out to its end: the values form whole groups, and each
group is drawn.  Nothing is left over that could fail after the first segment.

## Main statements

* `Refusal name n text e` — the reasons, and the error that each gives.
* `Command.arguments_eq_error_iff`, `Command.arguments_eq_ok_iff` — the check.
* `Command.length_draw` — each group of values is drawn.
* `Session.execute_refused_iff` — when a single command fails, and that it then leaves
  everything as it was.
-/
namespace SvgDrawing

namespace PathData

open Text

namespace Literal

/-- The first literal that no finite double can hold. -/
def tooLarge? (literals : List Literal) : Option Literal := literals.find? fun l => !l.value.isFinite

theorem tooLarge?_cons_of_isFinite {l : Literal} (h : l.value.isFinite) (rest : List Literal) :
    tooLarge? (l :: rest) = tooLarge? rest :=
  List.find?_cons_of_neg (by simp [h])

theorem tooLarge?_cons_of_not_isFinite {l : Literal} (h : ¬ l.value.isFinite)
    (rest : List Literal) : tooLarge? (l :: rest) = some l :=
  List.find?_cons_of_pos (by simp [h])

theorem values_of_tooLarge {literals : List Literal} {l : Literal}
    (h : tooLarge? literals = some l) :
    (values literals).2 = some (.malformedNumber (String.ofList l.text)) := by
  induction literals with
  | nil => simp [tooLarge?] at h
  | cons first rest ih =>
    by_cases hf : first.value.isFinite
    · rw [tooLarge?_cons_of_isFinite hf] at h
      simp only [values, finiteValue, if_pos hf, ih h]
    · rw [tooLarge?_cons_of_not_isFinite hf, Option.some.injEq] at h
      subst h
      simp only [values, finiteValue, if_neg hf]

theorem values_of_none_tooLarge {literals : List Literal} (h : tooLarge? literals = none) :
    values literals = (literals.map value, none) := by
  induction literals with
  | nil => rfl
  | cons first rest ih =>
    by_cases hf : first.value.isFinite
    · rw [tooLarge?_cons_of_isFinite hf] at h
      simp only [values, finiteValue, if_pos hf, ih h, List.map_cons]
    · rw [tooLarge?_cons_of_not_isFinite hf] at h
      cases h

end Literal

/-- The text with blanks in the place of commas and without blanks at its ends. -/
def bareText (text : List Char) : List Char := strip (text.map fun c => if c = ',' then ' ' else c)

theorem bareText_eq_nil_iff {text : List Char} :
    bareText text = [] ↔ ∀ c ∈ text, Literal.isSeparator c := by
  rw [bareText, strip, trim_eq_nil_iff]
  simp only [List.forall_mem_map]
  refine forall₂_congr fun c _ => ?_
  by_cases h : c = ','
  · subst h; decide
  · simp [Literal.isSeparator, h]

/-- Why a command called `name` that takes `n` values at a time refuses the text of its
arguments, and the error that tells of it. -/
inductive Refusal (name : String) (n : Nat) (text : List Char) : ConversionError → Prop
  /-- A literal is too large for a double; the first such literal is told. -/
  | overflow {l : Literal} (first : Literal.tooLarge? (Literal.readAll text).1 = some l) :
      Refusal name n text (.malformedNumber (String.ofList l.text))
  /-- There is no number, although there is more than commas and blanks. -/
  | noNumber (none_large : Literal.tooLarge? (Literal.readAll text).1 = none)
      (no_number : (Literal.readAll text).1 = [])
      (other : ∃ c ∈ text, ¬ Literal.isSeparator c) :
      Refusal name n text (.malformedNumber (String.ofList (bareText text)))
  /-- The values cannot be used up: there is none, or they do not divide into groups. -/
  | arity (none_large : Literal.tooLarge? (Literal.readAll text).1 = none)
      (numeric : (Literal.readAll text).1 ≠ [] ∨ ∀ c ∈ text, Literal.isSeparator c)
      (count : (Literal.readAll text).1.length = 0 ∨ ¬ n ∣ (Literal.readAll text).1.length) :
      Refusal name n text (.arityMismatch name n (Literal.readAll text).1.length)

namespace Command

/-- A command without values of its own accepts any text. -/
theorem arguments_of_arity_eq_zero {c : Command} (h : c.verb.arity = 0) (name : String)
    (text : List Char) : c.arguments name text = .ok [] := by
  simp [arguments, h]

/-- A number too large for a double is the first thing that is noticed. -/
theorem arguments_of_tooLarge {c : Command} (h : 0 < c.verb.arity) (name : String)
    {text : List Char} {l : Literal}
    (large : Literal.tooLarge? (Literal.readAll text).1 = some l) :
    c.arguments name text = .error (.malformedNumber (String.ofList l.text)) := by
  have hne : c.verb.arity ≠ 0 := by omega
  have hv := Literal.values_of_tooLarge large
  rcases hp : Literal.values (Literal.readAll text).1 with ⟨values, e⟩
  simp only [hp] at hv
  simp only [arguments, hne, if_false, numbers, hp, hv]

/-- The check of numbers that doubles can hold. -/
theorem arguments_of_none_tooLarge {c : Command} (h : 0 < c.verb.arity) (name : String)
    {text : List Char} (large : Literal.tooLarge? (Literal.readAll text).1 = none) :
    c.arguments name text =
      if (Literal.readAll text).1 = [] ∧ bareText text ≠ [] then
        .error (.malformedNumber (String.ofList (bareText text)))
      else if (Literal.readAll text).1.length = 0 ∨
          ¬ c.verb.arity ∣ (Literal.readAll text).1.length then
        .error (.arityMismatch name c.verb.arity (Literal.readAll text).1.length)
      else .ok ((Literal.readAll text).1.map Literal.value) := by
  have hne : c.verb.arity ≠ 0 := by omega
  have hcount : ∀ k, (k < c.verb.arity ∨ k % c.verb.arity ≠ 0) ↔ (k = 0 ∨ ¬ c.verb.arity ∣ k) := by
    intro k
    rw [Nat.dvd_iff_mod_eq_zero]
    have := @Nat.mod_eq_of_lt k c.verb.arity
    omega
  simp only [arguments, hne, if_false, numbers, Literal.values_of_none_tooLarge large,
    List.isEmpty_map, List.length_map, Bool.and_eq_true, List.isEmpty_iff, Bool.or_eq_true,
    decide_eq_true_eq, bne_iff_ne, hcount, Bool.not_eq_true', List.isEmpty_eq_false_iff, bareText]
  congr

/-- The check fails for one of the three reasons, and with the error of that reason. -/
theorem arguments_eq_error_iff {c : Command} (name : String) (text : List Char)
    (e : ConversionError) :
    c.arguments name text = .error e ↔
      0 < c.verb.arity ∧ Refusal name c.verb.arity text e := by
  rcases Nat.eq_zero_or_pos c.verb.arity with h0 | h
  · simp [arguments_of_arity_eq_zero h0, h0]
  simp only [h, true_and]
  rcases hl : Literal.tooLarge? (Literal.readAll text).1 with _ | l
  · have other : bareText text ≠ [] ↔ ∃ c ∈ text, ¬ Literal.isSeparator c := by
      rw [Ne, bareText_eq_nil_iff]; simp
    rw [arguments_of_none_tooLarge h name hl]
    constructor
    · intro he
      split at he
      · next hn => cases he; exact .noNumber hl hn.1 (other.mp hn.2)
      · next hn =>
        split at he
        · next hc =>
          cases he
          refine .arity hl ?_ hc
          by_cases hnil : (Literal.readAll text).1 = []
          · exact .inr (bareText_eq_nil_iff.mp (not_not.mp fun hne => hn ⟨hnil, hne⟩))
          · exact .inl hnil
        · cases he
    · rintro (⟨first⟩ | ⟨-, hn, ho⟩ | ⟨-, hn, hc⟩)
      · rw [hl] at first; cases first
      · rw [if_pos ⟨hn, other.mpr ho⟩]
      · rw [if_neg, if_pos hc]
        rintro ⟨hnil, hne⟩
        rcases hn with hn | hn
        · exact hn hnil
        · exact hne (bareText_eq_nil_iff.mpr hn)
  · rw [arguments_of_tooLarge h name hl]
    constructor
    · intro he
      cases he
      exact .overflow hl
    · rintro (⟨first⟩ | ⟨hn, -, -⟩ | ⟨hn, -, -⟩)
      · rw [hl] at first; cases first; rfl
      · rw [hl] at hn; cases hn
      · rw [hl] at hn; cases hn

/-- Values pass the check when they are finite and divide into groups. -/
theorem arguments_eq_ok_iff {c : Command} (h : 0 < c.verb.arity) (name : String)
    (text : List Char) (values : List Double) :
    c.arguments name text = .ok values ↔
      Literal.tooLarge? (Literal.readAll text).1 = none ∧ values ≠ [] ∧
        c.verb.arity ∣ values.length ∧ values = (Literal.readAll text).1.map Literal.value := by
  rcases hl : Literal.tooLarge? (Literal.readAll text).1 with _ | l
  · rw [arguments_of_none_tooLarge h name hl]
    constructor
    · intro hv
      split at hv
      · cases hv
      · split at hv
        · cases hv
        · next hc =>
          cases hv
          rw [not_or, not_not] at hc
          exact ⟨rfl, by simpa using hc.1, by simpa using hc.2, rfl⟩
    · rintro ⟨-, hne, hdvd, rfl⟩
      rw [List.length_map] at hdvd
      have hnil : (Literal.readAll text).1 ≠ [] := by simpa using hne
      rw [if_neg fun hn => hnil hn.1, if_neg]
      simpa [hnil] using hdvd
  · rw [arguments_of_tooLarge h name hl]
    simp

end Command

/-! ## One command -/

/-- A command fails when it is known and its arguments are refused, and then nothing has
happened. -/
theorem execute_error_eq_some_iff (pen : Pen) (name : String) (text : List Char)
    (e : ConversionError) :
    (execute pen name text).error = some e ↔
      ∃ c, Command.ofText? name = some c ∧ c.arguments name text = .error e := by
  rw [execute]
  split
  · next hc => simp [hc]
  · next c hc =>
    simp only [hc, Option.some.injEq, exists_eq_left']
    split
    · next e' ha => simp [Trace.failed, ha]
    · next values ha => simp [Trace.ofSegments, ha]

/-- A failing command does nothing but fail. -/
theorem execute_eq_failed {pen : Pen} {name : String} {text : List Char} {e : ConversionError}
    (h : (execute pen name text).error = some e) : execute pen name text = .failed e := by
  obtain ⟨c, hc, ha⟩ := (execute_error_eq_some_iff pen name text e).mp h
  simp [execute, hc, ha]

/-- A known command whose arguments pass the check draws its segments. -/
theorem execute_eq_ofSegments {pen : Pen} {name : String} {text : List Char} {c : Command}
    {values : List Double} (hc : Command.ofText? name = some c)
    (ha : c.arguments name text = .ok values) :
    execute pen name text = .ofSegments (c.draw pen values) := by
  simp [execute, hc, ha]

namespace Session

/-- Whatever was drawn before, a single command fails exactly when it stands for a verb with
values and these are refused, and it fails with the error of the refusal.  It then leaves
the pen, the recording and the ignored commands as they were.  Otherwise the values make
whole groups, and a segment is recorded for each of them. -/
theorem execute_refused_iff (s : Session Recording) (name arguments : String) :
    (∀ e, (s.perform (.execute name arguments)).2 = some e ↔
      ∃ c cause, e = .conversion cause ∧ Command.ofText? name = some c ∧ 0 < c.verb.arity ∧
        Refusal name c.verb.arity arguments.toList cause) ∧
    ((s.perform (.execute name arguments)).2 ≠ none →
      (s.perform (.execute name arguments)).1 = s) ∧
    (∀ c, Command.ofText? name = some c → 0 < c.verb.arity →
      (s.perform (.execute name arguments)).2 = none → ∃ drawn : List Segment,
        (s.perform (.execute name arguments)).1.sink =
          s.sink ++ (drawn.map Operation.segment).toArray ∧
        drawn.length * c.verb.arity = (Literal.readAll arguments.toList).1.length) := by
  simp only [perform_eq, Step.trace]
  refine ⟨?_, ?_, ?_⟩
  · intro e
    rw [Option.map_eq_some_iff]
    simp only [execute_error_eq_some_iff, Command.arguments_eq_error_iff]
    constructor
    · rintro ⟨cause, ⟨c, hc, hpos, hr⟩, rfl⟩
      exact ⟨c, cause, rfl, hc, hpos, hr⟩
    · rintro ⟨c, cause, rfl, hc, hpos, hr⟩
      exact ⟨cause, ⟨c, hc, hpos, hr⟩, rfl⟩
  · intro h
    obtain ⟨e, he⟩ := Option.ne_none_iff_exists'.mp h
    obtain ⟨cause, hcause, -⟩ := Option.map_eq_some_iff.mp he
    rw [execute_eq_failed hcause, extend_failed]
  · intro c hc hpos h
    rcases ha : c.arguments name arguments.toList with e | values
    · have he := (execute_error_eq_some_iff s.pen name arguments.toList e).mpr ⟨c, hc, ha⟩
      simp [he] at h
    · obtain ⟨-, -, hdvd, hvalues⟩ := (Command.arguments_eq_ok_iff hpos name _ values).mp ha
      refine ⟨c.draw s.pen values, ?_, ?_⟩
      · simp [execute_eq_ofSegments hc ha, extend]
      · rw [Command.length_draw c s.pen hdvd hpos, hvalues, List.length_map]

end Session

end PathData

end SvgDrawing
