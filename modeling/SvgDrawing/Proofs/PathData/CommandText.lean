import SvgDrawing.Proofs.PathData.Admission
import SvgDrawing.Proofs.Text.UpperCase

/-!
# Which texts are commands

A single command is given by a text, and the upper case of the text says what it does.  The capitals
of the fourteen letters are meant, but upper case reaches further than these letters: the long `ſ`
has the capital `S`.  It is the only other text that does anything, and what it does is to continue
a smooth curve, with coordinates from the current point since it is not a capital.

Whatever the pen has drawn before and wherever it draws, each other text is noted together with its
arguments and leaves everything else as it was (`Session.execute_other_text`).
-/
namespace SvgDrawing.PathData

open Text

/-! ## Letters -/

/-- The letters of commands that the pen knows. -/
def isKnownLetter (c : Char) : Bool := "MmLlCcVvHhSsZz".toList.contains c

theorem ascii_of_isKnownLetter {c : Char} (h : isKnownLetter c) : c.toNat < 128 := by
  have hall : "MmLlCcVvHhSsZz".toList.all fun c => decide (c.toNat < 128) := by decide
  exact of_decide_eq_true (List.all_eq_true.mp hall c (by simpa [isKnownLetter] using h))

namespace Command

/-- The characters that are commands: fourteen letters, and one more. -/
theorem ofLetter?_ne_none_iff (c : Char) : ofLetter? c ≠ none ↔ isKnownLetter c ∨ c = 'ſ' := by
  constructor
  · unfold ofLetter?
    split
    all_goals first
      | exact fun _ => .inl (by decide)
      | exact fun _ => .inr rfl
      | exact fun h => absurd rfl h
  · have hall : "MmLlCcVvHhSsZz".toList.all fun c => decide (ofLetter? c ≠ none) := by decide
    intro h
    rcases h with h | rfl
    · exact of_decide_eq_true (List.all_eq_true.mp hall c (by simpa [isKnownLetter] using h))
    · decide

/-- Texts of any other length than one are no commands. -/
theorem ofText?_ne_none_iff (s : String) :
    ofText? s ≠ none ↔ (∃ c, isKnownLetter c ∧ s = String.ofList [c]) ∨ s = "ſ" := by
  have hsingle : ∀ c, s = String.ofList [c] ↔ s.toList = [c] := by
    intro c
    rw [← String.toList_inj, String.toList_ofList]
  simp only [hsingle]
  rw [ofText?]
  split
  · next c hc =>
    rw [ofLetter?_ne_none_iff, hc]
    simp only [List.cons.injEq, and_true, exists_eq_right']
  · next hother =>
    constructor
    · exact fun h => absurd rfl h
    · intro h
      rcases h with ⟨c, -, hc⟩ | hc
      · exact absurd hc (hother c)
      · exact absurd hc (hother 'ſ')

/-- Other texts than the fourteen letters are no commands, but for one. -/
theorem ofText?_eq_none_iff_ne {s : String} (h : ∀ c, isKnownLetter c → s ≠ String.ofList [c]) :
    ofText? s = none ↔ s ≠ "ſ" := by
  rw [← not_iff_not, not_not, ← ne_eq, ofText?_ne_none_iff]
  constructor
  · intro hs
    rcases hs with ⟨c, hc, heq⟩ | heq
    · exact absurd heq (h c hc)
    · exact heq
  · exact .inr

theorem ofText?_long_s : ofText? "ſ" = some ⟨.smoothTo, true⟩ := by decide

end Command

/-! ## Upper case -/

/-- What a text in upper case makes the pen do. -/
def Verb.ofCapital? : List Char → Option Verb
  | ['M'] => some .moveTo
  | ['L'] => some .lineTo
  | ['C'] => some .cubicTo
  | ['V'] => some .verticalTo
  | ['H'] => some .horizontalTo
  | ['S'] => some .smoothTo
  | ['Z'] => some .closePath
  | _ => none

/-- The capitals are single ASCII characters. -/
theorem Verb.exists_ascii_of_ofCapital? {s : List Char} (h : ofCapital? s ≠ none) :
    ∃ c : Char, s = [c] ∧ c.toNat < 128 := by
  revert h
  unfold ofCapital?
  split
  all_goals first
    | exact fun _ => ⟨_, rfl, by decide⟩
    | exact fun h => absurd rfl h

namespace Command

/-- The command of a character goes by its capital, and it is relative if that is another one. -/
theorem ofLetter?_eq (c : Char) :
    ofLetter? c = (Verb.ofCapital? (capital c)).map fun verb => ⟨verb, capital c != [c]⟩ := by
  by_cases hascii : c.toNat < 128
  · rw [capital_of_ascii hascii]
    refine forall_ascii (P := fun c => ofLetter? c =
      (Verb.ofCapital? [c.toUpper]).map fun verb => ⟨verb, [c.toUpper] != [c]⟩) ?_ hascii
    decide +kernel
  · by_cases hlong : c = 'ſ'
    · subst hlong
      decide +kernel
    · have hletter : ofLetter? c = none := by
        by_contra hne
        rcases (ofLetter?_ne_none_iff c).mp hne with hknown | rfl
        · exact hascii (ascii_of_isKnownLetter hknown)
        · exact hlong rfl
      have hcapital : Verb.ofCapital? (capital c) = none := by
        by_contra hne
        obtain ⟨d, hd, hdascii⟩ := Verb.exists_ascii_of_ofCapital? hne
        rcases ascii_of_capital_eq hd hdascii with h | rfl | h
        · exact hascii h
        · -- the capital of the dotless letter is no command
          exact hne (by decide +kernel)
        · exact hlong h
      rw [hletter, hcapital, Option.map_none]

/-- The command of a text goes by its upper case, and it is relative if the text is not in upper
case. -/
theorem ofText?_eq (s : String) :
    ofText? s = (Verb.ofCapital? (upperCase s.toList)).map fun verb =>
      ⟨verb, upperCase s.toList != s.toList⟩ := by
  rw [ofText?]
  split
  · next c hc =>
    rw [hc, upperCase, List.flatMap_singleton, ofLetter?_eq]
  · next hother =>
    have hcapital : Verb.ofCapital? (upperCase s.toList) = none := by
      by_contra hne
      obtain ⟨c, hc, -⟩ := Verb.exists_ascii_of_ofCapital? hne
      obtain ⟨d, hd, -⟩ := upperCase_eq_singleton_iff.mp hc
      exact hother d hd
    rw [hcapital, Option.map_none]

/-- The name of a command has no influence on its values. -/
theorem arguments_eq_ok_of_name {c : Command} (h : 0 < c.verb.arity) {name : String}
    (other : String) {text : List Char} {values : List Double}
    (hvalues : c.arguments name text = .ok values) : c.arguments other text = .ok values := by
  rw [arguments_eq_ok_iff h] at hvalues ⊢
  exact hvalues

end Command

/-! ## One command -/

/-- A text that is no command is noted, and nothing else happens. -/
theorem execute_of_ofText?_eq_none {name : String} (h : Command.ofText? name = none) (pen : Pen)
    (text : List Char) :
    execute pen name text = ⟨[.ignored ⟨name, String.ofList (strip text)⟩], none⟩ := by
  rw [execute, h]

/-- Two texts for the same command draw the same and fail together. -/
theorem execute_alike {name other : String} {c : Command} (hname : Command.ofText? name = some c)
    (hother : Command.ofText? other = some c) (h : 0 < c.verb.arity) (pen : Pen)
    (text : List Char) :
    (execute pen name text).events = (execute pen other text).events ∧
      ((execute pen name text).error = none ↔ (execute pen other text).error = none) := by
  rw [execute, execute, hname, hother]
  simp only
  cases hv : c.arguments name text with
  | ok values =>
    rw [Command.arguments_eq_ok_of_name h other hv]
    exact ⟨rfl, Iff.rfl⟩
  | error e =>
    cases hw : c.arguments other text with
    | ok values =>
      rw [Command.arguments_eq_ok_of_name h name hw] at hv
      cases hv
    | error e' => exact ⟨rfl, by simp [Trace.failed]⟩

namespace Session

variable {σ ε : Type} [Sink σ ε]

/-- Steps whose traces have the same events, and fail together, change a session alike. -/
theorem perform_alike (s : Session σ) (step other : Step)
    (hevents : (step.trace s.pen).events = (other.trace s.pen).events)
    (herror : (step.trace s.pen).error = none ↔ (other.trace s.pen).error = none) :
    (s.perform step).1 = (s.perform other).1 ∧
      ((s.perform step).2 = none ↔ (s.perform other).2 = none) := by
  simp only [perform, hevents]
  split
  · exact ⟨rfl, Iff.rfl⟩
  · exact ⟨rfl, by simp [herror]⟩

/-- Drawing adds no notes, whether or not the sink refuses a segment. -/
theorem diagnostics_absorb_drawn (s : Session σ) (segments : List Segment) :
    (s.absorb (segments.map .drawn)).1.diagnostics = s.diagnostics := by
  induction segments generalizing s with
  | nil => rfl
  | cons segment rest ih =>
    rw [List.map_cons, absorb]
    simp only
    split
    · rfl
    · rw [ih]

/-- A session that is given a text that is no command notes it, and that is all. -/
theorem perform_of_ofText?_eq_none {name : String} (h : Command.ofText? name = none)
    (s : Session σ) (arguments : String) :
    s.perform (.execute name arguments) =
      ({ s with diagnostics := s.diagnostics.push ⟨name, String.ofList (strip arguments.toList)⟩ },
        none) := by
  have htrace := execute_of_ofText?_eq_none h s.pen arguments.toList
  simp only [perform, Step.trace, htrace, absorb, Option.map_none]

/-- A command notes nothing. -/
theorem diagnostics_perform_execute {name : String} {c : Command}
    (h : Command.ofText? name = some c) (s : Session σ) (arguments : String) :
    (s.perform (.execute name arguments)).1.diagnostics = s.diagnostics := by
  have hevents : ∃ segments : List Segment,
      (execute s.pen name arguments.toList).events = segments.map .drawn := by
    rw [execute, h]
    simp only
    split
    · exact ⟨[], rfl⟩
    · next values hvalues => exact ⟨c.draw s.pen values, rfl⟩
  obtain ⟨segments, hsegments⟩ := hevents
  have hdrawn := diagnostics_absorb_drawn s segments
  simp only [perform, Step.trace, hsegments]
  split
  · next hs => rw [hs] at hdrawn; exact hdrawn
  · next hs => rw [hs] at hdrawn; exact hdrawn

/-- A text that is none of the fourteen letters is noted with its arguments without the blanks
around them, draws nothing, and leaves the pen and the sink as they were, unless it is the long `ſ`.
This is because no other text has one of the seven capitals as its upper case.  The long `ſ` itself
notes nothing, and changes a session as `s` does. -/
theorem execute_other_text {name : String}
    (h : ∀ c, isKnownLetter c → name ≠ String.ofList [c]) (s : Session σ) (arguments : String) :
    let noted : Diagnostic := ⟨name, String.ofList (strip arguments.toList)⟩
    ((execute s.pen name arguments.toList = ⟨[.ignored noted], none⟩ ∧
        s.perform (.execute name arguments) =
          ({ s with diagnostics := s.diagnostics.push noted }, none)) ↔ name ≠ "ſ") ∧
    (Verb.ofCapital? (upperCase name.toList) = none ↔ name ≠ "ſ") ∧
    (name = "ſ" →
      (s.perform (.execute name arguments)).1 = (s.perform (.execute "s" arguments)).1 ∧
      ((s.perform (.execute name arguments)).2 = none ↔
        (s.perform (.execute "s" arguments)).2 = none) ∧
      (s.perform (.execute name arguments)).1.diagnostics = s.diagnostics) := by
  intro noted
  have hnone := Command.ofText?_eq_none_iff_ne h
  refine ⟨⟨?_, ?_⟩, ?_, ?_⟩
  · intro hnoted heq
    subst heq
    have hsame := diagnostics_perform_execute Command.ofText?_long_s s arguments
    rw [hnoted.2] at hsame
    have hsize := congrArg Array.size hsame
    rw [Array.size_push] at hsize
    omega
  · intro hname
    exact ⟨execute_of_ofText?_eq_none (hnone.mpr hname) s.pen arguments.toList,
      perform_of_ofText?_eq_none (hnone.mpr hname) s arguments⟩
  · rw [← hnone, Command.ofText?_eq, Option.map_eq_none_iff]
  · intro heq
    subst heq
    have hshort : Command.ofText? "s" = some ⟨.smoothTo, true⟩ := by decide
    obtain ⟨hevents, herror⟩ :=
      execute_alike Command.ofText?_long_s hshort (by decide) s.pen arguments.toList
    obtain ⟨hsession, hfails⟩ :=
      perform_alike s (.execute "ſ" arguments) (.execute "s" arguments) hevents herror
    exact ⟨hsession, hfails, diagnostics_perform_execute Command.ofText?_long_s s arguments⟩

/-- The long `ſ` draws a curve from the start of a new path, where nothing is noted. -/
theorem execute_long_s_draws :
    (∀ c, isKnownLetter c → "ſ" ≠ String.ofList [c]) ∧
    ((new #[] : Session Recording).perform (.execute "ſ" "1 2 3 4")).2 = none ∧
    ((new #[] : Session Recording).perform (.execute "ſ" "1 2 3 4")).1.diagnostics = #[] ∧
    ((new #[] : Session Recording).perform (.execute "ſ" "1 2 3 4")).1.sink =
      #[.segment (.cubicTo .origin ⟨.ofNat 1, .ofNat 2⟩ ⟨.ofNat 3, .ofNat 4⟩)] := by
  have hother : ∀ c, isKnownLetter c → "ſ" ≠ String.ofList [c] := by
    intro c hc heq
    have hcode := ascii_of_isKnownLetter hc
    have hc : ['ſ'] = [c] := by simpa using congrArg String.toList heq
    rw [← List.head_eq_of_cons_eq hc] at hcode
    exact absurd hcode (by decide)
  obtain ⟨-, -, hlong⟩ := execute_other_text hother (new #[] : Session Recording) "1 2 3 4"
  obtain ⟨hsame, hfails, hnoted⟩ := hlong rfl
  refine ⟨hother, hfails.mpr (by decide +kernel), hnoted, ?_⟩
  rw [hsame]
  decide +kernel

end Session

end SvgDrawing.PathData
