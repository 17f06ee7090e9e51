import SvgDrawing.Proofs.PathData.Composition

/-!
# Commands that draw nothing

Arcs and quadratic curves are commands that the pen does not know.  Path data may contain them
anywhere: they are noted, and the commands around them draw what they would draw without them.
A smooth curve still continues the curve before the gap, since an ignored command does not reach
the pen.

Taking the ignored commands out of a text cuts it into pieces that all begin with a letter, so
putting the others together again gives the same commands.  Which commands are noted is decided
by the first command that is refused; no refusal depends on the pen.

## Main definitions

* `isIgnoredLetter c`, `Token.isIgnored` — the commands that draw nothing.
* `Token.refusal?` — why a command is refused.
* `accepted tokens` — the commands in front of the first one that is refused.
* `withoutIgnored d` — path data without the ignored commands.

## Main statements

* `tokenize_withoutIgnored` — nothing else is changed in the text.
* `error_runTokens`, `diagnostics_runTokens`, `segments_runTokens_filter` — what a run gives.
* `Session.run_withoutIgnored` — a recorded session that is given either text.
-/
namespace SvgDrawing.PathData

/-! ## Commands that are ignored -/

/-- The letters of commands that the pen does not know: arcs and quadratic curves. -/
def isIgnoredLetter (c : Char) : Bool := "AaQqTt".toList.contains c

/-- Of the letters that begin a command, these are the ones that stand for no verb. -/
theorem ofText?_eq_none_iff {c : Char} (h : isCommandLetter c) :
    Command.ofText? (String.ofList [c]) = none ↔ isIgnoredLetter c := by
  have hall : "MmLlCcVvHhSsQqTtAaZz".toList.all fun c =>
      decide (Command.ofText? (String.ofList [c]) = none ↔ isIgnoredLetter c) := by decide
  exact of_decide_eq_true (List.all_eq_true.mp hall c (by simpa [isCommandLetter] using h))

namespace Token

/-- The command is one that draws nothing. -/
def isIgnored (t : Token) : Bool := isIgnoredLetter t.letter

/-- What is noted about a command that is ignored. -/
def diagnostic (t : Token) : Diagnostic :=
  ⟨String.ofList [t.letter], String.ofList (Text.strip t.arguments)⟩

end Token

/-- Path data without the ignored commands, and without what stands in front of the first
command. -/
def withoutIgnored (d : String) : String :=
  String.ofList (((tokenize d.toList).filter fun t => !t.isIgnored).flatMap Token.text)

/-- The other commands are the same ones as before. -/
theorem tokenize_withoutIgnored (d : String) :
    tokenize (withoutIgnored d).toList = (tokenize d.toList).filter fun t => !t.isIgnored := by
  rw [withoutIgnored, String.toList_ofList, tokenize, Token.cut_flatMap_text]
  intro t ht
  exact isProper_of_mem_tokenize (List.mem_filter.mp ht).1

/-! ## What is refused -/

/-- Why a command is refused, if it is. -/
def Token.refusal? (t : Token) : Option ConversionError :=
  match Command.ofText? (String.ofList [t.letter]) with
  | none => none
  | some c => error? (c.arguments (String.ofList [t.letter]) t.arguments)

/-- A command fails whatever was drawn before, or it does not. -/
theorem error_execute (pen : Pen) (t : Token) :
    (execute pen (String.ofList [t.letter]) t.arguments).error = t.refusal? := by
  rw [execute, Token.refusal?]
  cases Command.ofText? (String.ofList [t.letter]) with
  | none => rfl
  | some c =>
    simp only
    cases c.arguments (String.ofList [t.letter]) t.arguments with
    | error e => rfl
    | ok values => rfl

/-- An ignored command is noted, and nothing else happens. -/
theorem execute_of_isIgnored {t : Token} (h : t.IsProper) (hignored : t.isIgnored) (pen : Pen) :
    execute pen (String.ofList [t.letter]) t.arguments = ⟨[.ignored t.diagnostic], none⟩ := by
  rw [execute, (ofText?_eq_none_iff h.letter).mpr hignored]
  rfl

/-- Another command is not noted. -/
theorem diagnostics_execute {t : Token} (h : t.IsProper) (hignored : ¬ t.isIgnored) (pen : Pen) :
    (execute pen (String.ofList [t.letter]) t.arguments).diagnostics = [] := by
  cases hc : Command.ofText? (String.ofList [t.letter]) with
  | none => exact absurd ((ofText?_eq_none_iff h.letter).mp hc) hignored
  | some c =>
    cases ha : c.arguments (String.ofList [t.letter]) t.arguments with
    | error e =>
      have herror := (execute_error_eq_some_iff pen _ _ e).mpr ⟨c, hc, ha⟩
      rw [execute_eq_failed herror]
      rfl
    | ok values => rw [execute_eq_ofSegments hc ha, Trace.diagnostics_ofSegments]

theorem Token.refusal?_of_isIgnored {t : Token} (h : t.IsProper) (hignored : t.isIgnored) :
    t.refusal? = none := by
  rw [← error_execute .fresh t, execute_of_isIgnored h hignored]

/-! ## Runs -/

/-- The commands in front of the first one that is refused. -/
def accepted (tokens : List Token) : List Token := tokens.takeWhile fun t => t.refusal?.isNone

/-- A run ends with the first refusal. -/
theorem error_runTokens (pen : Pen) (tokens : List Token) :
    (runTokens pen tokens).error = tokens.findSome? Token.refusal? := by
  induction tokens generalizing pen with
  | nil => rfl
  | cons t rest ih =>
    rw [runTokens, List.findSome?_cons, ← error_execute pen t]
    cases hfirst : (execute pen (String.ofList [t.letter]) t.arguments).error with
    | some e => rw [Trace.andThen_of_error hfirst, hfirst]
    | none => simp only [Trace.andThen, hfirst, ih]

theorem Trace.diagnostics_andThen {t : Trace} (h : t.error = none) (next : Trace) :
    (t.andThen next).diagnostics = t.diagnostics ++ next.diagnostics := by
  simp [andThen, h, diagnostics]

/-- A run notes the ignored commands in front of the first refusal. -/
theorem diagnostics_runTokens (pen : Pen) {tokens : List Token} (h : ∀ t ∈ tokens, t.IsProper) :
    (runTokens pen tokens).diagnostics =
      ((accepted tokens).filter Token.isIgnored).map Token.diagnostic := by
  induction tokens generalizing pen with
  | nil => rfl
  | cons t rest ih =>
    rw [List.forall_mem_cons] at h
    rw [runTokens, accepted, List.takeWhile_cons, ← error_execute pen t]
    cases hfirst : (execute pen (String.ofList [t.letter]) t.arguments).error with
    | some e =>
      rw [Trace.andThen_of_error hfirst, execute_eq_failed hfirst]
      rfl
    | none =>
      rw [Trace.diagnostics_andThen hfirst, ih _ h.2]
      by_cases hignored : t.isIgnored
      · rw [execute_of_isIgnored h.1 hignored]
        simp [hignored, accepted]
      · rw [diagnostics_execute h.1 hignored]
        simp [hignored, accepted]

/-- The other commands draw the same without the ignored ones. -/
theorem segments_runTokens_filter (pen : Pen) {tokens : List Token}
    (h : ∀ t ∈ tokens, t.IsProper) :
    (runTokens pen (tokens.filter fun t => !t.isIgnored)).segments =
      (runTokens pen tokens).segments := by
  induction tokens generalizing pen with
  | nil => rfl
  | cons t rest ih =>
    rw [List.forall_mem_cons] at h
    by_cases hignored : t.isIgnored
    · -- the pen is the same after a command that is only noted
      have hfirst := execute_of_isIgnored h.1 hignored pen
      have hpen : Trace.penAfter pen ⟨[.ignored t.diagnostic], none⟩ = pen := rfl
      rw [List.filter_cons_of_neg (by simp [hignored]), runTokens, hfirst,
        Trace.segments_andThen rfl, hpen, ih pen h.2]
      rfl
    · rw [List.filter_cons_of_pos (by simp [hignored]), runTokens, runTokens]
      cases hfirst : (execute pen (String.ofList [t.letter]) t.arguments).error with
      | some e => rw [Trace.andThen_of_error hfirst, Trace.andThen_of_error hfirst]
      | none => rw [Trace.segments_andThen hfirst, Trace.segments_andThen hfirst, ih _ h.2]

/-- The refusals are those of the other commands. -/
theorem findSome?_refusal?_filter {tokens : List Token} (h : ∀ t ∈ tokens, t.IsProper) :
    (tokens.filter fun t => !t.isIgnored).findSome? Token.refusal? =
      tokens.findSome? Token.refusal? := by
  induction tokens with
  | nil => rfl
  | cons t rest ih =>
    rw [List.forall_mem_cons] at h
    by_cases hignored : t.isIgnored
    · simp [hignored, Token.refusal?_of_isIgnored h.1 hignored, ih h.2]
    · simp [hignored, List.findSome?_cons, ih h.2]

/-! ## Sessions -/

namespace Session

/-- Path data and the same data without the ignored commands draw and record the same, leave the
same pen, and fail at the first command that is refused, with the same error.  The shorter text
notes and logs nothing.  The longer one notes each ignored command in front of the refused one,
in order, with its letter and its arguments without the blanks around them, and logs a warning for
each of them. -/
theorem run_withoutIgnored (s : Session Recording) (d : String) :
    (s.perform (.run (withoutIgnored d))).1.sink = (s.perform (.run d)).1.sink ∧
    (s.perform (.run (withoutIgnored d))).1.pen = (s.perform (.run d)).1.pen ∧
    (s.perform (.run (withoutIgnored d))).2 = (s.perform (.run d)).2 ∧
    (s.perform (.run d)).2 =
      ((tokenize d.toList).findSome? Token.refusal?).map .conversion ∧
    (s.perform (.run (withoutIgnored d))).1.diagnostics = s.diagnostics ∧
    (s.perform (.run d)).1.diagnostics = s.diagnostics ++
      (((accepted (tokenize d.toList)).filter Token.isIgnored).map Token.diagnostic).toArray ∧
    (run s.pen (withoutIgnored d)).log = [] ∧
    (run s.pen d).log = ((accepted (tokenize d.toList)).filter Token.isIgnored).map
      fun t => Log.ofDiagnostic t.diagnostic := by
  have hproper : ∀ t ∈ tokenize d.toList, t.IsProper := fun t => isProper_of_mem_tokenize
  have hshorter : ∀ t ∈ (tokenize d.toList).filter fun t => !t.isIgnored, t.IsProper :=
    fun t ht => hproper t (List.mem_filter.mp ht).1
  have hsegments : (run s.pen (withoutIgnored d)).segments = (run s.pen d).segments := by
    rw [run, tokenize_withoutIgnored, segments_runTokens_filter s.pen hproper, run]
  have herror : (run s.pen (withoutIgnored d)).error = (run s.pen d).error := by
    rw [run, tokenize_withoutIgnored, run, error_runTokens, error_runTokens,
      findSome?_refusal?_filter hproper]
  have hnoted : (run s.pen d).diagnostics =
      ((accepted (tokenize d.toList)).filter Token.isIgnored).map Token.diagnostic :=
    diagnostics_runTokens s.pen hproper
  have hnone : (run s.pen (withoutIgnored d)).diagnostics = [] := by
    rw [run, tokenize_withoutIgnored, diagnostics_runTokens s.pen hshorter, List.map_eq_nil_iff,
      List.filter_eq_nil_iff]
    intro t ht
    have hmem := (List.takeWhile_sublist _).subset ht
    simpa using (List.mem_filter.mp hmem).2
  simp only [perform_eq, Step.trace, extend, Trace.penAfter, hsegments, herror, hnone, hnoted,
    Trace.log, List.map_nil, List.map_map, Array.append_empty, true_and]
  refine ⟨?_, rfl⟩
  rw [run, error_runTokens]

example : withoutIgnored " M1 1q0 0 1 1c1 1 2 2 3 3T5 5s1 1 2 2" = "M1 1c1 1 2 2 3 3s1 1 2 2" := by
  decide

end Session

end SvgDrawing.PathData
