import SvgDrawing.Proofs.PathData.Calls
import SvgDrawing.Proofs.PathData.Tokens

/-!
# Path data in parts

Path data can be cut in front of any command letter: the tokens of the whole are those of
the parts, and carrying out the whole is carrying out one part after the other, as long as
nothing fails.  No command looks at what follows it, and a refused command leaves nothing
behind, so data that fail have the effect of the commands in front of the failing one.

Both hold whatever the sink, and also where the sink refuses a segment.

## Main definitions

* `BeginsWithCommand s` — a text that begins with a command letter.
* `Session.performThen` — one step and then another, unless the first fails.
* `firstCommands k d` — path data cut after the first `k` commands.

## Main statements

* `tokenize_append`, `run_append` — tokens and traces of two parts.
* `Session.perform_run_append` — a session that is given two parts.
* `Session.perform_run_eq_refused_iff` — where path data fail, and what they leave.
-/
namespace SvgDrawing.PathData

/-! ## Tokens -/

/-- The first character is a command letter. -/
def BeginsWithCommand (s : List Char) : Prop := ∃ c rest, s = c :: rest ∧ isCommandLetter c

namespace Token

/-- What follows a text from a command letter on only adds tokens to it. -/
theorem cut_append {back : List Char} (h : BeginsWithCommand back) (front : List Char) :
    cut (front ++ back) = ((cut front).1, (cut front).2 ++ (cut back).2) := by
  have hback : (cut back).1 = [] := by
    obtain ⟨c, rest, rfl, hc⟩ := h
    simp [cut, hc]
  have happend := append_cut back
  rw [hback, List.nil_append] at happend
  obtain ⟨hfront, htokens⟩ := isProper_of_mem_cut front
  refine cut_eq_iff.mpr ⟨hfront, ?_, ?_⟩
  · exact List.forall_mem_append.mpr ⟨htokens, (isProper_of_mem_cut back).2⟩
  · rw [List.flatMap_append, happend, ← List.append_assoc, append_cut]

/-- A text of which only the first tokens are kept has these tokens. -/
theorem cut_take (k : Nat) (s : List Char) :
    cut ((cut s).1 ++ ((cut s).2.take k).flatMap text) = ((cut s).1, (cut s).2.take k) := by
  obtain ⟨hfront, htokens⟩ := isProper_of_mem_cut s
  exact cut_eq_iff.mpr ⟨hfront, fun t ht => htokens t (List.mem_of_mem_take ht), rfl⟩

end Token

theorem tokenize_append {back : List Char} (h : BeginsWithCommand back) (front : List Char) :
    tokenize (front ++ back) = tokenize front ++ tokenize back := by
  simp only [tokenize, Token.cut_append h]

/-- Path data up to the end of the first `k` commands. -/
def firstCommands (k : Nat) (d : String) : String :=
  String.ofList ((Token.cut d.toList).1 ++ ((tokenize d.toList).take k).flatMap Token.text)

@[simp] theorem tokenize_firstCommands (k : Nat) (d : String) :
    tokenize (firstCommands k d).toList = (tokenize d.toList).take k := by
  simp only [firstCommands, String.toList_ofList, tokenize, Token.cut_take]

/-! ## Traces -/

namespace Trace

theorem penAfter_andThen {t : Trace} (h : t.error = none) (next : Trace) (pen : Pen) :
    (t.andThen next).penAfter pen = next.penAfter (t.penAfter pen) := by
  simp only [penAfter, segments_andThen h, Pen.afterAll, List.foldl_append]

theorem andThen_of_error {t : Trace} {e : ConversionError} (h : t.error = some e) (next : Trace) :
    t.andThen next = t := by
  simp only [andThen, h]

end Trace

/-- Tokens one part after the other, the second from where the first ended. -/
theorem runTokens_append (pen : Pen) (front back : List Token) :
    runTokens pen (front ++ back) =
      (runTokens pen front).andThen (runTokens ((runTokens pen front).penAfter pen) back) := by
  induction front generalizing pen with
  | nil => rfl
  | cons t rest ih =>
    simp only [List.cons_append, runTokens, ih, ← Trace.andThen_assoc]
    cases hfirst : (execute pen (String.ofList [t.letter]) t.arguments).error with
    | none => rw [Trace.penAfter_andThen hfirst]
    | some e => simp only [Trace.andThen_of_error hfirst]

/-- Path data one part after the other. -/
theorem run_append (pen : Pen) (front : String) {back : String}
    (h : BeginsWithCommand back.toList) :
    run pen (front ++ back) = (run pen front).andThen (run ((run pen front).penAfter pen) back) := by
  simp only [run, String.toList_append, tokenize_append h, runTokens_append]

/-! ## The command that fails -/

/-- The token with number `k` is refused when the tokens in front of it have been carried
out. -/
structure RefusedAt (pen : Pen) (tokens : List Token) (k : Nat) (t : Token)
    (e : ConversionError) : Prop where
  getElem? : tokens[k]? = some t
  front : (runTokens pen (tokens.take k)).error = none
  refused : execute ((runTokens pen (tokens.take k)).penAfter pen) (String.ofList [t.letter])
    t.arguments = .failed e

/-- Up to a refused token everything has happened, and nothing after it. -/
theorem RefusedAt.runTokens_eq {pen : Pen} {tokens : List Token} {k : Nat} {t : Token}
    {e : ConversionError} (h : RefusedAt pen tokens k t e) :
    runTokens pen tokens = ⟨(runTokens pen (tokens.take k)).events, some e⟩ := by
  have hdrop : tokens.drop k = t :: tokens.drop (k + 1) := by
    obtain ⟨hk, ht⟩ := List.getElem?_eq_some_iff.mp h.getElem?
    rw [List.drop_eq_getElem_cons hk, ht]
  calc
    runTokens pen tokens = runTokens pen (tokens.take k ++ tokens.drop k) := by
      rw [List.take_append_drop]
    _ = (runTokens pen (tokens.take k)).andThen (.failed e) := by
      rw [runTokens_append, hdrop, runTokens, h.refused]
      rfl
    _ = ⟨(runTokens pen (tokens.take k)).events, some e⟩ := by
      simp only [Trace.andThen, h.front, Trace.failed, List.append_nil]

/-- Tokens fail because one of them is refused. -/
theorem exists_refusedAt {pen : Pen} {tokens : List Token} {e : ConversionError}
    (h : (runTokens pen tokens).error = some e) : ∃ k t, RefusedAt pen tokens k t e := by
  induction tokens generalizing pen with
  | nil => cases h
  | cons t rest ih =>
    simp only [runTokens] at h
    cases hfirst : (execute pen (String.ofList [t.letter]) t.arguments).error with
    | some cause =>
      rw [Trace.andThen_of_error hfirst, hfirst] at h
      cases h
      exact ⟨0, t, rfl, rfl, execute_eq_failed hfirst⟩
    | none =>
      rw [Trace.andThen, hfirst] at h
      obtain ⟨k, t', hrefused⟩ := ih h
      refine ⟨k + 1, t', hrefused.getElem?, ?_, ?_⟩
      · simp only [List.take_succ_cons, runTokens]
        exact Trace.error_andThen_eq_none_iff.mpr ⟨hfirst, hrefused.front⟩
      · simp only [List.take_succ_cons, runTokens, Trace.penAfter_andThen hfirst]
        exact hrefused.refused

/-! ## Sessions -/

namespace Session

variable {σ ε : Type} [Sink σ ε]

/-- Events one part after the other, unless a segment of the first part is refused. -/
theorem absorb_append (s : Session σ) (front back : List Event) :
    s.absorb (front ++ back) =
      match s.absorb front with
      | (s', none) => s'.absorb back
      | (s', some e) => (s', some e) := by
  induction front generalizing s with
  | nil => rfl
  | cons event rest ih =>
    cases event with
    | ignored d => exact ih _
    | drawn segment =>
      simp only [List.cons_append, absorb]
      cases Sink.emit s.sink (.segment segment) with
      | error e => rfl
      | ok sink => exact ih _

/-- Where the sink refuses nothing, the pen has drawn all segments. -/
theorem pen_absorb {s s' : Session σ} {t : Trace} (h : s.absorb t.events = (s', none)) :
    s'.pen = t.penAfter s.pen := by
  obtain ⟨events, error⟩ := t
  induction events generalizing s with
  | nil =>
    cases h
    rfl
  | cons event rest ih =>
    cases event with
    | ignored d => exact ih (s := { s with diagnostics := s.diagnostics.push d }) h
    | drawn segment =>
      simp only [absorb] at h
      cases hsink : Sink.emit s.sink (.segment segment) with
      | error e => rw [hsink] at h; cases h
      | ok sink =>
        rw [hsink] at h
        exact ih h

/-- A step is stopped by the sink, or it fails as its trace does. -/
theorem perform_eq_iff (s s' : Session σ) (step : Step) (cause : Option ConversionError) :
    s.perform step = (s', cause.map .conversion) ↔
      s.absorb (step.trace s.pen).events = (s', none) ∧ (step.trace s.pen).error = cause := by
  rw [perform]
  cases habsorb : s.absorb (step.trace s.pen).events with
  | mk s'' refusal =>
    cases refusal with
    | some e => cases cause <;> simp
    | none =>
      have hmap : ∀ a b : Option ConversionError,
          a.map (StepError.conversion (ε := ε)) = b.map .conversion ↔ a = b := by
        intro a b
        cases a <;> cases b <;> simp
      simp [hmap]

/-- One step and then another, unless the first fails. -/
def performThen (s : Session σ) (first second : Step) : Session σ × Option (StepError ε) :=
  match s.perform first with
  | (s', none) => s'.perform second
  | (s', some e) => (s', some e)

/-- Path data one part after the other, unless the first part fails or a segment of it is
refused. -/
theorem perform_run_append (s : Session σ) (front : String) {back : String}
    (h : BeginsWithCommand back.toList) :
    s.perform (.run (front ++ back)) = s.performThen (.run front) (.run back) := by
  have hrun := run_append s.pen front h
  simp only [performThen, perform, Step.trace, hrun]
  cases herror : (run s.pen front).error with
  | some e =>
    rw [Trace.andThen_of_error herror]
    cases hfront : s.absorb (run s.pen front).events with
    | mk s' refusal => cases refusal <;> simp [herror]
  | none =>
    simp only [Trace.andThen, herror, absorb_append]
    cases hfront : s.absorb (run s.pen front).events with
    | mk s' refusal =>
      cases refusal with
      | some e => rfl
      | none => simp [pen_absorb hfront]

/-- Path data fail at a command that is refused after those in front of it, and they leave
what these leave. -/
theorem perform_run_eq_refused_iff (s s' : Session σ) (d : String) (e : ConversionError) :
    s.perform (.run d) = (s', some (.conversion e)) ↔
      ∃ k t, (tokenize d.toList)[k]? = some t ∧
        s.perform (.run (firstCommands k d)) = (s', none) ∧
        s'.perform (.execute (String.ofList [t.letter]) (String.ofList t.arguments)) =
          (s', some (.conversion e)) := by
  have hfront : ∀ k, run s.pen (firstCommands k d) =
      runTokens s.pen ((tokenize d.toList).take k) := by
    intro k
    rw [run, tokenize_firstCommands]
  constructor
  · intro h
    obtain ⟨habsorb, herror⟩ := (perform_eq_iff s s' (.run d) (some e)).mp h
    obtain ⟨k, t, hrefused⟩ := exists_refusedAt herror
    have hevents : s.absorb (runTokens s.pen ((tokenize d.toList).take k)).events = (s', none) := by
      rw [Step.trace, run, hrefused.runTokens_eq] at habsorb
      exact habsorb
    refine ⟨k, t, hrefused.getElem?, ?_, ?_⟩
    · refine (perform_eq_iff s s' _ none).mpr ?_
      rw [Step.trace, hfront]
      exact ⟨hevents, hrefused.front⟩
    · refine (perform_eq_iff s' s' _ (some e)).mpr ?_
      rw [Step.trace, String.toList_ofList, pen_absorb hevents, hrefused.refused]
      exact ⟨rfl, rfl⟩
  · rintro ⟨k, t, ht, hfirst, hlast⟩
    obtain ⟨habsorb, hnone⟩ := (perform_eq_iff s s' _ none).mp hfirst
    rw [Step.trace, hfront] at habsorb hnone
    obtain ⟨-, herror⟩ := (perform_eq_iff s' s' _ (some e)).mp hlast
    rw [Step.trace, String.toList_ofList, pen_absorb habsorb] at herror
    have hrefused : RefusedAt s.pen (tokenize d.toList) k t e :=
      ⟨ht, hnone, execute_eq_failed herror⟩
    refine (perform_eq_iff s s' (.run d) (some e)).mpr ?_
    rw [Step.trace, run, hrefused.runTokens_eq]
    exact ⟨habsorb, rfl⟩

/-- Whatever was drawn before, and into whatever sink: data after which other data begin with
a command letter are carried out first, and then the others, unless the first failed.  Data
that fail do so at one of their commands, and the session is then the one that the commands
in front of it give, with the same pen, the same operations and the same ignored commands. -/
theorem run_in_parts (s : Session σ) :
    (∀ front back : String, BeginsWithCommand back.toList →
      s.perform (.run (front ++ back)) = s.performThen (.run front) (.run back)) ∧
    (∀ (d : String) (s' : Session σ) (e : ConversionError),
      s.perform (.run d) = (s', some (.conversion e)) ↔
        ∃ k t, (tokenize d.toList)[k]? = some t ∧
          s.perform (.run (firstCommands k d)) = (s', none) ∧
          s'.perform (.execute (String.ofList [t.letter]) (String.ofList t.arguments)) =
            (s', some (.conversion e))) :=
  ⟨fun front _ h => perform_run_append s front h,
    fun d s' e => perform_run_eq_refused_iff s s' d e⟩

/-- A line without a second coordinate ends a path.  The line after it is not drawn, and what
stands in front of it is. -/
theorem run_stops_at_incomplete_line :
    BeginsWithCommand "L5 5".toList ∧
    (new (#[] : Recording)).perform (.run ("M1 1q0 0 1 1l2" ++ "L5 5")) =
      (new (#[] : Recording)).performThen (.run "M1 1q0 0 1 1l2") (.run "L5 5") ∧
    (new (#[] : Recording)).perform (.run "M1 1q0 0 1 1l2") =
      (((new (#[] : Recording)).perform (.run "M1 1q0 0 1 1")).1,
        some (.conversion (.arityMismatch "l" 2 1))) := by
  have hletter : BeginsWithCommand "L5 5".toList := ⟨'L', "5 5".toList, by decide, by decide⟩
  obtain ⟨hparts, hrefused⟩ := run_in_parts (new (#[] : Recording))
  refine ⟨hletter, hparts _ _ hletter, (hrefused _ _ _).mpr ⟨2, ⟨'l', ['2']⟩, ?_, ?_, ?_⟩⟩
  · decide
  · have hcut : firstCommands 2 "M1 1q0 0 1 1l2" = "M1 1q0 0 1 1" := by decide
    have hnone : ((new (#[] : Recording)).perform (.run "M1 1q0 0 1 1")).2 = none := by
      decide +kernel
    rw [hcut, ← hnone]
  · refine (perform_eq_iff _ _ _ (some _)).mpr ?_
    rw [Step.trace, String.toList_ofList, execute_eq_failed (e := .arityMismatch "l" 2 1)]
    · exact ⟨rfl, rfl⟩
    · decide +kernel

end Session

end SvgDrawing.PathData
