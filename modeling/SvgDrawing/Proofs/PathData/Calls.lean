import SvgDrawing.Proofs.PathData.Admission
import SvgDrawing.Proofs.Results

/-!
# Path data as calls

A command whose arguments pass the check is a call: the command together with its values.  Path data
without an error is the list of its calls, the ignored commands left out, and what it draws is what
the calls draw one after the other.

So `callsOf` and `drawCalls` together are `interpret`, where that has a result.
-/
namespace SvgDrawing.PathData

/-- A command with its values. -/
structure Call where
  command : Command
  values : List Double

/-- The segments of calls in order. -/
def drawCalls (pen : Pen) : List Call → List Segment
  | [] => []
  | call :: rest =>
    let drawn := call.command.draw pen call.values
    drawn ++ drawCalls (pen.afterAll drawn) rest

/-- The call that a token stands for, unless its command is ignored or refused. -/
def Token.call? (t : Token) : Option Call :=
  match Command.ofText? (String.ofList [t.letter]) with
  | none => none
  | some c => (c.arguments (String.ofList [t.letter]) t.arguments).toOption.map (⟨c, ·⟩)

/-- The calls of path data in order. -/
def callsOf (d : String) : List Call := (tokenize d.toList).filterMap Token.call?

/-! ## The values of calls -/

theorem Literal.tooLarge?_eq_none_iff {literals : List Literal} :
    tooLarge? literals = none ↔ ∀ l ∈ literals, l.value.isFinite := by
  simp [tooLarge?, List.find?_eq_none]

/-- The values that a command gets are finite. -/
theorem Command.isFinite_of_arguments_eq_ok {c : Command} {name : String} {text : List Char}
    {values : List Double} (h : c.arguments name text = .ok values) :
    ∀ x ∈ values, x.isFinite := by
  rcases Nat.eq_zero_or_pos c.verb.arity with h0 | hpos
  · rw [arguments_of_arity_eq_zero h0] at h
    cases h
    intro x hx
    cases hx
  · obtain ⟨hlarge, -, -, rfl⟩ := (arguments_eq_ok_iff hpos name text values).mp h
    rw [Literal.tooLarge?_eq_none_iff] at hlarge
    intro x hx
    obtain ⟨l, hl, rfl⟩ := List.mem_map.mp hx
    exact hlarge l hl

theorem Token.call?_eq_some_iff {t : Token} {call : Call} :
    t.call? = some call ↔ Command.ofText? (String.ofList [t.letter]) = some call.command ∧
      call.command.arguments (String.ofList [t.letter]) t.arguments = .ok call.values := by
  obtain ⟨command, values⟩ := call
  rw [call?]
  cases Command.ofText? (String.ofList [t.letter]) with
  | none => exact iff_of_false nofun (fun h => nomatch h.1)
  | some c =>
    constructor
    · intro h
      obtain ⟨values', hvalues, hcall⟩ := Option.map_eq_some_iff.mp h
      cases hcall
      exact ⟨rfl, toOption_eq_some_iff.mp hvalues⟩
    · rintro ⟨hcommand, ha⟩
      cases hcommand
      exact Option.map_eq_some_iff.mpr ⟨values, toOption_eq_some_iff.mpr ha, rfl⟩

/-- All values in path data are finite. -/
theorem isFinite_of_mem_callsOf {d : String} {call : Call} (h : call ∈ callsOf d) :
    ∀ x ∈ call.values, x.isFinite := by
  obtain ⟨t, -, ht⟩ := List.mem_filterMap.mp h
  exact Command.isFinite_of_arguments_eq_ok (Token.call?_eq_some_iff.mp ht).2

/-! ## The segments of calls -/

/-- A token that is a call draws what the call draws. -/
theorem segments_execute_of_call {pen : Pen} {t : Token} {call : Call} (h : t.call? = some call) :
    (execute pen (String.ofList [t.letter]) t.arguments).segments =
      call.command.draw pen call.values := by
  obtain ⟨hc, ha⟩ := Token.call?_eq_some_iff.mp h
  rw [execute_eq_ofSegments hc ha, Trace.segments_ofSegments]

/-- A token that is no call and does not fail is ignored. -/
theorem segments_execute_of_none {pen : Pen} {t : Token} (h : t.call? = none)
    (he : (execute pen (String.ofList [t.letter]) t.arguments).error = none) :
    (execute pen (String.ofList [t.letter]) t.arguments).segments = [] := by
  cases hc : Command.ofText? (String.ofList [t.letter]) with
  | none => rw [execute, hc]; rfl
  | some c =>
    cases ha : c.arguments (String.ofList [t.letter]) t.arguments with
    | error e =>
      have herror := (execute_error_eq_some_iff pen _ _ e).mpr ⟨c, hc, ha⟩
      rw [he] at herror
      cases herror
    | ok values =>
      have hcall : t.call? = some ⟨c, values⟩ := Token.call?_eq_some_iff.mpr ⟨hc, ha⟩
      rw [h] at hcall
      cases hcall

theorem Trace.error_andThen_eq_none_iff {t next : Trace} :
    (t.andThen next).error = none ↔ t.error = none ∧ next.error = none := by
  obtain ⟨events, error⟩ := t
  cases error <;> simp [andThen]

theorem Trace.segments_andThen {t : Trace} (h : t.error = none) (next : Trace) :
    (t.andThen next).segments = t.segments ++ next.segments := by
  simp [andThen, h, segments]

/-- Tokens that do not fail draw what their calls draw. -/
theorem segments_runTokens {pen : Pen} {tokens : List Token}
    (h : (runTokens pen tokens).error = none) :
    (runTokens pen tokens).segments = drawCalls pen (tokens.filterMap Token.call?) := by
  induction tokens generalizing pen with
  | nil => rfl
  | cons t rest ih =>
    simp only [runTokens] at h ⊢
    obtain ⟨hfirst, hrest⟩ := Trace.error_andThen_eq_none_iff.mp h
    rw [Trace.segments_andThen hfirst, ih hrest, Trace.penAfter]
    cases ht : t.call? with
    | none =>
      rw [segments_execute_of_none ht hfirst, List.filterMap_cons_none ht]
      rfl
    | some call =>
      rw [segments_execute_of_call ht, List.filterMap_cons_some ht]
      rfl

theorem interpret_eq_ok_iff (d : String) (segments : List Segment) :
    interpret d = .ok segments ↔
      (run .fresh d).error = none ∧ drawCalls .fresh (callsOf d) = segments := by
  simp only [interpret]
  cases he : (run .fresh d).error with
  | some e => simp
  | none =>
    have hdrawn : (run .fresh d).segments = drawCalls .fresh (callsOf d) := segments_runTokens he
    simp [hdrawn]

end SvgDrawing.PathData
