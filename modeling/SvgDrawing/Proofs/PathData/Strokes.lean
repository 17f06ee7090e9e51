import Mathlib.Data.List.SplitLengths
import SvgDrawing.Proofs.PathData.History
import SvgDrawing.Proofs.PathData.Ignored
import SvgDrawing.Proofs.PathData.Repetition

/-!
# Segments and the values they use

A segment is drawn with a fixed number of values, and a command draws one segment after the other
until its values are used up.  Each value goes into one coordinate of one segment: none is left
over and none is used twice.  How many segments there are, and of which kinds, can be told from the
letters and from how many numbers follow them, without carrying out anything.

## Main definitions

* `Stroke pen call segment` — what a pen draws with the values of one segment; `Strokes` — several
  such segments, each from where the one before ended.
* `Token.repetitions` — a command given once for each group of its values.
* `segmentKinds letter k` — the kinds of segments that a letter stands for.

## Main statements

* `Command.strokes_repetitions` — the segments of one command.
* `strokes_runTokens` — the segments of a run.
* `Session.run_strokes` — what path data record.
-/
namespace SvgDrawing.PathData

/-! ## Strokes -/

/-- A pen draws a segment for a command with the values of one repetition.  Each value goes into
one coordinate of the segment. -/
inductive Stroke (pen : Pen) : Call → Segment → Prop
  | moveTo (relative : Bool) (x y : Double) :
      Stroke pen ⟨⟨.moveTo, relative⟩, [x, y]⟩ (.moveTo (pen.base relative + ⟨x, y⟩))
  | lineTo (relative : Bool) (x y : Double) :
      Stroke pen ⟨⟨.lineTo, relative⟩, [x, y]⟩ (.lineTo (pen.base relative + ⟨x, y⟩))
  | horizontalTo (relative : Bool) (x : Double) :
      Stroke pen ⟨⟨.horizontalTo, relative⟩, [x]⟩
        (.lineTo ⟨if relative then pen.current.x + x else x, pen.current.y⟩)
  | verticalTo (relative : Bool) (y : Double) :
      Stroke pen ⟨⟨.verticalTo, relative⟩, [y]⟩
        (.lineTo ⟨pen.current.x, if relative then pen.current.y + y else y⟩)
  | cubicTo (relative : Bool) (a b c d x y : Double) :
      Stroke pen ⟨⟨.cubicTo, relative⟩, [a, b, c, d, x, y]⟩
        (.cubicTo (pen.base relative + ⟨a, b⟩) (pen.base relative + ⟨c, d⟩)
          (pen.base relative + ⟨x, y⟩))
  | smoothTo (relative : Bool) (c d x y : Double) :
      Stroke pen ⟨⟨.smoothTo, relative⟩, [c, d, x, y]⟩
        (.cubicTo (pen.previousControl.reflect pen.current) (pen.base relative + ⟨c, d⟩)
          (pen.base relative + ⟨x, y⟩))
  | closePath (relative : Bool) : Stroke pen ⟨⟨.closePath, relative⟩, []⟩ .closePath

/-- Segments drawn one after the other, each for its own call. -/
inductive Strokes : Pen → List Call → List Segment → Prop
  | nil (pen : Pen) : Strokes pen [] []
  | cons {pen : Pen} {call : Call} {segment : Segment} {calls : List Call}
      {segments : List Segment} (first : Stroke pen call segment)
      (rest : Strokes (pen.after segment) calls segments) :
      Strokes pen (call :: calls) (segment :: segments)

/-- The kind of segment that a verb draws. -/
def Verb.kind : Verb → LastDrawn
  | moveTo => .move
  | lineTo | horizontalTo | verticalTo => .line
  | cubicTo | smoothTo => .cubic
  | closePath => .close

theorem Stroke.kind_eq {pen : Pen} {call : Call} {segment : Segment}
    (h : Stroke pen call segment) : segment.kind = call.command.verb.kind := by
  cases h <;> rfl

namespace Strokes

variable {pen : Pen} {calls calls' : List Call} {segments segments' : List Segment}

theorem append (h : Strokes pen calls segments)
    (h' : Strokes (pen.afterAll segments) calls' segments') :
    Strokes pen (calls ++ calls') (segments ++ segments') := by
  induction h with
  | nil => exact h'
  | cons first _ ih => exact .cons first (ih h')

theorem map_kind (h : Strokes pen calls segments) :
    segments.map Segment.kind = calls.map fun call => call.command.verb.kind := by
  induction h with
  | nil => rfl
  | cons first _ ih => rw [List.map_cons, List.map_cons, first.kind_eq, ih]

end Strokes

/-! ## Commands -/

namespace Command

/-- A command given once for each group of values. -/
def calls (c : Command) : List (List Double) → List Call
  | [] => []
  | group :: rest => ⟨c, group⟩ :: c.further.calls rest

@[simp] theorem flatMap_values_calls (c : Command) (groups : List (List Double)) :
    (c.calls groups).flatMap Call.values = groups.flatten := by
  induction groups generalizing c with
  | nil => rfl
  | cons group rest ih => rw [calls, List.flatMap_cons, List.flatten_cons, ih]

/-- One group of values makes one stroke. -/
theorem exists_stroke {c : Command} {group : List Double} (h : group.length = c.verb.arity)
    (hpos : 0 < c.verb.arity) (pen : Pen) :
    ∃ segment, c.draw pen group = [segment] ∧ Stroke pen ⟨c, group⟩ segment := by
  obtain ⟨verb, relative⟩ := c
  cases verb with
  | moveTo =>
    match group, h with
    | [x, y], _ => exact ⟨_, rfl, .moveTo relative x y⟩
  | lineTo =>
    match group, h with
    | [x, y], _ => exact ⟨_, rfl, .lineTo relative x y⟩
  | horizontalTo =>
    match group, h with
    | [x], _ => exact ⟨_, rfl, .horizontalTo relative x⟩
  | verticalTo =>
    match group, h with
    | [y], _ => exact ⟨_, rfl, .verticalTo relative y⟩
  | cubicTo =>
    match group, h with
    | [a, b, c, d, x, y], _ => exact ⟨_, rfl, .cubicTo relative a b c d x y⟩
  | smoothTo =>
    match group, h with
    | [c, d, x, y], _ => exact ⟨_, rfl, .smoothTo relative c d x y⟩
  | closePath => exact absurd hpos (Nat.lt_irrefl 0)

/-- The segments of a command are the strokes of its groups of values. -/
theorem strokes_draw {c : Command} (hpos : 0 < c.verb.arity) {groups : List (List Double)}
    (h : ∀ group ∈ groups, group.length = c.verb.arity) (pen : Pen) :
    Strokes pen (c.calls groups) (c.draw pen groups.flatten) := by
  induction groups generalizing c pen with
  | nil =>
    have hnone : c.draw pen [] = [] := by
      obtain ⟨verb, relative⟩ := c
      cases verb with
      | closePath => exact absurd hpos (Nat.lt_irrefl 0)
      | _ => rfl
    rw [List.flatten_nil, hnone]
    exact .nil pen
  | cons group rest ih =>
    rw [List.forall_mem_cons] at h
    obtain ⟨segment, hdraw, hstroke⟩ := exists_stroke h.1 hpos pen
    have hgroup : c.Admits group := by
      refine ⟨⟨1, by rw [h.1, Nat.mul_one]⟩, fun hpos hnil => ?_⟩
      rw [← h.1, hnil] at hpos
      exact absurd hpos (Nat.lt_irrefl 0)
    rw [List.flatten_cons, draw_append hpos hgroup, hdraw]
    refine .cons hstroke (ih (c.arity_further ▸ hpos) ?_ _)
    rw [c.arity_further]
    exact h.2

theorem map_kind_calls (c : Command) (groups : List (List Double)) :
    (c.further.calls groups).map (fun call => call.command.verb.kind) =
      List.replicate groups.length c.further.verb.kind := by
  induction groups with
  | nil => rfl
  | cons group rest ih =>
    rw [calls, List.map_cons, further_further, ih]
    rfl

end Command

/-- Values in groups of `n`. -/
def groupsOf (n : Nat) (values : List Double) : List (List Double) :=
  (List.replicate (values.length / n) n).splitLengths values

theorem length_groupsOf (n : Nat) (values : List Double) :
    (groupsOf n values).length = values.length / n := by
  rw [groupsOf, List.length_splitLengths, List.length_replicate]

theorem flatten_groupsOf {n : Nat} {values : List Double} (h : n ∣ values.length) :
    (groupsOf n values).flatten = values := by
  refine List.flatten_splitLengths _ _ (Nat.le_of_eq ?_)
  rw [List.sum_replicate_nat, Nat.div_mul_cancel h]

theorem length_of_mem_groupsOf (n : Nat) (values : List Double) :
    ∀ group ∈ groupsOf n values, group.length = n := by
  intro group h
  have hlengths : (groupsOf n values).map List.length = List.replicate (values.length / n) n := by
    refine List.map_splitLengths_length _ _ ?_
    rw [List.sum_replicate_nat]
    exact Nat.div_mul_le_self _ _
  have hmem := List.mem_map_of_mem (f := List.length) h
  rw [hlengths] at hmem
  exact List.eq_of_mem_replicate hmem

namespace Command

/-- A command given once for each repetition that its values make, and once if it takes none. -/
def repetitions (c : Command) (values : List Double) : List Call :=
  if c.verb.arity = 0 then [⟨c, []⟩] else c.calls (groupsOf c.verb.arity values)

variable {c : Command} {values : List Double}

/-- The values are shared out among the repetitions. -/
theorem flatMap_values_repetitions (h : c.verb.arity ∣ values.length) :
    (c.repetitions values).flatMap Call.values = values := by
  rw [repetitions]
  split
  · next hzero =>
    rw [hzero, Nat.zero_dvd, List.length_eq_zero_iff] at h
    rw [h]
    rfl
  · rw [flatMap_values_calls, flatten_groupsOf h]

/-- The segments of a command are the strokes of its repetitions. -/
theorem strokes_repetitions (h : c.verb.arity ∣ values.length) (pen : Pen) :
    Strokes pen (c.repetitions values) (c.draw pen values) := by
  rw [repetitions]
  split
  · next hzero =>
    obtain ⟨verb, relative⟩ := c
    cases verb with
    | closePath => exact .cons (.closePath relative) (.nil _)
    | _ => cases hzero
  · next hne =>
    have hdraw := strokes_draw (Nat.pos_of_ne_zero hne) (length_of_mem_groupsOf _ values) pen
    rwa [flatten_groupsOf h] at hdraw

/-- The number of repetitions is zero only for a command without values. -/
theorem Admits.div_eq_zero_iff (h : c.Admits values) :
    values.length / c.verb.arity = 0 ↔ c.verb.arity = 0 := by
  rcases Nat.eq_zero_or_pos c.verb.arity with hzero | hpos
  · rw [hzero, Nat.div_zero]
  · have hle := Nat.le_of_dvd (List.length_pos_iff.mpr (h.2 hpos)) h.1
    exact iff_of_false (Nat.ne_of_gt (Nat.div_pos hle hpos)) (Nat.ne_of_gt hpos)

theorem map_kind_repetitions (h : c.Admits values) :
    (c.repetitions values).map (fun call => call.command.verb.kind) =
      c.verb.kind ::
        List.replicate (values.length / c.verb.arity - 1) c.further.verb.kind := by
  have hcount := h.div_eq_zero_iff
  have hlength := length_groupsOf c.verb.arity values
  rw [repetitions]
  split
  · next hzero =>
    rw [hcount.mpr hzero]
    rfl
  · next hne =>
    cases hgroups : groupsOf c.verb.arity values with
    | nil =>
      rw [hgroups, List.length_nil] at hlength
      exact absurd (hcount.mp hlength.symm) hne
    | cons group rest =>
      rw [hgroups, List.length_cons] at hlength
      rw [calls, List.map_cons, map_kind_calls, ← hlength, Nat.add_sub_cancel]

end Command

/-! ## Letters -/

/-- The number of values that one segment of a command takes. -/
def valuesPerSegment : Char → Nat
  | 'M' | 'm' | 'L' | 'l' => 2
  | 'H' | 'h' | 'V' | 'v' => 1
  | 'C' | 'c' => 6
  | 'S' | 's' => 4
  | _ => 0

/-- The kinds of segments that a command draws with the values of `k` segments. -/
def segmentKinds (letter : Char) (k : Nat) : List LastDrawn :=
  match letter with
  | 'M' | 'm' => .move :: List.replicate (k - 1) .line
  | 'L' | 'l' | 'H' | 'h' | 'V' | 'v' => List.replicate k .line
  | 'C' | 'c' | 'S' | 's' => List.replicate k .cubic
  | 'Z' | 'z' => [.close]
  | _ => []

theorem valuesPerSegment_of_isIgnoredLetter {letter : Char} (h : isIgnoredLetter letter) :
    valuesPerSegment letter = 0 ∧ ∀ k, segmentKinds letter k = [] := by
  simp only [isIgnoredLetter, List.contains_iff_mem] at h
  change letter ∈ ['A', 'a', 'Q', 'q', 'T', 't'] at h
  simp only [List.mem_cons, List.not_mem_nil, or_false] at h
  rcases h with rfl | rfl | rfl | rfl | rfl | rfl <;> exact ⟨rfl, fun _ => rfl⟩

/-- What the letters stand for: after the first segment of a command come segments of the further
command. -/
theorem valuesPerSegment_of_ofText? {letter : Char} {c : Command} (hletter : isCommandLetter letter)
    (h : Command.ofText? (String.ofList [letter]) = some c) :
    valuesPerSegment letter = c.verb.arity ∧ ∀ k, (k = 0 ↔ c.verb.arity = 0) →
      segmentKinds letter k = c.verb.kind :: List.replicate (k - 1) c.further.verb.kind := by
  rw [Command.ofText?, String.toList_ofList] at h
  simp only at h
  unfold Command.ofLetter? at h
  -- the long s begins no command; the other letters either take values or close the path
  split at h <;> cases h <;>
    first
    | exact absurd hletter (by decide)
    | refine ⟨rfl, fun k hk => ?_⟩
      cases k with
      | zero => first | rfl | exact absurd (hk.mp rfl) (by decide)
      | succ k => first | rfl | exact absurd (hk.mpr rfl) (Nat.succ_ne_zero k)

/-! ## Tokens -/

namespace Token

/-- The values that are read from the arguments of a token.  A command without values of its own,
or one that is ignored, has none whatever its arguments. -/
def values (t : Token) : List Double :=
  if valuesPerSegment t.letter = 0 then [] else scanned t.arguments

/-- The command of a token given once for each of its segments. -/
def repetitions (t : Token) : List Call :=
  match Command.ofText? (String.ofList [t.letter]) with
  | none => []
  | some c => c.repetitions t.values

/-- A token that is not refused has the values of whole segments, draws a segment for each of
its repetitions, and shares its values out among them. -/
structure SharesValues (t : Token) : Prop where
  complete : 0 < valuesPerSegment t.letter →
    ∃ k, 0 < k ∧ t.values.length = valuesPerSegment t.letter * k
  shared : t.repetitions.flatMap Call.values = t.values
  kinds : t.repetitions.map (fun call => call.command.verb.kind) =
    segmentKinds t.letter (t.values.length / valuesPerSegment t.letter)
  strokes : ∀ pen, Strokes pen t.repetitions
    (execute pen (String.ofList [t.letter]) t.arguments).segments

/-- A command that is not refused is carried out with the values of its token. -/
theorem arguments_of_refusal? {t : Token} (ht : t.IsProper) (h : t.refusal? = none) {c : Command}
    (hc : Command.ofText? (String.ofList [t.letter]) = some c) :
    c.arguments (String.ofList [t.letter]) t.arguments = .ok t.values ∧ c.Admits t.values := by
  obtain ⟨hsize, -⟩ := valuesPerSegment_of_ofText? ht.letter hc
  rcases Nat.eq_zero_or_pos c.verb.arity with hzero | hpos
  · have hvalues : t.values = [] := if_pos (hsize.trans hzero)
    rw [hvalues]
    exact ⟨Command.arguments_of_arity_eq_zero hzero _ _, Nat.dvd_zero _,
      fun hpos => absurd hzero (Nat.ne_of_gt hpos)⟩
  · have hvalues : t.values = scanned t.arguments := if_neg (hsize ▸ Nat.ne_of_gt hpos)
    rw [refusal?, hc] at h
    cases harguments : c.arguments (String.ofList [t.letter]) t.arguments with
    | error e =>
      simp only [harguments] at h
      cases h
    | ok values =>
      obtain ⟨hsupplies, rfl⟩ := (Command.arguments_eq_ok_iff_supplies hpos _ _ _).mp harguments
      rw [hvalues]
      exact ⟨rfl, hsupplies.admits⟩

theorem sharesValues_of_refusal? {t : Token} (ht : t.IsProper) (h : t.refusal? = none) :
    t.SharesValues := by
  cases hc : Command.ofText? (String.ofList [t.letter]) with
  | none =>
    have hignored := (ofText?_eq_none_iff ht.letter).mp hc
    obtain ⟨hsize, hkinds⟩ := valuesPerSegment_of_isIgnoredLetter hignored
    have hrepetitions : t.repetitions = [] := by rw [repetitions, hc]
    have hvalues : t.values = [] := if_pos hsize
    refine ⟨fun hpos => absurd hsize (Nat.ne_of_gt hpos), ?_, ?_, fun pen => ?_⟩
    · rw [hrepetitions, hvalues]
      rfl
    · rw [hrepetitions, hkinds]
      rfl
    · rw [hrepetitions, execute_of_isIgnored ht hignored]
      exact .nil pen
  | some c =>
    obtain ⟨hsize, hkinds⟩ := valuesPerSegment_of_ofText? ht.letter hc
    obtain ⟨harguments, hadmits⟩ := arguments_of_refusal? ht h hc
    have hrepetitions : t.repetitions = c.repetitions t.values := by rw [repetitions, hc]
    refine ⟨fun hpos => ?_, ?_, ?_, fun pen => ?_⟩
    · rw [hsize] at hpos ⊢
      obtain ⟨k, hk⟩ := hadmits.1
      have hvalues : 0 < t.values.length := List.length_pos_iff.mpr (hadmits.2 hpos)
      exact ⟨k, Nat.pos_of_mul_pos_left (hk ▸ hvalues), hk⟩
    · rw [hrepetitions, Command.flatMap_values_repetitions hadmits.1]
    · rw [hrepetitions, Command.map_kind_repetitions hadmits, hsize,
        hkinds _ hadmits.div_eq_zero_iff]
    · rw [hrepetitions, execute_eq_ofSegments hc harguments, Trace.segments_ofSegments]
      exact Command.strokes_repetitions hadmits.1 pen

end Token

/-! ## Runs -/

/-- Tokens that are not refused draw the strokes of their repetitions. -/
theorem strokes_runTokens {tokens : List Token} (h : ∀ t ∈ tokens, t.SharesValues) {pen : Pen}
    (herror : (runTokens pen tokens).error = none) :
    Strokes pen (tokens.flatMap Token.repetitions) (runTokens pen tokens).segments := by
  induction tokens generalizing pen with
  | nil => exact .nil pen
  | cons t rest ih =>
    rw [List.forall_mem_cons] at h
    simp only [runTokens] at herror ⊢
    obtain ⟨hfirst, hrest⟩ := Trace.error_andThen_eq_none_iff.mp herror
    rw [List.flatMap_cons, Trace.segments_andThen hfirst]
    exact (h.1.strokes pen).append (ih h.2 hrest)

namespace Session

/-- Path data that do not fail record segments only, one for each repetition of each of their
commands: the kinds are those of the letters in order, as many as there are groups of values.
Commands with values have whole groups of them and at least one, each value goes into the segment
of its group, and a segment has no other values. -/
theorem run_strokes {s s' : Session Recording} {d : String}
    (h : s.perform (.run d) = (s', none)) :
    ∃ drawn : List Segment,
      s'.sink = s.sink ++ (drawn.map Operation.segment).toArray ∧
      drawn.map Segment.kind = (tokenize d.toList).flatMap (fun t =>
        segmentKinds t.letter (t.values.length / valuesPerSegment t.letter)) ∧
      (∀ t ∈ tokenize d.toList, 0 < valuesPerSegment t.letter →
        ∃ k, 0 < k ∧ t.values.length = valuesPerSegment t.letter * k) ∧
      Strokes s.pen ((tokenize d.toList).flatMap Token.repetitions) drawn ∧
      ∀ t ∈ tokenize d.toList, t.repetitions.flatMap Call.values = t.values := by
  rw [perform_eq, Step.trace, Prod.mk.injEq, Option.map_eq_none_iff] at h
  obtain ⟨rfl, herror⟩ := h
  have hnone := herror
  rw [run, error_runTokens, List.findSome?_eq_none_iff] at hnone
  have hshares : ∀ t ∈ tokenize d.toList, t.SharesValues := fun t ht =>
    Token.sharesValues_of_refusal? (isProper_of_mem_tokenize ht) (hnone t ht)
  have hstrokes := strokes_runTokens hshares herror
  refine ⟨_, rfl, ?_, fun t ht => (hshares t ht).complete, hstrokes,
    fun t ht => (hshares t ht).shared⟩
  rw [run, hstrokes.map_kind, List.map_flatMap, List.flatMap_def, List.flatMap_def,
    List.map_congr_left fun t ht => (hshares t ht).kinds]

/-- A move with a further point, a line, a closing with arguments, an ignored command and two smooth
curves. -/
theorem run_strokes_of_five_commands : ∃ (s' : Session Recording) (drawn : List Segment),
    (new #[]).perform (.run "M1 2,3 4h5z6q7 8 9 0S1 2 3 4 5 6 7 8") = (s', none) ∧
    s'.sink = (drawn.map Operation.segment).toArray ∧
    drawn.map Segment.kind = [.move, .line, .line, .close, .cubic, .cubic] := by
  have hnone :
      ((new (#[] : Recording)).perform (.run "M1 2,3 4h5z6q7 8 9 0S1 2 3 4 5 6 7 8")).2 = none := by
    decide +kernel
  obtain ⟨drawn, hsink, hkinds, -⟩ := run_strokes (Prod.ext rfl hnone)
  refine ⟨_, drawn, Prod.ext rfl hnone, hsink.trans (Array.empty_append ..), hkinds.trans ?_⟩
  decide +kernel

end Session

end SvgDrawing.PathData
