import Mathlib.Data.List.Forall2
import SvgDrawing.Proofs.PathData.Composition
import SvgDrawing.Proofs.Swift.Coordinates

/-!
# Sessions into a renderer

A path can be drawn into a recording and into a renderer at the same time.  The two sessions
stay side by side: the pens are the same, the same commands are ignored, and the renderer has
the statement of each recorded operation.  The renderer refuses an operation only if rounding
one of its coordinates overflows.  It then has the statements of the operations before, and
its pen has drawn the refused segment as well, since a pen moves before the sink sees what it
draws.  Nothing that comes after in the same step happens.

## Main definitions

* `Style.Renders style o` — no coordinate of an operation overflows.
* `Session.rendered style steps` — a new path into a renderer after steps.
* `Session.Mirrors style r q` — a renderer that has what a recording has.
* `Session.JustDrew` — a session in the middle of a step.

## Main statements

* `Session.Mirrors.absorb`, `Session.Mirrors.absorb_overflow` — what a step does to both.
* `Session.rendered_mirrors_recorded` — both sessions after any steps.
-/
namespace SvgDrawing

namespace Swift.Style

/-- Rounding overflows at no coordinate of an operation. -/
def Renders (style : Style) (o : Operation) : Prop := ∀ x ∈ o.coordinates, Fits style.precision x

instance (style : Style) (o : Operation) : Decidable (style.Renders o) :=
  inferInstanceAs (Decidable (∀ x ∈ o.coordinates, Fits style.precision x))

variable {style : Style} {o : Operation}

theorem exists_statement_of_renders (h : style.Renders o) :
    ∃ line, style.statement o = .ok line := by
  rw [statement_eq, orOverflow]
  exact ⟨_, if_pos h⟩

theorem statement_of_not_renders (h : ¬ style.Renders o) : style.statement o = .error .overflow := by
  rw [statement_eq, orOverflow]
  exact if_neg h

end Swift.Style

namespace PathData

/-- Where a segment stands among those of a trace, the events before it draw the segments
before it. -/
theorem Trace.exists_events_of_segments {t : Trace}
    {front back : List Segment} {segment : Segment} (h : t.segments = front ++ segment :: back) :
    ∃ before after, t.events = before ++ .drawn segment :: after ∧
      (⟨before, none⟩ : Trace).segments = front := by
  obtain ⟨before, event, after, hevents, hevent, hbefore, -⟩ := exists_of_filterMap_eq_append_cons h
  cases event with
  | ignored d => cases hevent
  | drawn s =>
    cases hevent
    exact ⟨before, after, hevents, hbefore⟩

namespace Session

open Swift

/-! ## Two sessions side by side -/

/-- The session into a renderer has what the session into a recording has. -/
structure Mirrors (style : Style) (r : Session Recording) (q : Session Renderer) : Prop where
  pen : q.pen = r.pen
  diagnostics : q.diagnostics = r.diagnostics
  style_eq : q.sink.style = style
  lines : List.Forall₂ (fun o line => style.statement o = .ok line) r.sink.toList
    q.sink.lines.toList

variable {style : Style} {r : Session Recording} {q : Session Renderer}

theorem mirrors_new (style : Style) : Mirrors style (.new #[]) (.new (.new style)) :=
  ⟨rfl, rfl, rfl, .nil⟩

/-- An ignored command is noted in both. -/
theorem Mirrors.ignored (h : Mirrors style r q) (d : Diagnostic) :
    Mirrors style { r with diagnostics := r.diagnostics.push d }
      { q with diagnostics := q.diagnostics.push d } :=
  ⟨h.pen, congrArg (·.push d) h.diagnostics, h.style_eq, h.lines⟩

/-- A segment that can be rendered is drawn by both pens and received by both sinks. -/
theorem Mirrors.drawn (h : Mirrors style r q) {segment : Segment}
    (hrenders : style.Renders (.segment segment)) :
    ∃ sink, Sink.emit q.sink (.segment segment) = .ok sink ∧
      Mirrors style ⟨r.pen.after segment, r.sink.push (.segment segment), r.diagnostics⟩
        ⟨q.pen.after segment, sink, q.diagnostics⟩ := by
  obtain ⟨line, hline⟩ := Style.exists_statement_of_renders hrenders
  refine ⟨⟨style, q.sink.lines.push line⟩, ?_, by rw [h.pen], h.diagnostics, rfl, ?_⟩
  · simp only [Sink.emit, Renderer.add, h.style_eq, hline, Except.map]
  · simpa using List.rel_append h.lines (.cons hline .nil)

/-- Events whose segments can all be rendered happen in both sessions. -/
theorem Mirrors.absorb (h : Mirrors style r q) {events : List Event}
    (hrenders : ∀ segment, .drawn segment ∈ events → style.Renders (.segment segment)) :
    ∃ q', q.absorb events = (q', none) ∧ Mirrors style (r.absorb events).1 q' := by
  induction events generalizing r q with
  | nil => exact ⟨q, rfl, h⟩
  | cons event rest ih =>
    have hrest : ∀ segment, .drawn segment ∈ rest → style.Renders (.segment segment) :=
      fun segment hmem => hrenders segment (List.mem_cons_of_mem _ hmem)
    cases event with
    | ignored d => exact ih (h.ignored d) hrest
    | drawn segment =>
      obtain ⟨sink, hsink, hdrawn⟩ := h.drawn (hrenders segment List.mem_cons_self)
      obtain ⟨q', hq', hmirrors⟩ := ih hdrawn hrest
      refine ⟨q', ?_, hmirrors⟩
      rw [Session.absorb, hsink]
      exact hq'

/-- At the first segment that cannot be rendered the session into the renderer stops.  Its pen
has drawn the segment. -/
theorem Mirrors.absorb_overflow (h : Mirrors style r q) {before : List Event} {segment : Segment}
    (hbefore : ∀ s, .drawn s ∈ before → style.Renders (.segment s))
    (hoverflow : ¬ style.Renders (.segment segment)) (after : List Event) :
    ∃ q', Mirrors style (r.absorb before).1 q' ∧
      q.absorb (before ++ .drawn segment :: after) =
        ({ q' with pen := q'.pen.after segment }, some .overflow) := by
  obtain ⟨q', hq', hmirrors⟩ := h.absorb hbefore
  have hrefused : Sink.emit q'.sink (.segment segment) = .error .overflow := by
    simp only [Sink.emit, Renderer.add, hmirrors.style_eq, Style.statement_of_not_renders hoverflow,
      Except.map]
  refine ⟨q', hmirrors, ?_⟩
  rw [absorb_append, hq']
  simp only [Session.absorb, hrefused]

/-! ## Steps -/

/-- A recorded session right after one more segment. -/
theorem extend_concat_drawn (r : Session Recording) (before : List Event) (segment : Segment) :
    r.extend ⟨before ++ [.drawn segment], none⟩ =
      ⟨(r.extend ⟨before, none⟩).pen.after segment,
        (r.extend ⟨before, none⟩).sink.push (.segment segment),
        (r.extend ⟨before, none⟩).diagnostics⟩ := by
  simp [extend, Trace.penAfter, Pen.afterAll, Trace.segments, Trace.diagnostics]

/-- The events of a step up to the drawing of `segment` have happened, and `moment` is the
session right after it. -/
def JustDrew (r : Session Recording) (step : Step) (segment : Segment)
    (moment : Session Recording) : Prop :=
  ∃ before after, (step.trace r.pen).events = before ++ .drawn segment :: after ∧
    r.absorb (before ++ [.drawn segment]) = (moment, none)

theorem toList_sink_perform (r : Session Recording) (step : Step) :
    (r.perform step).1.sink.toList =
      r.sink.toList ++ (step.trace r.pen).segments.map .segment := by
  rw [perform_eq, extend, Array.toList_append]

/-- Operations up to one of this step contain those of the steps before. -/
theorem sink_prefix_of_perform {r : Session Recording} {step : Step} {front back : List Operation}
    (hsink : (r.perform step).1.sink.toList = front ++ back)
    (hsize : r.sink.size ≤ front.length) : r.sink.toList <+: front := by
  rw [toList_sink_perform] at hsink
  exact List.prefix_of_prefix_length_le ⟨_, hsink⟩ (List.prefix_append _ _) (by simpa using hsize)

/-- A step without overflow is carried out by both sessions, and fails in both or in neither. -/
theorem Mirrors.perform (h : Mirrors style r q) {step : Step}
    (hrenders : ∀ o ∈ (r.perform step).1.sink.toList, style.Renders o) :
    Mirrors style (r.perform step).1 (q.perform step).1 ∧
      ∃ cause : Option ConversionError, (r.perform step).2 = cause.map .conversion ∧
        (q.perform step).2 = cause.map .conversion := by
  have hsegments : ∀ segment, .drawn segment ∈ (step.trace r.pen).events →
      style.Renders (.segment segment) := by
    intro segment hmem
    apply hrenders
    rw [toList_sink_perform]
    refine List.mem_append_right _ (List.mem_map_of_mem ?_)
    exact List.mem_filterMap.mpr ⟨.drawn segment, hmem, rfl⟩
  obtain ⟨q', hq', hmirrors⟩ := h.absorb hsegments
  have hperform : q.perform step = (q', (step.trace r.pen).error.map .conversion) := by
    rw [perform_eq_iff, h.pen]
    exact ⟨hq', rfl⟩
  rw [hperform, perform_eq]
  rw [absorb_eq] at hmirrors
  exact ⟨hmirrors, (step.trace r.pen).error, rfl, rfl⟩

/-- The first operation of a step that cannot be rendered is refused.  The session into the
renderer then has the pen and the ignored commands of that moment, and the statements of the
operations before. -/
theorem Mirrors.perform_overflow (h : Mirrors style r q) {step : Step} {front back : List Operation}
    {o : Operation} (hsink : (r.perform step).1.sink.toList = front ++ o :: back)
    (hsize : r.sink.size ≤ front.length) (hfront : ∀ o' ∈ front, style.Renders o')
    (hoverflow : ¬ style.Renders o) :
    (q.perform step).2 = some (.refused .overflow) ∧
      ∃ segment moment, r.JustDrew step segment moment ∧ o = .segment segment ∧
        moment.sink.toList = front ++ [o] ∧
        (q.perform step).1.pen = moment.pen ∧
        (q.perform step).1.diagnostics = moment.diagnostics ∧
        List.Forall₂ (fun o line => style.statement o = .ok line) front
          (q.perform step).1.sink.lines.toList := by
  -- the operations before the refused one are those of earlier steps and some of this step
  obtain ⟨new, rfl⟩ := sink_prefix_of_perform hsink hsize
  rw [toList_sink_perform] at hsink
  rw [List.append_assoc, List.append_cancel_left_eq] at hsink
  obtain ⟨drawn, rest, hsegments, rfl, hrest⟩ := List.map_eq_append_iff.mp hsink
  obtain ⟨segment, later, rfl, rfl, -⟩ := List.map_eq_cons_iff.mp hrest
  obtain ⟨before, after, hevents, hbefore⟩ := Trace.exists_events_of_segments hsegments
  have hrenders : ∀ s, .drawn s ∈ before → style.Renders (.segment s) := by
    intro s hmem
    have hdrawn : s ∈ drawn := by
      rw [← hbefore]
      exact List.mem_filterMap.mpr ⟨.drawn s, hmem, rfl⟩
    exact hfront _ (List.mem_append_right _ (List.mem_map_of_mem hdrawn))
  obtain ⟨q', hmirrors, habsorb⟩ := h.absorb_overflow hrenders hoverflow after
  have hperform : q.perform step =
      ({ q' with pen := q'.pen.after segment }, some (.refused .overflow)) := by
    rw [Session.perform, h.pen, hevents, habsorb]
  rw [absorb_eq r ⟨before, none⟩] at hmirrors
  have hmoment := absorb_eq r ⟨before ++ [.drawn segment], none⟩
  rw [extend_concat_drawn] at hmoment
  have hlines : (r.extend ⟨before, none⟩).sink.toList = r.sink.toList ++ drawn.map .segment := by
    rw [extend, hbefore, Array.toList_append]
  rw [hperform]
  refine ⟨rfl, segment, _, ⟨before, after, hevents, hmoment⟩, rfl, ?_, ?_, hmirrors.diagnostics, ?_⟩
  · rw [Array.toList_push, hlines]
  · rw [hmirrors.pen]
  · rw [← hlines]
    exact hmirrors.lines

/-! ## Runs -/

/-- A new path into a renderer after steps. -/
def rendered (style : Style) (steps : List Step) : Session Renderer :=
  performAll (.new (.new style)) steps

/-- The log of a session: a warning for each ignored command. -/
def log {σ : Type} (s : Session σ) : List Log.Entry := s.diagnostics.toList.map Log.ofDiagnostic

/-- Nothing that was recorded is lost. -/
theorem sink_prefix_performAll (r : Session Recording) (steps : List Step) :
    r.sink.toList <+: (r.performAll steps).sink.toList := by
  induction steps generalizing r with
  | nil => exact List.prefix_rfl
  | cons step rest ih =>
    refine List.IsPrefix.trans ?_ (ih _)
    rw [toList_sink_perform]
    exact List.prefix_append _ _

/-- Steps without overflow are carried out by both sessions. -/
theorem Mirrors.performAll (h : Mirrors style r q) {steps : List Step}
    (hrenders : ∀ o ∈ (r.performAll steps).sink.toList, style.Renders o) :
    Mirrors style (r.performAll steps) (q.performAll steps) := by
  induction steps generalizing r q with
  | nil => exact h
  | cons step rest ih =>
    refine ih (h.perform ?_).1 hrenders
    intro o ho
    exact hrenders o ((sink_prefix_performAll _ rest).subset ho)

/-- A path is drawn into a recording and into a renderer by the same steps.  As long as nothing
overflows, after each step both sessions have the same pen, the same ignored commands and the
same log, the renderer has the statements of the recorded operations, one for each and in
order, and the step fails in both for the same cause or in neither.  If an operation `o`
overflows and those before it do not, the step that draws it fails.  The renderer then has the
statements of the operations before `o`, and its pen and the ignored commands are those of the
recorded session right after `o`. -/
theorem rendered_mirrors_recorded (style : Style) (steps : List Step) (step : Step) :
    ((∀ o ∈ ((recorded steps).perform step).1.sink.toList, style.Renders o) →
      Mirrors style ((recorded steps).perform step).1 ((rendered style steps).perform step).1 ∧
      ((rendered style steps).perform step).1.log = ((recorded steps).perform step).1.log ∧
      ∃ cause : Option ConversionError,
        ((recorded steps).perform step).2 = cause.map .conversion ∧
        ((rendered style steps).perform step).2 = cause.map .conversion) ∧
    (∀ front o back, ((recorded steps).perform step).1.sink.toList = front ++ o :: back →
      (recorded steps).sink.size ≤ front.length → (∀ o' ∈ front, style.Renders o') →
      ¬ style.Renders o →
      ((rendered style steps).perform step).2 = some (.refused .overflow) ∧
      ∃ segment moment, (recorded steps).JustDrew step segment moment ∧ o = .segment segment ∧
        moment.sink.toList = front ++ [o] ∧
        ((rendered style steps).perform step).1.pen = moment.pen ∧
        ((rendered style steps).perform step).1.diagnostics = moment.diagnostics ∧
        List.Forall₂ (fun o line => style.statement o = .ok line) front
          ((rendered style steps).perform step).1.sink.lines.toList) := by
  have hmirrors : (∀ o ∈ (recorded steps).sink.toList, style.Renders o) →
      Mirrors style (recorded steps) (rendered style steps) := (mirrors_new style).performAll
  constructor
  · intro hrenders
    have hbefore : ∀ o ∈ (recorded steps).sink.toList, style.Renders o := by
      intro o ho
      apply hrenders
      rw [toList_sink_perform]
      exact List.mem_append_left _ ho
    obtain ⟨hafter, hcause⟩ := (hmirrors hbefore).perform hrenders
    refine ⟨hafter, ?_, hcause⟩
    rw [log, hafter.diagnostics, log]
  · intro front o back hsink hsize hfront hoverflow
    have hbefore : ∀ o' ∈ (recorded steps).sink.toList, style.Renders o' := by
      intro o' ho'
      exact hfront o' ((sink_prefix_of_perform hsink hsize).subset ho')
    exact (hmirrors hbefore).perform_overflow hsink hsize hfront hoverflow

/-- A command with three lines, where the second line cannot be rounded to multiples of
`10 ^ 308`.  With five decimal places all of it is rendered. -/
theorem rendering_stops_at_large_line :
    Mirrors {} ((recorded [.run "M1 1q0 0"]).perform (.execute "L" "2 2 17e307 0 3 3")).1
      ((rendered {} [.run "M1 1q0 0"]).perform (.execute "L" "2 2 17e307 0 3 3")).1 ∧
    ((recorded [.run "M1 1q0 0"]).perform (.execute "L" "2 2 17e307 0 3 3")).1.sink.size = 4 ∧
    ((rendered { precision := -308 } [.run "M1 1q0 0"]).perform
      (.execute "L" "2 2 17e307 0 3 3")).2 = some (.refused .overflow) ∧
    ((rendered { precision := -308 } [.run "M1 1q0 0"]).perform
      (.execute "L" "2 2 17e307 0 3 3")).1.sink.lines.toList.length = 2 := by
  have hsink : ((recorded [.run "M1 1q0 0"]).perform
      (.execute "L" "2 2 17e307 0 3 3")).1.sink.toList =
      [.segment (.moveTo ⟨.ofNat 1, .ofNat 1⟩), .segment (.lineTo ⟨.ofNat 2, .ofNat 2⟩)] ++
        .segment (.lineTo ⟨(Literal.mk none ['1', '7'] none
          (some ⟨'e', none, ['3', '0', '7']⟩)).value, .ofNat 0⟩) ::
        [.segment (.lineTo ⟨.ofNat 3, .ofNat 3⟩)] := by
    decide +kernel
  obtain ⟨hfits, -⟩ := rendered_mirrors_recorded {} [.run "M1 1q0 0"]
    (.execute "L" "2 2 17e307 0 3 3")
  obtain ⟨-, hoverflow⟩ := rendered_mirrors_recorded { precision := -308 } [.run "M1 1q0 0"]
    (.execute "L" "2 2 17e307 0 3 3")
  obtain ⟨hrefused, -, -, -, -, -, -, -, hlines⟩ :=
    hoverflow _ _ _ hsink (by decide +kernel) (by decide +kernel) (by decide +kernel)
  refine ⟨(hfits ?_).1, ?_, hrefused, hlines.length_eq.symm⟩
  · rw [hsink]
    decide +kernel
  · rw [← Array.length_toList, hsink]
    rfl

end Session

end PathData

end SvgDrawing
