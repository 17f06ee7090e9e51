import SvgDrawing.Proofs.Element.Conversion

/-!
# The two policies

An element that cannot be converted is left out with a warning under one policy, and ends the
conversion under the other.  Both go through a document in the same order and write the same log up
to the first such element, so that each outcome can be told from the other.

`Drawable.failure?` is why an element cannot be converted, `Drawable.skipping` the warning about it,
and `convertTree_policies` compares the two policies, and any other name of one, on a document.
-/
namespace SvgDrawing

/-- A warning about an element that is left out. -/
def Log.Entry.isSkipping (entry : Log.Entry) : Bool :=
  entry.level = .warning && "Skipping ".toList.isPrefixOf entry.message.toList

namespace Drawable

/-- Why an element cannot be converted, if it cannot. -/
def failure? (d : Drawable) : Option ConversionError :=
  match d.convert.result with
  | .ok _ => none
  | .error e => some e

/-- The warning about an element that is left out. -/
def skipping (d : Drawable) (e : ConversionError) : Log.Entry :=
  ⟨.warning, "Skipping " ++ d.label ++ ": " ++ e.message⟩

/-- The warning about an element, if it is left out. -/
def skipping? (d : Drawable) : Option Log.Entry := d.failure?.map d.skipping

variable {d : Drawable} {e : ConversionError}

theorem failure?_eq_some_iff : d.failure? = some e ↔ d.convert.result = .error e := by
  rw [failure?]
  cases d.convert.result <;> simp

theorem failure?_eq_none_iff : d.failure? = none ↔ ∃ c, d.convert.result = .ok c := by
  rw [failure?]
  cases d.convert.result <;> simp

theorem skipping?_eq_some (h : d.failure? = some e) : d.skipping? = some (d.skipping e) := by
  rw [skipping?, h]
  rfl

theorem skipping?_eq_none (h : d.failure? = none) : d.skipping? = none := by
  rw [skipping?, h]
  rfl

/-! ## Warnings in the log -/

theorem isSkipping_skipping (d : Drawable) (e : ConversionError) : (d.skipping e).isSkipping := by
  simp [skipping, Log.Entry.isSkipping]

theorem isSkipping_ofDiagnostic (d : Diagnostic) : (Log.ofDiagnostic d).isSkipping = false := by
  unfold Log.ofDiagnostic Diagnostic.message
  simp only [Log.Entry.isSkipping, String.toList_append, String.reduceToList, List.cons_append]
  rfl

/-- Nothing that is written while an element is converted says that it is left out. -/
theorem not_isSkipping_of_mem_log {entry : Log.Entry} (h : entry ∈ d.convert.log) :
    entry.isSkipping = false := by
  have htrace : ∀ t : PathData.Trace, ∀ entry ∈ t.log, entry.isSkipping = false := by
    intro t
    rw [PathData.Trace.log, List.forall_mem_map]
    exact fun diagnostic _ => isSkipping_ofDiagnostic diagnostic
  rw [convert] at h
  split at h
  · exact htrace _ entry h
  · rcases List.mem_append.mp h with h | h
    · exact htrace _ entry h
    · rw [List.mem_singleton.mp h]
      rfl

end Drawable

/-- What is written about a shape on the way through a document that is not ended by it. -/
def Visit.log : Visit → List Log.Entry
  | .hidden d => [⟨.debug, "Skipping hidden element " ++ d.label⟩]
  | .drawn d => d.convert.log ++ d.skipping?.toList

/-- The warnings about elements that are left out, one for each of them and in order. -/
theorem filter_isSkipping_flatMap_log (visits : List Visit) :
    (visits.flatMap Visit.log).filter Log.Entry.isSkipping =
      (drawnOf visits).filterMap Drawable.skipping? := by
  induction visits with
  | nil => rfl
  | cons visit rest ih =>
    rw [List.flatMap_cons, List.filter_append, ih]
    cases visit with
    | hidden d => rfl
    | drawn d =>
      have hlog : d.convert.log.filter Log.Entry.isSkipping = [] := by
        rw [List.filter_eq_nil_iff]
        intro entry hentry
        simp [Drawable.not_isSkipping_of_mem_log hentry]
      rw [Visit.log, List.filter_append, hlog, drawnOf_drawn]
      cases hd : d.skipping? with
      | none => rw [List.filterMap_cons_none hd]; rfl
      | some entry =>
        obtain ⟨e, -, rfl⟩ := Option.map_eq_some_iff.mp hd
        rw [List.filterMap_cons_some hd]
        simp [Drawable.isSkipping_skipping]

/-! ## Shapes under either policy -/

/-- Leaving out what cannot be converted never fails. -/
theorem convertVisits_skip (visits : List Visit) :
    convertVisits .skip visits =
      ⟨visits.flatMap Visit.log, .ok ((drawnOf visits).filterMap Drawable.converted?)⟩ := by
  induction visits with
  | nil => rfl
  | cons visit rest ih =>
    cases visit with
    | hidden d =>
      rw [convertVisits, ih]
      rfl
    | drawn d =>
      cases hd : d.convert.result with
      | ok c =>
        have hskipping : d.skipping? = none :=
          Drawable.skipping?_eq_none (Drawable.failure?_eq_none_iff.mpr ⟨c, hd⟩)
        simp [convertVisits, hd, ih, Visit.log, hskipping, Drawable.converted?,
          Except.map, Except.toOption]
      | error e =>
        have hskipping : d.skipping? = some (d.skipping e) :=
          Drawable.skipping?_eq_some (Drawable.failure?_eq_some_iff.mpr hd)
        simp [convertVisits, hd, ih, Visit.log, hskipping, Drawable.converted?,
          Except.toOption, Drawable.skipping]

/-- Up to the first shape that cannot be converted, nothing is left out and nothing ends the
conversion. -/
theorem convertVisits_stop_append {front : List Visit}
    (h : ∀ d ∈ drawnOf front, d.failure? = none) (back : List Visit) :
    convertVisits .stop (front ++ back) =
      ⟨front.flatMap Visit.log ++ (convertVisits .stop back).log,
        (convertVisits .stop back).result.map
          ((drawnOf front).filterMap Drawable.converted? ++ ·)⟩ := by
  induction front with
  | nil =>
    rw [List.nil_append]
    rcases convertVisits .stop back with ⟨log, e | converted⟩ <;> rfl
  | cons visit rest ih =>
    cases visit with
    | hidden d =>
      rw [List.cons_append, convertVisits, ih h]
      rfl
    | drawn d =>
      rw [drawnOf_drawn, List.forall_mem_cons] at h
      obtain ⟨hd, hrest⟩ := h
      obtain ⟨c, hc⟩ := Drawable.failure?_eq_none_iff.mp hd
      have hconverted : d.converted? = some c := Drawable.converted?_eq_some_iff.mpr hc
      simp only [List.cons_append, convertVisits, hc, ih hrest, drawnOf_drawn, List.flatMap_cons,
        Visit.log, Drawable.skipping?_eq_none hd, List.filterMap_cons_some hconverted]
      cases (convertVisits .stop back).result <;> simp [Except.map]

/-- If all shapes can be converted, it does not matter what should happen otherwise. -/
theorem convertVisits_stop_eq_skip {visits : List Visit}
    (h : ∀ d ∈ drawnOf visits, d.failure? = none) :
    convertVisits .stop visits = convertVisits .skip visits := by
  have hall := convertVisits_stop_append h []
  simpa [convertVisits, convertVisits_skip, Except.map] using hall

/-- The first shape that cannot be converted ends the conversion, in the log in front of the
place where its warning would be. -/
theorem convertVisits_stop_of_failure {front : List Visit} {d : Drawable} {e : ConversionError}
    (h : ∀ b ∈ drawnOf front, b.failure? = none) (hd : d.failure? = some e) (back : List Visit) :
    convertVisits .stop (front ++ .drawn d :: back) =
      ⟨front.flatMap Visit.log ++ d.convert.log, .error e⟩ := by
  rw [convertVisits_stop_append h]
  simp only [convertVisits, Drawable.failure?_eq_some_iff.mp hd]
  rfl

/-! ## Documents -/

/-- A list of which some element fails has a first one that does. -/
theorem exists_first_failure {ds : List Drawable} (h : ¬ ∀ d ∈ ds, d.failure? = none) :
    ∃ before d after e, ds = before ++ d :: after ∧ (∀ b ∈ before, b.failure? = none) ∧
      d.failure? = some e := by
  induction ds with
  | nil => exact absurd (List.forall_mem_nil _) h
  | cons d rest ih =>
    cases hd : d.failure? with
    | some e => exact ⟨[], d, rest, e, rfl, List.forall_mem_nil _, hd⟩
    | none =>
      rw [List.forall_mem_cons, and_iff_right hd] at h
      obtain ⟨before, d', after, e, rfl, hbefore, hd'⟩ := ih h
      exact ⟨d :: before, d', after, e, rfl, List.forall_mem_cons.mpr ⟨hd, hbefore⟩, hd'⟩

/-- Where a drawn shape stands among the shapes met on the way. -/
theorem exists_visits_of_drawnOf {visits : List Visit} {before after : List Drawable}
    {d : Drawable} (h : drawnOf visits = before ++ d :: after) :
    ∃ front back, visits = front ++ .drawn d :: back ∧ drawnOf front = before ∧
      drawnOf back = after := by
  obtain ⟨front, visit, back, rfl, hvisit, hfront, hback⟩ := exists_of_filterMap_eq_append_cons h
  cases visit with
  | hidden d' => cases hvisit
  | drawn d' =>
    cases hvisit
    exact ⟨front, back, rfl, hfront, hback⟩

theorem convertTree_raise (root : Node) :
    convertTree root "raise" =
      ⟨(convertVisits .stop root.visitsBelow).log,
        (convertVisits .stop root.visitsBelow).result.mapError .conversion⟩ := rfl

theorem convertTree_skip (root : Node) :
    convertTree root "skip" =
      ⟨root.visitsBelow.flatMap Visit.log,
        .ok (root.drawables.filterMap Drawable.converted?)⟩ := by
  have hskip : convertTree root "skip" =
      ⟨(convertVisits .skip root.visitsBelow).log,
        (convertVisits .skip root.visitsBelow).result.mapError .conversion⟩ := rfl
  rw [hskip, convertVisits_skip]
  rfl

theorem convertTree_raise_eq_skip {root : Node} (h : ∀ d ∈ root.drawables, d.failure? = none) :
    convertTree root "raise" = convertTree root "skip" := by
  rw [convertTree_raise, convertVisits_stop_eq_skip h]
  rfl

/-- The first element that cannot be converted ends the conversion.  Its warning is the first
one of the other policy, and the log is what stands in front of it. -/
theorem convertTree_raise_of_failure {root : Node} {before after : List Drawable} {d : Drawable}
    {e : ConversionError} (h : root.drawables = before ++ d :: after)
    (hbefore : ∀ b ∈ before, b.failure? = none) (hd : d.failure? = some e) :
    (convertTree root "raise").result = .error (.conversion e) ∧
      (convertTree root "raise").log.filter Log.Entry.isSkipping = [] ∧
      ∃ later, (convertTree root "skip").log =
        (convertTree root "raise").log ++ d.skipping e :: later := by
  obtain ⟨front, back, hvisits, rfl, -⟩ := exists_visits_of_drawnOf h
  have hnone : (drawnOf front).filterMap Drawable.skipping? = [] :=
    List.filterMap_eq_nil_iff.mpr fun b hb => Drawable.skipping?_eq_none (hbefore b hb)
  rw [convertTree_raise, convertTree_skip, hvisits, convertVisits_stop_of_failure hbefore hd]
  refine ⟨rfl, ?_, back.flatMap Visit.log, ?_⟩
  · rw [List.filter_append, filter_isSkipping_flatMap_log, hnone, List.nil_append,
      List.filter_eq_nil_iff]
    intro entry hentry
    simp [Drawable.not_isSkipping_of_mem_log hentry]
  · simp [Visit.log, Drawable.skipping?_eq_some hd]

/-- Leaving out what cannot be converted never fails: it gives all elements that are drawn and
can be converted, in the order of the document, and a warning for each of the others in the
same order.  Stopping at what cannot be converted gives a result exactly if there is nothing
of the kind, and then it is the same one with the same log.  Otherwise the error is that of
the first such element, and the log is that of leaving elements out up to the warning about
this element, which is the first of these warnings.  Another policy is refused whatever the
document is. -/
theorem convertTree_policies (root : Node) :
    (convertTree root "skip").result = .ok (root.drawables.filterMap Drawable.converted?) ∧
    (convertTree root "skip").log.filter Log.Entry.isSkipping =
      root.drawables.filterMap Drawable.skipping? ∧
    ((∃ elements, (convertTree root "raise").result = .ok elements) ↔
      ∀ d ∈ root.drawables, d.failure? = none) ∧
    ((∀ d ∈ root.drawables, d.failure? = none) →
      convertTree root "raise" = convertTree root "skip") ∧
    (∀ cause, (convertTree root "raise").result = .error cause →
      ∃ before d after e, root.drawables = before ++ d :: after ∧
        (∀ b ∈ before, b.failure? = none) ∧ d.failure? = some e ∧ cause = .conversion e ∧
        (convertTree root "raise").log.filter Log.Entry.isSkipping = [] ∧
        ∃ later, (convertTree root "skip").log =
          (convertTree root "raise").log ++ d.skipping e :: later) ∧
    (∀ policy, policy ≠ "raise" → policy ≠ "skip" →
      convertTree root policy = ⟨[], .error (.invalidPolicy policy)⟩) := by
  have hskip : (convertTree root "skip").result =
      .ok (root.drawables.filterMap Drawable.converted?) := by
    rw [convertTree_skip]
  refine ⟨hskip, ?_, ⟨?_, ?_⟩, convertTree_raise_eq_skip, ?_, ?_⟩
  · rw [convertTree_skip, filter_isSkipping_flatMap_log]
    rfl
  · rintro ⟨elements, helements⟩
    by_cases hall : ∀ d ∈ root.drawables, d.failure? = none
    · exact hall
    · obtain ⟨before, d, after, e, hds, hbefore, hd⟩ := exists_first_failure hall
      rw [(convertTree_raise_of_failure hds hbefore hd).1] at helements
      cases helements
  · intro hall
    rw [convertTree_raise_eq_skip hall]
    exact ⟨_, hskip⟩
  · intro cause hcause
    have hfailing : ¬ ∀ d ∈ root.drawables, d.failure? = none := by
      intro hall
      rw [convertTree_raise_eq_skip hall, hskip] at hcause
      cases hcause
    obtain ⟨before, d, after, e, hds, hbefore, hd⟩ := exists_first_failure hfailing
    obtain ⟨hresult, hlog⟩ := convertTree_raise_of_failure hds hbefore hd
    rw [hresult] at hcause
    cases hcause
    exact ⟨before, d, after, e, hds, hbefore, hd, rfl, hlog⟩
  · intro policy hraise hskip
    have hpolicy : Policy.ofName? policy = none := by
      unfold Policy.ofName?
      split
      · exact absurd rfl hraise
      · exact absurd rfl hskip
      · rfl
    rw [convertTree, hpolicy]

/-- Between two shapes that can be converted stands a rectangle without a height. -/
theorem policies_at_incomplete_rectangle :
    ∃ root : Node, root = .element "svg" [] [.element "path" [("d", "M0 0Q1 1")] [],
        .element "rect" [("x", "1"), ("y", "2"), ("width", "3px")] [],
        .element "polygon" [("points", "0,0")] []] ∧
      (convertTree root "raise").result =
        .error (.conversion (.requiredAttribute "height" none)) ∧
      ∃ (d : Drawable) (later : List Log.Entry), (convertTree root "skip").log =
        (convertTree root "raise").log ++ d.skipping (.requiredAttribute "height" none) :: later := by
  refine ⟨_, rfl, ?_⟩
  have hdrawables : (Node.element "svg" [] [.element "path" [("d", "M0 0Q1 1")] [],
      .element "rect" [("x", "1"), ("y", "2"), ("width", "3px")] [],
      .element "polygon" [("points", "0,0")] []]).drawables =
      [⟨.path, "path", [("d", "M0 0Q1 1")]⟩] ++
        ⟨.rect, "rect", [("x", "1"), ("y", "2"), ("width", "3px")]⟩ ::
        [⟨.polygon, "polygon", [("points", "0,0")]⟩] := by
    decide +kernel
  have hfailure : Drawable.failure? ⟨.rect, "rect", [("x", "1"), ("y", "2"), ("width", "3px")]⟩ =
      some (.requiredAttribute "height" none) := by
    decide +kernel
  obtain ⟨hresult, -⟩ := convertTree_raise_of_failure hdrawables (by decide +kernel) hfailure
  obtain ⟨-, -, -, -, hraise, -⟩ := convertTree_policies _
  obtain ⟨-, d, -, e, -, -, -, hcause, -, later, hlog⟩ := hraise _ hresult
  cases hcause
  exact ⟨hresult, d, later, hlog⟩

end SvgDrawing
