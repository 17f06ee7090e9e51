import Mathlib.Data.List.Forall2

/-!
# Results and errors

What a sequence of steps that can fail gives when none of them does, and what it fails with when
one of them does.  Some elements of a list may give no result: then it matters where the results
come from.
-/
namespace SvgDrawing

variable {ε α β : Type}

theorem toOption_eq_some_iff {result : Except ε α} {a : α} :
    result.toOption = some a ↔ result = .ok a := by
  cases result <;> simp [Except.toOption]

/-- The error of a result, if it is one. -/
def error? : Except ε α → Option ε
  | .error e => some e
  | .ok _ => none

theorem error?_eq_some_iff {result : Except ε α} {e : ε} :
    error? result = some e ↔ result = .error e := by
  cases result <;> simp [error?]

/-- What has one error only fails with it exactly if it has no result. -/
theorem eq_error_iff_of {result : Except ε α} {p : α → Prop} {cause e : ε}
    (hok : ∀ a, result = .ok a ↔ p a) (herror : ∀ e, result = .error e → e = cause) :
    result = .error e ↔ (∀ a, ¬ p a) ∧ e = cause := by
  constructor
  · intro h
    refine ⟨fun a ha => ?_, herror e h⟩
    rw [(hok a).mpr ha] at h
    cases h
  · rintro ⟨hnone, rfl⟩
    cases h : result with
    | ok a => exact absurd ((hok a).mp h) (hnone a)
    | error cause => rw [herror cause h]

/-- The last step of a sequence is reached through a result of the first. -/
theorem exists_of_bind_eq_ok {first : Except ε α} {next : α → Except ε β} {b : β}
    (h : first >>= next = .ok b) : ∃ a, first = .ok a ∧ next a = .ok b := by
  cases first with
  | error e => cases h
  | ok a => exact ⟨a, rfl, h⟩

/-- A sequence fails in its first step or after it. -/
theorem bind_eq_error_iff {first : Except ε α} {next : α → Except ε β} {e : ε} :
    first >>= next = .error e ↔ first = .error e ∨ ∃ a, first = .ok a ∧ next a = .error e := by
  cases first with
  | error cause =>
    change Except.error cause = .error e ↔ _
    simp
  | ok a =>
    change next a = .error e ↔ _
    simp

theorem exists_of_map_eq_ok {result : Except ε α} {f : α → β} {b : β}
    (h : result.map f = .ok b) : ∃ a, result = .ok a ∧ f a = b := by
  cases result with
  | error e => cases h
  | ok a =>
    cases h
    exact ⟨a, rfl, rfl⟩

theorem mapError_eq_ok_iff {ε' : Type} {result : Except ε α} {f : ε → ε'} {a : α} :
    result.mapError f = .ok a ↔ result = .ok a := by
  cases result with
  | error e => exact iff_of_false nofun nofun
  | ok b =>
    constructor
    · intro h
      cases h
      rfl
    · intro h
      cases h
      rfl

/-- A list of steps succeeds if each of them does, with all their results. -/
theorem mapM_eq_ok_iff {f : α → Except ε β} {as : List α} {bs : List β} :
    as.mapM f = .ok bs ↔ List.Forall₂ (fun a b => f a = .ok b) as bs := by
  constructor
  · intro h
    induction as generalizing bs with
    | nil => cases h; exact .nil
    | cons a rest ih =>
      rw [List.mapM_cons] at h
      obtain ⟨b, hb, h⟩ := exists_of_bind_eq_ok h
      obtain ⟨bs', hbs, h⟩ := exists_of_bind_eq_ok h
      cases h
      exact .cons hb (ih hbs)
  · intro h
    induction h with
    | nil => rfl
    | cons hb _ ih =>
      rw [List.mapM_cons, hb, ih]
      rfl

/-- A list of steps fails as the first of them does that fails. -/
theorem mapM_eq_error_iff {f : α → Except ε β} {as : List α} {e : ε} :
    as.mapM f = .error e ↔ ∃ front a back, as = front ++ a :: back ∧
      (∀ x ∈ front, ∃ b, f x = .ok b) ∧ f a = .error e := by
  constructor
  · intro h
    induction as with
    | nil => cases h
    | cons a rest ih =>
      rw [List.mapM_cons, bind_eq_error_iff] at h
      rcases h with ha | ⟨b, ha, h⟩
      · exact ⟨[], a, rest, rfl, nofun, ha⟩
      · rcases bind_eq_error_iff.mp h with hrest | ⟨bs, -, h⟩
        · obtain ⟨front, x, back, rfl, hfront, hx⟩ := ih hrest
          exact ⟨a :: front, x, back, rfl, List.forall_mem_cons.mpr ⟨⟨b, ha⟩, hfront⟩, hx⟩
        · cases h
  · rintro ⟨front, a, back, rfl, hfront, ha⟩
    induction front with
    | nil =>
      rw [List.nil_append, List.mapM_cons, ha]
      rfl
    | cons x front ih =>
      obtain ⟨⟨b, hb⟩, hfront⟩ := List.forall_mem_cons.mp hfront
      rw [List.cons_append, List.mapM_cons, hb, ih hfront]
      rfl

/-- What everything has that is related to something, a list has that is related to a list. -/
theorem forall_mem_of_forall₂ {R : α → β → Prop} {p : β → Prop} {as : List α} {bs : List β}
    (h : List.Forall₂ R as bs) (hR : ∀ a b, R a b → p b) : ∀ b ∈ bs, p b := by
  induction h with
  | nil => exact List.forall_mem_nil _
  | cons hb _ ih => exact List.forall_mem_cons.mpr ⟨hR _ _ hb, ih⟩

/-- A result of a list with some results left out comes from an element, and the results
before and after it come from the elements before and after. -/
theorem exists_of_filterMap_eq_append_cons {f : α → Option β} {as : List α}
    {front back : List β} {b : β} (h : as.filterMap f = front ++ b :: back) :
    ∃ before a after, as = before ++ a :: after ∧ f a = some b ∧ before.filterMap f = front ∧
      after.filterMap f = back := by
  obtain ⟨first, second, rfl, hfirst, hsecond⟩ := List.filterMap_eq_append_iff.mp h
  obtain ⟨skipped, a, after, rfl, hskipped, ha, hafter⟩ := List.filterMap_eq_cons_iff.mp hsecond
  refine ⟨first ++ skipped, a, after, (List.append_assoc ..).symm, ha, ?_, hafter⟩
  rw [List.filterMap_append, hfirst, List.filterMap_eq_nil_iff.mpr hskipped, List.append_nil]

end SvgDrawing
