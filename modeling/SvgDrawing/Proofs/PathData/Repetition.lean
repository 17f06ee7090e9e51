import SvgDrawing.Proofs.PathData.LiteralRow

/-!
# Repeated commands

A command with values for several segments draws what the command draws when it is given once for
each of them.  The pen that a repetition leaves is the pen of the next one, so relative points are
counted on and smooth curves continue the one before.  Only a move changes: further values are lines
(`Command.further`).

The same holds of argument texts.  When the first one is read to its end, joining two texts by
separators gives the values of both, and a command with the joined text is two commands.
-/
namespace SvgDrawing.PathData

/-! ## Values of several repetitions -/

/-- The arguments of the second part are drawn from where the first part ended. -/
theorem Pen.drawEach_append {α : Type} (segment : Pen → α → Segment) (pen : Pen)
    (front back : List α) :
    pen.drawEach segment (front ++ back) = pen.drawEach segment front ++
      (pen.afterAll (pen.drawEach segment front)).drawEach segment back := by
  induction front generalizing pen with
  | nil => rfl
  | cons a rest ih => exact congrArg (segment pen a :: ·) (ih (pen.after (segment pen a)))

namespace Command

/-- The command that further values belong to.  After the first point of a move they make
lines. -/
def further (c : Command) : Command :=
  match c.verb with
  | .moveTo => { c with verb := .lineTo }
  | _ => c

@[simp] theorem arity_further (c : Command) : c.further.verb.arity = c.verb.arity := by
  obtain ⟨verb, relative⟩ := c
  cases verb <;> rfl

@[simp] theorem further_further (c : Command) : c.further.further = c.further := by
  obtain ⟨verb, relative⟩ := c
  cases verb <;> rfl

/-- Values that come after whole groups are drawn as by the command given again. -/
theorem draw_append {c : Command} (hpos : 0 < c.verb.arity) {front : List Double}
    (h : c.Admits front) (pen : Pen) (back : List Double) :
    c.draw pen (front ++ back) =
      c.draw pen front ++ c.further.draw (pen.afterAll (c.draw pen front)) back := by
  obtain ⟨verb, relative⟩ := c
  obtain ⟨⟨k, hk⟩, hne⟩ := h
  cases verb with
  | moveTo =>
    have hpoints := points_append back front ⟨k, hk⟩
    simp only [draw, further, hpoints]
    cases hfront : points front with
    | nil =>
      have hlength := length_points front
      have := List.length_pos_iff.mpr (hne hpos)
      simp only [hfront, List.length_nil, Verb.arity] at hlength hk
      omega
    | cons p rest =>
      simp only [List.cons_append, Pen.drawEach_append]
      rfl
  | lineTo => simp only [draw, further, points_append back front ⟨k, hk⟩, Pen.drawEach_append]
  | horizontalTo => simp only [draw, further, Pen.drawEach_append]
  | verticalTo => simp only [draw, further, Pen.drawEach_append]
  | cubicTo =>
    simp only [Verb.arity] at hk
    have hpoints := points_append back front (by omega)
    have htriples := triples_append (points back) (points front) (by rw [length_points]; omega)
    simp only [draw, further, hpoints, htriples, Pen.drawEach_append]
  | smoothTo =>
    simp only [Verb.arity] at hk
    have hpoints := points_append back front (by omega)
    have hpairs := pairs_append (points back) (points front) (by rw [length_points]; omega)
    simp only [draw, further, hpoints, hpairs, Pen.drawEach_append]
  | closePath => exact absurd hpos (Nat.lt_irrefl 0)

/-- The letter that goes on with further values. -/
def furtherName (name : String) : String :=
  if name = "M" then "L" else if name = "m" then "l" else name

theorem ofText?_furtherName {name : String} {c : Command} (h : ofText? name = some c) :
    ofText? (furtherName name) = some c.further := by
  rw [ofText?] at h
  split at h
  · next letter hletter =>
    have hname : name = String.ofList [letter] := by rw [← hletter, String.ofList_toList]
    subst hname
    unfold ofLetter? at h
    split at h <;> cases h <;> rfl
  · cases h

end Command

/-! ## Argument texts -/

/-- A text that supplies whole groups of `n` numbers, at least one group, and no number that is
too large. -/
structure Supplies (n : Nat) (text : List Char) : Prop where
  small : Literal.tooLarge? (Literal.readAll text).1 = none
  ne_nil : (Literal.readAll text).1 ≠ []
  dvd : n ∣ (Literal.readAll text).1.length

/-- The values that are read from a text. -/
def scanned (text : List Char) : List Double := (Literal.readAll text).1.map Literal.value

/-- A command is carried out with the values that its arguments supply, and with nothing else. -/
theorem Command.arguments_eq_ok_iff_supplies {c : Command} (hpos : 0 < c.verb.arity) (name : String)
    (text : List Char) (values : List Double) :
    c.arguments name text = .ok values ↔ Supplies c.verb.arity text ∧ values = scanned text := by
  rw [arguments_eq_ok_iff hpos]
  constructor
  · rintro ⟨hsmall, hne, hdvd, rfl⟩
    rw [List.length_map] at hdvd
    exact ⟨⟨hsmall, fun hnil => hne (by rw [hnil]; rfl), hdvd⟩, rfl⟩
  · rintro ⟨h, rfl⟩
    refine ⟨h.small, ?_, ?_, rfl⟩
    · simpa [scanned] using h.ne_nil
    · rw [scanned, List.length_map]
      exact h.dvd

theorem Supplies.admits {c : Command} {text : List Char} (h : Supplies c.verb.arity text) :
    c.Admits (scanned text) := by
  refine ⟨?_, fun _ => ?_⟩
  · rw [scanned, List.length_map]
    exact h.dvd
  · simpa [scanned] using h.ne_nil

section

variable {n : Nat} {front gap back : List Char}

theorem readAll_append_separators_append (hend : (Literal.readAll front).2 = []) (hne : gap ≠ [])
    (hgap : ∀ c ∈ gap, Literal.isSeparator c) (back : List Char) :
    Literal.readAll (front ++ gap ++ back) =
      ((Literal.readAll front).1 ++ (Literal.readAll back).1, (Literal.readAll back).2) := by
  have hstart : StartsWith (Literal.isSeparator ·) (gap ++ back) := by
    cases gap with
    | nil => exact absurd rfl hne
    | cons c rest => exact hgap c List.mem_cons_self
  rw [List.append_assoc, Literal.readAll_append hend hstart,
    Literal.readAll_separators_append hgap]

/-- What two texts supply, they supply together when the first one is read to its end. -/
theorem Supplies.append (hfront : Supplies n front) (hend : (Literal.readAll front).2 = [])
    (hne : gap ≠ []) (hgap : ∀ c ∈ gap, Literal.isSeparator c) (hback : Supplies n back) :
    Supplies n (front ++ gap ++ back) := by
  have hread := readAll_append_separators_append hend hne hgap back
  refine ⟨?_, ?_, ?_⟩
  · have hsmall := Literal.tooLarge?_eq_none_iff.mp hfront.small
    rw [hread, Literal.tooLarge?_eq_none_iff, List.forall_mem_append]
    exact ⟨hsmall, Literal.tooLarge?_eq_none_iff.mp hback.small⟩
  · rw [hread]
    exact List.append_ne_nil_of_left_ne_nil hfront.ne_nil _
  · rw [hread, List.length_append]
    exact Nat.dvd_add hfront.dvd hback.dvd

theorem scanned_append (hend : (Literal.readAll front).2 = []) (hne : gap ≠ [])
    (hgap : ∀ c ∈ gap, Literal.isSeparator c) (back : List Char) :
    scanned (front ++ gap ++ back) = scanned front ++ scanned back := by
  rw [scanned, readAll_append_separators_append hend hne hgap, List.map_append]
  rfl

end

/-- A known command draws what the values of its arguments give. -/
theorem execute_of_supplies {name : String} {c : Command} (hc : Command.ofText? name = some c)
    (hpos : 0 < c.verb.arity) {text : List Char} (h : Supplies c.verb.arity text) (pen : Pen) :
    execute pen name text = .ofSegments (c.draw pen (scanned text)) :=
  execute_eq_ofSegments hc ((Command.arguments_eq_ok_iff_supplies hpos name text _).mpr ⟨h, rfl⟩)

namespace Session

/-- A command with whole groups of values draws and does not fail. -/
theorem perform_execute (s : Session Recording) {name : String} {c : Command}
    (hc : Command.ofText? name = some c) (hpos : 0 < c.verb.arity) {text : String}
    (h : Supplies c.verb.arity text.toList) :
    s.perform (.execute name text) =
      (s.extend (.ofSegments (c.draw s.pen (scanned text.toList))), none) := by
  rw [perform_eq, Step.trace, execute_of_supplies hc hpos h]
  rfl

/-- Whatever was drawn before: a command with the arguments `front` and `back`, any separators
between them, records the same and leaves the same session as the command with the arguments
`front` and then, with the arguments `back`, the command that further values belong to.  None of
the three fails.  It needs that both texts supply whole groups of values and that `front` is read
to its end. -/
theorem execute_repeated (s : Session Recording) {name : String} {c : Command}
    (hc : Command.ofText? name = some c) (hpos : 0 < c.verb.arity) {front gap back : String}
    (hfront : Supplies c.verb.arity front.toList) (hend : (Literal.readAll front.toList).2 = [])
    (hne : gap ≠ "") (hgap : ∀ x ∈ gap.toList, Literal.isSeparator x)
    (hback : Supplies c.verb.arity back.toList) :
    ∃ s₁ s₂ : Session Recording,
      s.perform (.execute name front) = (s₁, none) ∧
      s₁.perform (.execute (Command.furtherName name) back) = (s₂, none) ∧
      s.perform (.execute name (front ++ gap ++ back)) = (s₂, none) := by
  have hgap' : gap.toList ≠ [] := by simpa using hne
  have hfurther := Command.ofText?_furtherName hc
  have hfirst := s.perform_execute hc hpos hfront
  have hsecond := perform_execute (s.extend (.ofSegments (c.draw s.pen (scanned front.toList))))
    hfurther (c.arity_further ▸ hpos) (c.arity_further ▸ hback)
  refine ⟨_, _, hfirst, hsecond, ?_⟩
  have hwhole : Supplies c.verb.arity (front ++ gap ++ back).toList := by
    rw [String.toList_append, String.toList_append]
    exact hfront.append hend hgap' hgap hback
  rw [s.perform_execute hc hpos hwhole, String.toList_append, String.toList_append,
    scanned_append hend hgap' hgap, Command.draw_append hpos hfront.admits,
    extend_ofSegments_append, pen_extend_ofSegments]

/-- A relative move with three points is a relative move to the first one and then relative lines to
the others. -/
theorem execute_repeated_move :
    Supplies 2 "1 2".toList ∧ (Literal.readAll "1 2".toList).2 = [] ∧
    Supplies 2 "3-4 5,6 rest".toList ∧
    ∃ s₁ s₂ : Session Recording,
      (new #[]).perform (.execute "m" "1 2") = (s₁, none) ∧
      s₁.perform (.execute "l" "3-4 5,6 rest") = (s₂, none) ∧
      (new #[]).perform (.execute "m" "1 2, 3-4 5,6 rest") = (s₂, none) := by
  have hfront : Supplies 2 "1 2".toList :=
    ⟨by decide +kernel, by decide +kernel, by decide +kernel⟩
  have hend : (Literal.readAll "1 2".toList).2 = [] := by decide +kernel
  have hback : Supplies 2 "3-4 5,6 rest".toList :=
    ⟨by decide +kernel, by decide +kernel, by decide +kernel⟩
  have hmove : Command.ofText? "m" = some ⟨.moveTo, true⟩ := by decide
  have hne : ", " ≠ "" := by decide
  have hgap : ∀ x ∈ ", ".toList, Literal.isSeparator x := List.all_eq_true.mp (by decide)
  have htext : "1 2" ++ ", " ++ "3-4 5,6 rest" = "1 2, 3-4 5,6 rest" := by decide
  rw [← htext]
  exact ⟨hfront, hend, hback,
    execute_repeated (new #[]) hmove (by decide) hfront hend hne hgap hback⟩

end Session

end SvgDrawing.PathData
