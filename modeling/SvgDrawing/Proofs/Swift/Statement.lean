import Mathlib.Data.List.Forall2
import SvgDrawing.Proofs.Swift.Coordinates
import SvgDrawing.Proofs.Swift.NumberValue

/-!
# What a statement tells

A statement consists of an opening that depends on the kind of the operation and on the names in
use, and of the coordinates with fixed text after each of them.  The names are arbitrary, so the
opening is not simply compared.  Statements without coordinates are told apart by how they end, the
others by the call after the name of the path, none of which begins another.  Fixed text begins with
a comma or a parenthesis, which no number has, so the coordinates are found as well.

Two operations then have one line exactly if they are of one `Operation.Kind` and their coordinates
are the same after rounding, `Style.same_line_iff`.
-/
namespace SvgDrawing

open PathData (StartsWith)

/-! ## Kinds -/

/-- What an operation does, whatever its coordinates are. -/
inductive Operation.Kind where
  | start
  | fill
  | moveTo
  | lineTo
  | cubicTo
  | closePath
  | rectangle
  deriving DecidableEq

/-- The kind of an operation. -/
def Operation.kind : Operation → Kind
  | .start => .start
  | .fill => .fill
  | .segment (.moveTo _) => .moveTo
  | .segment (.lineTo _) => .lineTo
  | .segment (.cubicTo ..) => .cubicTo
  | .segment .closePath => .closePath
  | .rectangle .. => .rectangle

namespace Swift

/-! ## Opening and fixed text -/

/-- The call that a statement with coordinates makes on the path. -/
def call : Operation.Kind → String
  | .moveTo => ".move(to: CGPoint(x: "
  | .lineTo => ".addLine(to: CGPoint(x: "
  | .cubicTo => ".addCurve(to: CGPoint(x: "
  | .rectangle => ".addRect(CGRect(x: "
  | _ => ""

/-- The text after each coordinate. -/
def pieces : Operation.Kind → List String
  | .moveTo | .lineTo => [", y: ", "))"]
  | .cubicTo =>
    [", y: ", "), control1: CGPoint(x: ", ", y: ", "), control2: CGPoint(x: ", ", y: ", "))"]
  | .rectangle => [", y: ", ", width: ", ", height: ", "))"]
  | _ => []

/-- The order of coordinates in a statement: a curve has its target in front. -/
def arranged {α : Type} : Operation.Kind → List α → List α
  | .cubicTo, xs => xs.drop 4 ++ xs.take 4
  | _, xs => xs

/-- What stands in front of the coordinates. -/
def Style.opening (style : Style) : Operation.Kind → String
  | .start => "let " ++ style.pathName ++ " = CGMutablePath()"
  | .fill =>
    style.contextName ++ ".addPath(" ++ style.pathName ++ "); " ++ style.contextName ++
      ".fillPath()"
  | .closePath => style.pathName ++ ".closeSubpath()"
  | kind => style.pathName ++ call kind

/-- Texts with pieces of fixed text after each of them. -/
def interleaved : List String → List String → List Char
  | text :: texts, piece :: pieces => text.toList ++ (piece.toList ++ interleaved texts pieces)
  | _, _ => []

theorem Style.toList_statementWith (style : Style) (write : Double → String) (o : Operation) :
    (style.statementWith write o).toList = (style.opening o.kind).toList ++
      interleaved (arranged o.kind (o.coordinates.map write)) (pieces o.kind) := by
  cases o with
  | start => simp [statementWith, opening, interleaved, pieces, Operation.kind]
  | fill => simp [statementWith, opening, interleaved, pieces, Operation.kind]
  | rectangle corner size =>
    simp [statementWith, opening, interleaved, pieces, Operation.kind, call, arranged,
      Operation.coordinates, Operation.points, Point.values]
  | segment s =>
    cases s <;>
      simp [statementWith, opening, interleaved, pieces, Operation.kind, call, arranged,
        Operation.coordinates, Operation.points, Segment.points, Point.values, pointWith]

theorem length_arranged {α : Type} (kind : Operation.Kind) (xs : List α) :
    (arranged kind xs).length = xs.length := by
  cases kind with
  | cubicTo =>
    rw [arranged, List.length_append, List.length_drop, List.length_take]
    omega
  | _ => rfl

theorem mem_arranged {α : Type} {kind : Operation.Kind} {xs : List α} {x : α}
    (h : x ∈ arranged kind xs) : x ∈ xs := by
  cases kind with
  | cubicTo =>
    rcases List.mem_append.mp h with hdrop | htake
    · exact List.mem_of_mem_drop hdrop
    · exact List.mem_of_mem_take htake
  | _ => exact h

theorem arranged_inj {α : Type} {kind : Operation.Kind} {xs ys : List α}
    (hlength : xs.length = ys.length) (h : arranged kind xs = arranged kind ys) : xs = ys := by
  cases kind with
  | cubicTo =>
    obtain ⟨hdrop, htake⟩ := List.append_inj h (by simp [hlength])
    rw [← List.take_append_drop 4 xs, hdrop, htake, List.take_append_drop]
  | _ => exact h

/-! ## Telling coordinates apart -/

/-- Fixed text begins with one of these, and no number has any of them. -/
def IsDelimiter (c : Char) : Prop := c = ',' ∨ c = ')'

/-- A text without delimiters. -/
def Plain (text : String) : Prop := ∀ c ∈ text.toList, ¬ IsDelimiter c

/-- The first delimiter is found. -/
theorem append_inj_of_delimiter {front front' back back' : List Char}
    (hfront : ∀ c ∈ front, ¬ IsDelimiter c) (hfront' : ∀ c ∈ front', ¬ IsDelimiter c)
    (hback : StartsWith IsDelimiter back) (hback' : StartsWith IsDelimiter back')
    (h : front ++ back = front' ++ back') : front = front' ∧ back = back' := by
  -- what one front has more is at the beginning of the other back
  rcases List.append_eq_append_iff.mp h with ⟨more, rfl, rfl⟩ | ⟨more, rfl, rfl⟩
  · cases more with
    | nil => simp
    | cons c later => exact absurd hback (hfront' c (by simp))
  · cases more with
    | nil => simp
    | cons c later => exact absurd hback' (hfront c (by simp))

theorem startsWith_of_mem_pieces {kind : Operation.Kind} :
    ∀ piece ∈ pieces kind, StartsWith IsDelimiter piece.toList := by
  cases kind <;> simp [pieces, IsDelimiter]

theorem length_pieces (o : Operation) : (pieces o.kind).length = o.coordinates.length := by
  cases o with
  | start => rfl
  | fill => rfl
  | rectangle corner size => rfl
  | segment s => cases s <;> rfl

/-- Texts without delimiters are found between the pieces. -/
theorem interleaved_inj {texts texts' pieces : List String}
    (hpieces : ∀ piece ∈ pieces, StartsWith IsDelimiter piece.toList)
    (htexts : ∀ text ∈ texts, Plain text) (htexts' : ∀ text ∈ texts', Plain text)
    (hlength : texts.length = pieces.length) (hlength' : texts'.length = pieces.length)
    (h : interleaved texts pieces = interleaved texts' pieces) : texts = texts' := by
  induction pieces generalizing texts texts' with
  | nil => rw [List.length_eq_zero_iff.mp hlength, List.length_eq_zero_iff.mp hlength']
  | cons piece pieces ih =>
    obtain ⟨text, texts, rfl⟩ := List.exists_cons_of_length_eq_add_one hlength
    obtain ⟨text', texts', rfl⟩ := List.exists_cons_of_length_eq_add_one hlength'
    rw [List.forall_mem_cons] at hpieces htexts htexts'
    have hback : ∀ s, StartsWith IsDelimiter (piece.toList ++ s) := hpieces.1.append
    obtain ⟨htext, hrest⟩ := append_inj_of_delimiter htexts.1 htexts'.1 (hback _) (hback _) h
    rw [String.toList_inj.mp htext, ih hpieces.2 htexts.2 htexts'.2 (Nat.succ.inj hlength)
      (Nat.succ.inj hlength') (List.append_cancel_left hrest)]

/-! ## Telling kinds apart -/

/-- An operation without coordinates. -/
def IsBare (kind : Operation.Kind) : Prop := pieces kind = []

instance (kind : Operation.Kind) : Decidable (IsBare kind) := inferInstanceAs (Decidable (_ = _))

/-- How statements without coordinates end. -/
def ending : Operation.Kind → String
  | .start => "ePath()"
  | .fill => "lPath()"
  | .closePath => "bpath()"
  | _ => ""

theorem exists_opening_eq_append_ending (style : Style) {kind : Operation.Kind} (h : IsBare kind) :
    ∃ front, (style.opening kind).toList = front ++ (ending kind).toList := by
  cases kind with
  | start =>
    exact ⟨("let " ++ style.pathName ++ " = CGMutabl").toList, by simp [Style.opening, ending]⟩
  | fill =>
    exact ⟨(style.contextName ++ ".addPath(" ++ style.pathName ++ "); " ++ style.contextName ++
      ".fil").toList, by simp [Style.opening, ending]⟩
  | closePath => exact ⟨(style.pathName ++ ".closeSu").toList, by simp [Style.opening, ending]⟩
  | _ => cases h

theorem opening_eq (style : Style) {kind : Operation.Kind} (h : ¬ IsBare kind) :
    style.opening kind = style.pathName ++ call kind := by
  cases kind <;> first | rfl | exact absurd rfl h

theorem exists_interleaved_concat {texts pieces : List String} {last : String}
    (hlength : texts.length = (pieces ++ [last]).length) :
    ∃ front, interleaved texts (pieces ++ [last]) = front ++ last.toList := by
  induction pieces generalizing texts with
  | nil =>
    obtain ⟨text, rest, rfl⟩ := List.exists_cons_of_length_eq_add_one hlength
    rw [List.length_eq_zero_iff.mp (Nat.succ.inj hlength)]
    exact ⟨text.toList, by simp [interleaved]⟩
  | cons piece pieces ih =>
    obtain ⟨text, rest, rfl⟩ := List.exists_cons_of_length_eq_add_one hlength
    obtain ⟨front, hfront⟩ := ih (Nat.succ.inj hlength)
    exact ⟨text.toList ++ (piece.toList ++ front), by simp [interleaved, hfront]⟩

/-- Coordinates are followed by two parentheses at the end. -/
theorem exists_interleaved_eq_append {texts : List String} {kind : Operation.Kind}
    (hlength : texts.length = (pieces kind).length) (h : ¬ IsBare kind) :
    ∃ front, interleaved texts (pieces kind) = front ++ "))".toList := by
  have hlast : pieces kind = (pieces kind).dropLast ++ ["))"] := by
    cases kind <;> first | rfl | exact absurd rfl h
  rw [hlast] at hlength ⊢
  exact exists_interleaved_concat hlength

theorem ending_inj {kind kind' : Operation.Kind} (h : IsBare kind) (h' : IsBare kind')
    (heq : ending kind = ending kind') : kind = kind' := by
  revert h h' heq
  cases kind <;> cases kind' <;> decide

/-- No call begins another. -/
theorem call_inj {kind kind' : Operation.Kind} (h : ¬ IsBare kind) (h' : ¬ IsBare kind')
    (heq : (call kind).toList.take 5 = (call kind').toList.take 5) : kind = kind' := by
  revert h h' heq
  cases kind <;> cases kind' <;> decide

theorem length_ending {kind : Operation.Kind} (h : IsBare kind) :
    (ending kind).toList.length = 7 := by
  cases kind <;> first | decide | cases h

theorem ending_eq_append {kind : Operation.Kind} (h : IsBare kind) :
    (ending kind).toList = (ending kind).toList.take 5 ++ "()".toList := by
  cases kind <;> first | decide | cases h

theorem le_length_call {kind : Operation.Kind} (h : ¬ IsBare kind) :
    5 ≤ (call kind).toList.length := by
  cases kind <;> first | decide | exact absurd rfl h

theorem interleaved_of_isBare {kind : Operation.Kind} (h : IsBare kind) (texts : List String) :
    interleaved texts (pieces kind) = [] := by
  rw [h]
  cases texts <;> rfl

section

variable {style : Style} {kind kind' : Operation.Kind} {texts texts' : List String}

/-- A statement with coordinates does not end like one without. -/
theorem opening_ne_of_isBare (h : IsBare kind) (h' : ¬ IsBare kind')
    (hlength : texts'.length = (pieces kind').length) (front : List Char) :
    (style.opening kind).toList ≠ front ++ interleaved texts' (pieces kind') := by
  obtain ⟨before, hbefore⟩ := exists_opening_eq_append_ending style h
  obtain ⟨after, hafter⟩ := exists_interleaved_eq_append hlength h'
  rw [hbefore, hafter, ending_eq_append h, ← List.append_assoc, ← List.append_assoc]
  intro heq
  have hends : "()".toList = "))".toList := (List.append_inj' heq (by decide)).2
  exact absurd hends (by decide)

/-- The kind is told from a statement. -/
theorem kind_eq_of_opening_append (hlength : texts.length = (pieces kind).length)
    (hlength' : texts'.length = (pieces kind').length)
    (h : (style.opening kind).toList ++ interleaved texts (pieces kind) =
      (style.opening kind').toList ++ interleaved texts' (pieces kind')) : kind = kind' := by
  by_cases hbare : IsBare kind
  · rw [interleaved_of_isBare hbare, List.append_nil] at h
    by_cases hbare' : IsBare kind'
    · obtain ⟨before, hbefore⟩ := exists_opening_eq_append_ending style hbare
      obtain ⟨before', hbefore'⟩ := exists_opening_eq_append_ending style hbare'
      rw [interleaved_of_isBare hbare', List.append_nil, hbefore, hbefore'] at h
      have hends := List.append_inj' h ((length_ending hbare).trans (length_ending hbare').symm)
      exact ending_inj hbare hbare' (String.toList_inj.mp hends.2)
    · exact absurd h (opening_ne_of_isBare hbare hbare' hlength' _)
  · by_cases hbare' : IsBare kind'
    · rw [interleaved_of_isBare hbare', List.append_nil] at h
      exact absurd h.symm (opening_ne_of_isBare hbare' hbare hlength _)
    · rw [opening_eq style hbare, opening_eq style hbare', String.toList_append,
        String.toList_append, List.append_assoc, List.append_assoc, List.append_cancel_left_eq] at h
      apply call_inj hbare hbare'
      have hbegin := congrArg (List.take 5) h
      rwa [List.take_append_of_le_length (le_length_call hbare),
        List.take_append_of_le_length (le_length_call hbare')] at hbegin

end

/-- From a statement the kind and the texts of the coordinates are told, if no text has a
delimiter. -/
theorem Style.statementWith_eq_iff (style : Style) {write : Double → String}
    (hwrite : ∀ x, Plain (write x)) (o o' : Operation) :
    style.statementWith write o = style.statementWith write o' ↔
      o.kind = o'.kind ∧ o.coordinates.map write = o'.coordinates.map write := by
  have hlength : ∀ o : Operation,
      (arranged o.kind (o.coordinates.map write)).length = (pieces o.kind).length := by
    intro o
    rw [length_arranged, List.length_map, length_pieces]
  have hplain : ∀ o : Operation, ∀ text ∈ arranged o.kind (o.coordinates.map write),
      Plain text := by
    intro o text htext
    obtain ⟨x, -, rfl⟩ := List.mem_map.mp (mem_arranged htext)
    exact hwrite x
  rw [← String.toList_inj, toList_statementWith, toList_statementWith]
  constructor
  · intro h
    have hkind : o.kind = o'.kind := kind_eq_of_opening_append (hlength o) (hlength o') h
    have htexts := hlength o'
    have hplain' := hplain o'
    rw [← hkind] at h htexts hplain'
    refine ⟨hkind, arranged_inj ?_ (interleaved_inj startsWith_of_mem_pieces (hplain o) hplain'
      (hlength o) htexts (List.append_cancel_left h))⟩
    rw [List.length_map, List.length_map, ← length_pieces, ← length_pieces, hkind]
  · rintro ⟨hkind, htexts⟩
    rw [hkind, htexts]

/-! ## Rounded coordinates -/

/-- Two coordinates are the same number after rounding, up to the sign of zero. -/
def SameRounded (precision : Int) (x y : Double) : Prop :=
  ∃ x' y', x.roundTo? precision = some x' ∧ y.roundTo? precision = some y' ∧ x'.Same y'

/-- The same number after rounding is the same text. -/
theorem sameRounded_iff {precision : Int} {x y : Double} :
    SameRounded precision x y ↔
      Fits precision x ∧ Fits precision y ∧ written precision x = written precision y := by
  simp only [SameRounded, Fits, written, number?]
  cases x.roundTo? precision with
  | none => simp
  | some x' =>
    cases y.roundTo? precision with
    | none => simp
    | some y' => simp [number_eq_number_iff]

theorem forall₂_sameRounded_iff {precision : Int} {xs ys : List Double} :
    List.Forall₂ (SameRounded precision) xs ys ↔
      (∀ x ∈ xs, Fits precision x) ∧ (∀ y ∈ ys, Fits precision y) ∧
        xs.map (written precision) = ys.map (written precision) := by
  induction xs generalizing ys with
  | nil => cases ys <;> simp
  | cons x xs ih =>
    cases ys with
    | nil => simp
    | cons y ys =>
      rw [List.forall₂_cons, ih, sameRounded_iff, List.forall_mem_cons, List.forall_mem_cons,
        List.map_cons, List.map_cons, List.cons_eq_cons]
      tauto

/-- No number has a delimiter. -/
theorem plain_number (x : Double) : Plain (number x) := by
  by_cases hx : x.isFinite
  · intro c hc hdelimiter
    have hnumeral := isNumeral_of_mem_number hx c hc
    rcases hdelimiter with rfl | rfl
    · exact absurd hnumeral (by decide)
    · exact absurd hnumeral (by decide)
  · have hwords : ∀ word ∈ nonNumbers, Plain word := by simp [nonNumbers, Plain, IsDelimiter]
    exact hwords _ ((number_mem_nonNumbers_iff x).mpr hx)

theorem plain_written (precision : Int) (x : Double) : Plain (written precision x) := by
  rw [written, number?]
  cases x.roundTo? precision with
  | none => simp [Plain]
  | some y => exact plain_number y

/-- Two operations are rendered to the same line, whatever the precision and the names are,
exactly if they are of the same kind and each coordinate of one is the same number after rounding
as the corresponding coordinate of the other.  Both directions include that nothing overflows. -/
theorem Style.same_line_iff (style : Style) (o o' : Operation) :
    (∃ line, style.statement o = .ok line ∧ style.statement o' = .ok line) ↔
      o.kind = o'.kind ∧
        List.Forall₂ (SameRounded style.precision) o.coordinates o'.coordinates := by
  have hline := style.statementWith_eq_iff (plain_written style.precision) o o'
  simp only [statement_eq, orOverflow_eq_ok_iff, forall₂_sameRounded_iff]
  constructor
  · rintro ⟨line, ⟨hfits, hstatement⟩, hfits', hstatement'⟩
    obtain ⟨hkind, htexts⟩ := hline.mp (hstatement.trans hstatement'.symm)
    exact ⟨hkind, hfits, hfits', htexts⟩
  · rintro ⟨hkind, hfits, hfits', htexts⟩
    exact ⟨_, ⟨hfits, hline.mpr ⟨hkind, htexts⟩⟩, hfits', rfl⟩

end Swift

end SvgDrawing
