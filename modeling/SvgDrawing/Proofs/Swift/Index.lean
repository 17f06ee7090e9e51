import Mathlib.Data.List.Forall2
import SvgDrawing.Proofs.Swift.Declaration
import SvgDrawing.Proofs.Swift.StringLiteral

/-!
# The entries of an index

An index has one entry for each icon, with the name of the icon between quotes.  The name is put
there as it is, so it is read back exactly if all its characters are plain.  A quote or a backslash
changes what is read, and a line feed makes two lines of the entry.  Only the latter makes two
dictionaries look alike: an entry with the right line feed in its name looks like two entries.

## Main definitions

* `Identified icons` — dictionaries from names to identifiers.
* `DenotesNames name icons text` — each icon has one line in an index, and the literal on this
  line denotes its name.
* `joinedName first second` — the name that stands for two entries.

## Main statements

* `denotesNames_index_iff` — which names are read back.
* `eq_of_index_eq` — dictionaries that are told apart by their indices.
* `index_joined` — dictionaries that are not.
* `index_faithful_iff` — these together.
-/
namespace SvgDrawing.Swift

open Text StringLiteral

/-! ## Lines -/

/-- The lines of an index before its entries. -/
def indexHead (name : String) : List String :=
  ["import CoreGraphics", "", "public enum " ++ identifier name ++ " \x7b",
    indented "public static let icons: [String: (CGContext) -> Void] = ["]

/-- The lines of an index after its entries. -/
def indexEnd : List String := [indented "]", "\x7d", ""]

/-- The entries of an index, or what stands in their place. -/
def indexEntries (icons : List (String × String)) : List String :=
  if icons.isEmpty then [indentation ++ indentation ++ ":"] else icons.map indexEntry

/-- A dictionary from names to identifiers. -/
def Identified (icons : List (String × String)) : Prop :=
  ∀ icon ∈ icons, ∃ name, icon.2 = identifier name

/-- The literal on a line denotes a name. -/
def DenotesName (icon : String × String) (line : List Char) : Prop :=
  (literalIn? line).map Prod.fst = some icon.1.toList

/-- Between its beginning and its end an index has one line for each icon, and the literal on this
line denotes the name of the icon. -/
def DenotesNames (name : String) (icons : List (String × String)) (text : String) : Prop :=
  ∃ entries, linesOf (· == '\n') text =
      (indexHead name).map String.toList ++ entries ++ indexEnd.map String.toList ∧
    (icons ≠ [] → List.Forall₂ DenotesName icons entries)

variable {name : String} {icon icon' : String × String} {icons icons' : List (String × String)}

theorem index_eq (name : String) (icons : List (String × String)) :
    index name icons = lines (indexHead name ++ indexEntries icons ++ indexEnd) := rfl

theorem toList_indexEntry (icon : String × String) : (indexEntry icon).toList =
    (indentation ++ indentation).toList ++
      '"' :: (icon.1.toList ++ '"' :: (": draw" ++ icon.2 ++ "(in:),").toList) := by
  simp [indexEntry, String.toList_append]

/-- A text without line feeds is one line. -/
theorem linesOf_of_not_mem {s : String} (h : '\n' ∉ s.toList) :
    linesOf (· == '\n') s = [s.toList] :=
  linesOf_eq_singleton fun _ hc => beq_eq_false_iff_ne.mpr fun heq => h (heq ▸ hc)

theorem flatMap_linesOf_of_not_mem {parts : List String} (h : ∀ s ∈ parts, '\n' ∉ s.toList) :
    parts.flatMap (linesOf (· == '\n')) = parts.map String.toList := by
  rw [List.map_eq_flatMap, List.flatMap_def, List.flatMap_def,
    List.map_congr_left fun s hs => linesOf_of_not_mem (h s hs)]

/-- The lines of an index. -/
theorem linesOf_index (name : String) (icons : List (String × String)) :
    linesOf (· == '\n') (index name icons) = (indexHead name).map String.toList ++
      (indexEntries icons).flatMap (linesOf (· == '\n')) ++ indexEnd.map String.toList := by
  have hhead : ∀ s ∈ indexHead name, '\n' ∉ s.toList := by
    simp only [indexHead, List.forall_mem_cons]
    exact ⟨by decide +kernel, by decide +kernel,
      not_mem_around (by decide) name (by decide +kernel) (by decide +kernel), by decide +kernel,
      List.forall_mem_nil _⟩
  have hend : ∀ s ∈ indexEnd, '\n' ∉ s.toList := by
    simp only [indexEnd, List.forall_mem_cons]
    exact ⟨by decide +kernel, by decide +kernel, by decide +kernel, List.forall_mem_nil _⟩
  rw [index_eq, linesOf_lines rfl (by simp [indexHead]), List.flatMap_append, List.flatMap_append,
    flatMap_linesOf_of_not_mem hhead, flatMap_linesOf_of_not_mem hend]

/-! ## Names that are read back -/

/-- What follows the name in an entry has no characters with a meaning. -/
theorem not_mem_rest {c : Char} (hicon : ∃ name, icon.2 = identifier name)
    (hc : c.isAlphanum = false) (hfront : c ∉ ": draw".toList) (hback : c ∉ "(in:),".toList) :
    c ∉ (": draw" ++ icon.2 ++ "(in:),").toList := by
  obtain ⟨name, hname⟩ := hicon
  exact hname ▸ not_mem_around hc name hfront hback

/-- The literal in an entry denotes the name of the icon exactly if all its characters are plain. -/
theorem denotesName_indexEntry_iff (hicon : ∃ name, icon.2 = identifier name) :
    DenotesName icon (indexEntry icon).toList ↔ ∀ c ∈ icon.1.toList, isPlain c := by
  have hrest : '"' ∉ (": draw" ++ icon.2 ++ "(in:),").toList :=
    not_mem_rest hicon (by decide) (by decide +kernel) (by decide +kernel)
  rw [← exists_readFrom_iff hrest, DenotesName, toList_indexEntry,
    literalIn?_append (by decide +kernel)]
  simp [Option.map_eq_some_iff]

/-- An entry has one line more than line feeds in the name. -/
theorem length_linesOf_indexEntry (hicon : ∃ name, icon.2 = identifier name) :
    (linesOf (· == '\n') (indexEntry icon)).length = icon.1.toList.count '\n' + 1 := by
  have hfront : (indentation ++ indentation).toList.count '\n' = 0 := by decide +kernel
  have hrest : (": draw" ++ icon.2 ++ "(in:),").toList.count '\n' = 0 :=
    List.count_eq_zero.mpr (not_mem_rest hicon (by decide) (by decide +kernel) (by decide +kernel))
  rw [length_linesOf, toList_indexEntry, ← List.count, List.count_append, List.count_cons,
    List.count_append, List.count_cons, hfront, hrest]
  simp

theorem indexEntries_of_ne_nil (h : icons ≠ []) : indexEntries icons = icons.map indexEntry := by
  rw [indexEntries, List.isEmpty_eq_false_iff.mpr h]
  rfl

/-- Pieces that are not empty are single elements if there are as many elements as pieces. -/
theorem length_eq_one_of_length_flatMap {α β : Type} {f : α → List β} {as : List α}
    (hf : ∀ a ∈ as, 1 ≤ (f a).length) (h : (as.flatMap f).length ≤ as.length) :
    ∀ a ∈ as, (f a).length = 1 := by
  have hle {as : List α} (hf : ∀ a ∈ as, 1 ≤ (f a).length) :
      as.length ≤ (as.flatMap f).length := by
    induction as with
    | nil => exact Nat.le_refl _
    | cons a rest ih =>
      rw [List.forall_mem_cons] at hf
      have hrest := ih hf.2
      rw [List.flatMap_cons, List.length_append, List.length_cons]
      omega
  induction as with
  | nil => exact List.forall_mem_nil _
  | cons a rest ih =>
    rw [List.forall_mem_cons] at hf ⊢
    have hrest := hle hf.2
    rw [List.flatMap_cons, List.length_append, List.length_cons] at h
    exact ⟨by omega, ih hf.2 (by omega)⟩

/-- If each icon has one line of an index, no name has a line feed. -/
theorem lineFeed_not_mem_of_length (h : Identified icons)
    (hlength : ((icons.map indexEntry).flatMap (linesOf (· == '\n'))).length ≤ icons.length) :
    ∀ icon ∈ icons, '\n' ∉ icon.1.toList := by
  rw [List.flatMap_map] at hlength
  intro icon hicon
  have hone := length_eq_one_of_length_flatMap
    (fun a ha => by rw [length_linesOf_indexEntry (h a ha)]; omega) hlength icon hicon
  rw [length_linesOf_indexEntry (h icon hicon)] at hone
  exact List.count_eq_zero.mp (by omega)

theorem lineFeed_not_mem_indexEntry (hicon : ∃ name, icon.2 = identifier name)
    (h : '\n' ∉ icon.1.toList) : '\n' ∉ (indexEntry icon).toList := by
  rw [toList_indexEntry]
  simp only [List.mem_append, List.mem_cons, not_or]
  exact ⟨by decide +kernel, by decide, h, by decide,
    not_mem_rest hicon (by decide) (by decide +kernel) (by decide +kernel)⟩

/-- Entries without line feeds in their names are one line each. -/
theorem flatMap_linesOf_indexEntries (h : Identified icons)
    (hnames : ∀ icon ∈ icons, '\n' ∉ icon.1.toList) :
    (indexEntries icons).flatMap (linesOf (· == '\n')) =
      (indexEntries icons).map String.toList := by
  refine flatMap_linesOf_of_not_mem ?_
  rw [indexEntries]
  split
  · simp only [List.forall_mem_singleton]
    decide +kernel
  · rw [List.forall_mem_map]
    exact fun icon hicon => lineFeed_not_mem_indexEntry (h icon hicon) (hnames icon hicon)

/-- The names of icons are read back from an index exactly if they are plain. -/
theorem denotesNames_index_iff (name : String) (h : Identified icons) :
    DenotesNames name icons (index name icons) ↔
      ∀ icon ∈ icons, ∀ c ∈ icon.1.toList, isPlain c := by
  rw [DenotesNames, linesOf_index]
  constructor
  · rintro ⟨entries, hentries, hdenotes⟩ icon hicon
    rw [List.append_cancel_right_eq, List.append_cancel_left_eq] at hentries
    have hne : icons ≠ [] := List.ne_nil_of_mem hicon
    have hall := hdenotes hne
    subst hentries
    have hnames : ∀ icon ∈ icons, '\n' ∉ icon.1.toList := by
      refine lineFeed_not_mem_of_length h ?_
      rw [← indexEntries_of_ne_nil hne]
      exact Nat.le_of_eq hall.length_eq.symm
    rw [flatMap_linesOf_indexEntries h hnames, indexEntries_of_ne_nil hne, List.map_map,
      List.forall₂_map_right_iff, List.forall₂_same] at hall
    exact (denotesName_indexEntry_iff (h icon hicon)).mp (hall icon hicon)
  · intro hplain
    have hnames : ∀ icon ∈ icons, '\n' ∉ icon.1.toList := fun icon hicon hfeed =>
      absurd (hplain icon hicon _ hfeed) (by decide)
    refine ⟨_, rfl, fun hne => ?_⟩
    rw [flatMap_linesOf_indexEntries h hnames, indexEntries_of_ne_nil hne, List.map_map,
      List.forall₂_map_right_iff, List.forall₂_same]
    exact fun icon hicon => (denotesName_indexEntry_iff (h icon hicon)).mpr (hplain icon hicon)

/-! ## Dictionaries that are told apart -/

/-- Where the last separator stands does not depend on how a text is put together. -/
theorem append_cons_inj_of_not_mem {α : Type} {sep : α} {front front' back back' : List α}
    (hback : sep ∉ back) (hback' : sep ∉ back')
    (h : front ++ sep :: back = front' ++ sep :: back') : front = front' ∧ back = back' := by
  have hlater {more back back' : List α} (hback : sep ∉ back)
      (h : sep :: back = more ++ sep :: back') : more = [] ∧ back = back' := by
    cases more with
    | nil => exact ⟨rfl, List.tail_eq_of_cons_eq h⟩
    | cons c later =>
      rw [List.tail_eq_of_cons_eq h] at hback
      exact absurd (List.mem_append_right _ List.mem_cons_self) hback
  rcases List.append_eq_append_iff.mp h with ⟨more, rfl, hmore⟩ | ⟨more, rfl, hmore⟩
  · obtain ⟨rfl, rfl⟩ := hlater hback hmore
    exact ⟨(List.append_nil _).symm, rfl⟩
  · obtain ⟨rfl, rfl⟩ := hlater hback' hmore
    exact ⟨List.append_nil _, rfl⟩

/-- The last blank of an entry stands between its name and its function. -/
theorem indexEntry_inj (hicon : ∃ name, icon.2 = identifier name)
    (hicon' : ∃ name, icon'.2 = identifier name) (h : indexEntry icon = indexEntry icon') :
    icon = icon' := by
  have hparts (icon : String × String) : (indexEntry icon).toList =
      ((indentation ++ indentation ++ "\"").toList ++ (icon.1 ++ "\":").toList) ++
        ' ' :: ("draw" ++ icon.2 ++ "(in:),").toList := by
    simp [indexEntry, String.toList_append]
  have hblank {icon : String × String} (hicon : ∃ name, icon.2 = identifier name) :
      ' ' ∉ ("draw" ++ icon.2 ++ "(in:),").toList := by
    obtain ⟨name, hname⟩ := hicon
    exact hname ▸ not_mem_around (by decide) name (by decide +kernel) (by decide +kernel)
  have hlist := congrArg String.toList h
  rw [hparts, hparts] at hlist
  obtain ⟨hfront, hback⟩ := append_cons_inj_of_not_mem (hblank hicon) (hblank hicon') hlist
  rw [List.append_cancel_left_eq, String.toList_inj, String.append_left_inj] at hfront
  rw [String.toList_inj, String.append_left_inj, String.append_right_inj] at hback
  exact Prod.ext hfront hback

theorem map_indexEntry_inj (h : Identified icons) (h' : Identified icons')
    (heq : icons.map indexEntry = icons'.map indexEntry) : icons = icons' := by
  induction icons generalizing icons' with
  | nil => exact (List.map_eq_nil_iff.mp heq.symm).symm
  | cons icon rest ih =>
    cases icons' with
    | nil => cases heq
    | cons icon' rest' =>
      rw [Identified, List.forall_mem_cons] at h h'
      obtain ⟨hentry, hrest⟩ := List.cons_eq_cons.mp heq
      rw [indexEntry_inj h.1 h'.1 hentry, ih h.2 h'.2 hrest]

/-- An entry is not what stands in the place of entries. -/
theorem indexEntries_inj (h : Identified icons) (h' : Identified icons')
    (heq : indexEntries icons = indexEntries icons') : icons = icons' := by
  have hcolon (icon : String × String) : indexEntry icon ≠ indentation ++ indentation ++ ":" := by
    intro hentry
    have hlist := congrArg String.toList hentry
    rw [toList_indexEntry, String.toList_append (s := indentation ++ indentation),
      List.append_cancel_left_eq] at hlist
    exact absurd (List.head_eq_of_cons_eq hlist) (by decide)
  cases icons with
  | nil =>
    cases icons' with
    | nil => rfl
    | cons icon' rest' => exact absurd (List.head_eq_of_cons_eq heq).symm (hcolon icon')
  | cons icon rest =>
    cases icons' with
    | nil => exact absurd (List.head_eq_of_cons_eq heq) (hcolon icon)
    | cons icon' rest' => exact map_indexEntry_inj h h' heq

/-- Dictionaries without line feeds in their names are told apart by their indices. -/
theorem eq_of_index_eq (h : Identified icons) (h' : Identified icons')
    (hnames : ∀ icon ∈ icons, '\n' ∉ icon.1.toList)
    (hnames' : ∀ icon ∈ icons', '\n' ∉ icon.1.toList)
    (heq : index name icons = index name icons') : icons = icons' := by
  have hlines := congrArg (linesOf (· == '\n')) heq
  rw [linesOf_index, linesOf_index, List.append_cancel_right_eq, List.append_cancel_left_eq,
    flatMap_linesOf_indexEntries h hnames, flatMap_linesOf_indexEntries h' hnames'] at hlines
  exact indexEntries_inj h h'
    (List.map_injective_iff.mpr (fun _ _ => String.toList_injective) hlines)

/-! ## Dictionaries that look alike -/

/-- The name that stands for two entries: that of the first, all that stands between the names, and
that of the second. -/
def joinedName (first second : String × String) : String :=
  first.1 ++ "\": draw" ++ first.2 ++ "(in:),\n" ++ indentation ++ indentation ++ "\"" ++ second.1

theorem lines_append_cons_cons (front : List String) (s t : String) (back : List String) :
    lines (front ++ s :: t :: back) = lines (front ++ (s ++ "\n" ++ t) :: back) := by
  induction front with
  | nil => cases back <;> simp [lines, joined, String.append_assoc]
  | cons first rest ih =>
    have hcons {parts : List String} (hne : parts ≠ []) :
        lines (first :: parts) = first ++ "\n" ++ lines parts := by
      cases parts with
      | nil => exact absurd rfl hne
      | cons next later => rfl
    rw [List.cons_append, List.cons_append, hcons (by simp), hcons (by simp), ih]

theorem indexEntry_joined (first second : String × String) :
    indexEntry (joinedName first second, second.2) =
      indexEntry first ++ "\n" ++ indexEntry second := by
  simp [indexEntry, joinedName, String.append_assoc]

/-- Two entries are also one entry, with a line feed in its name. -/
theorem index_joined (name : String) (front back : List (String × String))
    (first second : String × String) :
    index name (front ++ (joinedName first second, second.2) :: back) =
      index name (front ++ first :: second :: back) := by
  rw [index_eq, index_eq, indexEntries_of_ne_nil (by simp), indexEntries_of_ne_nil (by simp)]
  simp only [List.map_append, List.map_cons, List.append_assoc, List.cons_append]
  rw [← List.append_assoc, ← List.append_assoc, lines_append_cons_cons, indexEntry_joined]

/-- The names of icons are read back from an index exactly if they are without quotes, backslashes
and line breaks.  Dictionaries without line feeds in their names are told apart by their indices.
But any two entries, one after the other, look like one entry with a line feed in its name. -/
theorem index_faithful_iff (name : String) (h : Identified icons) :
    (DenotesNames name icons (index name icons) ↔
      ∀ icon ∈ icons, ∀ c ∈ icon.1.toList, isPlain c) ∧
    (∀ icons', Identified icons' → (∀ icon ∈ icons, '\n' ∉ icon.1.toList) →
      (∀ icon ∈ icons', '\n' ∉ icon.1.toList) → index name icons = index name icons' →
      icons = icons') ∧
    ∀ front first second back, icons = front ++ first :: second :: back →
      index name (front ++ (joinedName first second, second.2) :: back) = index name icons := by
  refine ⟨denotesNames_index_iff name h, fun icons' h' hnames hnames' heq =>
    eq_of_index_eq h h' hnames hnames' heq, ?_⟩
  rintro front first second back rfl
  exact index_joined name front back first second

/-- A quote in the name of an icon ends its literal, and an icon with a line feed in its name can
look like two icons. -/
theorem quote_ends_literal :
    ¬ DenotesNames "Set" [("a\"b", "AB")] (index "Set" [("a\"b", "AB")]) ∧
    DenotesNames "Set" [("a", "A"), ("b", "B")] (index "Set" [("a", "A"), ("b", "B")]) ∧
    index "Set" [("a\": drawA(in:),\n        \"b", "B")] =
      index "Set" [("a", "A"), ("b", "B")] := by
  have hquoted : Identified [("a\"b", "AB")] := by
    simp only [Identified, List.forall_mem_singleton]
    exact ⟨"a\"b", by decide +kernel⟩
  have hplain : Identified [("a", "A"), ("b", "B")] := by
    simp only [Identified, List.forall_mem_cons]
    exact ⟨⟨"a", by decide +kernel⟩, ⟨"b", by decide +kernel⟩, List.forall_mem_nil _⟩
  obtain ⟨hquote, -, -⟩ := index_faithful_iff "Set" hquoted
  obtain ⟨hnames, -, hjoined⟩ := index_faithful_iff "Set" hplain
  have hname : joinedName ("a", "A") ("b", "B") = "a\": drawA(in:),\n        \"b" := by
    decide +kernel
  refine ⟨fun hdenotes => ?_, hnames.mpr ?_, ?_⟩
  · have hall := hquote.mp hdenotes _ List.mem_cons_self
    exact absurd (hall '"' (by decide +kernel)) (by decide)
  · simp only [List.forall_mem_cons]
    exact ⟨List.all_eq_true.mp (by decide +kernel), List.all_eq_true.mp (by decide +kernel),
      List.forall_mem_nil _⟩
  · rw [← hname]
    exact hjoined [] _ _ [] rfl

end SvgDrawing.Swift
