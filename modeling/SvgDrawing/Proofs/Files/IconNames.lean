import SvgDrawing.Files.IconFolder
import SvgDrawing.Proofs.Files.Tree
import SvgDrawing.Proofs.Results

/-!
# The icons of a folder

Icons come in the order of their names, and of those that have one identifier the one with the
smallest name is rendered.  Which icons these are depends on the names alone, and it does not
depend on the order in which the folder has been listed.

## Main definitions

* `iconIdentifier name` — the identifier of an icon file.
* `Leads names name`, `leaders names` — the files that are rendered.

## Main statements

* `nodup_leaders`, `mem_map_leaders_iff` — every identifier is rendered once.
* `leaders_concat` — what one file more changes.
* `Job.iconNames_eq_ok`, `Job.iconNames_of_perm` — the names and their order.
-/
namespace SvgDrawing

/-! ## Which icons are rendered -/

/-- The identifier of an icon file. -/
def iconIdentifier (name : String) : String := Swift.identifier (Path.stemOf name)

/-- No file with a smaller name has the same identifier. -/
def Leads (names : List String) (name : String) : Prop :=
  ∀ other ∈ names, other < name → iconIdentifier other ≠ iconIdentifier name

instance (names : List String) (name : String) : Decidable (Leads names name) :=
  inferInstanceAs (Decidable (∀ other ∈ names, _))

/-- The files that are rendered. -/
def leaders (names : List String) : List String := names.filter (Leads names ·)

section leaders

variable {names front : List String} {name other : String}

/-- Two files that are rendered have different identifiers. -/
theorem nodup_leaders (h : names.Pairwise (· < ·)) :
    ((leaders names).map iconIdentifier).Nodup := by
  have hsorted : (leaders names).Pairwise (· < ·) := h.sublist List.filter_sublist
  refine List.pairwise_map.mpr (hsorted.imp_of_mem ?_)
  intro a b ha hb hlt
  exact of_decide_eq_true (List.mem_filter.mp hb).2 a (List.mem_filter.mp ha).1 hlt

theorem nodup_stems (h : names.Pairwise (· < ·)) : ((leaders names).map Path.stemOf).Nodup := by
  have hids : (((leaders names).map Path.stemOf).map Swift.identifier).Nodup := by
    rw [List.map_map, Function.comp_def]
    exact nodup_leaders h
  exact (List.pairwise_map.mp hids).imp fun hne heq => hne (congrArg _ heq)

/-- The first file with an identifier is rendered. -/
theorem mem_map_leaders_iff (h : names.Pairwise (· < ·)) {identifier : String} :
    identifier ∈ (leaders names).map iconIdentifier ↔ identifier ∈ names.map iconIdentifier := by
  constructor
  · intro hmem
    exact (List.filter_sublist.map iconIdentifier).subset hmem
  · intro hmem
    obtain ⟨name, hname, rfl⟩ := List.mem_map.mp hmem
    cases hfirst : names.find? fun other => iconIdentifier other = iconIdentifier name with
    | none => exact absurd (List.find?_eq_none.mp hfirst name hname) (by simp)
    | some first =>
      obtain ⟨hid, before, after, rfl, hbefore⟩ := List.find?_eq_some_iff_append.mp hfirst
      have hid : iconIdentifier first = iconIdentifier name := of_decide_eq_true hid
      refine List.mem_map.mpr ⟨first, List.mem_filter.mpr ⟨by simp, decide_eq_true ?_⟩, hid⟩
      intro other hother hlt
      -- files before the first one have other identifiers, those after it have larger names
      rw [List.pairwise_append, List.pairwise_cons] at h
      rcases List.mem_append.mp hother with hother | hother
      · simpa [hid] using hbefore other hother
      · rcases List.mem_cons.mp hother with rfl | hother
        · exact absurd hlt (String.lt_irrefl _)
        · exact absurd hlt (String.lt_asymm (h.2.1.1 other hother))

/-- A file with a larger name does not matter. -/
theorem leads_concat_iff (h : other < name) :
    Leads (front ++ [name]) other ↔ Leads front other := by
  rw [Leads, Leads, List.forall_mem_append, List.forall_mem_singleton]
  exact and_iff_left fun hlt => absurd hlt (String.lt_asymm h)

theorem lt_of_pairwise_concat (h : (front ++ [name]).Pairwise (· < ·)) (hother : other ∈ front) :
    other < name :=
  (List.pairwise_append.mp h).2.2 other hother name (List.mem_singleton.mpr rfl)

/-- A file with the largest name is rendered unless its identifier is taken. -/
theorem leads_last_iff (h : (front ++ [name]).Pairwise (· < ·)) :
    Leads (front ++ [name]) name ↔ iconIdentifier name ∉ front.map iconIdentifier := by
  rw [Leads, List.forall_mem_append, List.forall_mem_singleton,
    and_iff_left fun hself => absurd hself (String.lt_irrefl _)]
  simp only [List.mem_map, not_exists, not_and]
  exact forall₂_congr fun other hother => imp_iff_right (lt_of_pairwise_concat h hother)

theorem leaders_concat (h : (front ++ [name]).Pairwise (· < ·)) :
    leaders (front ++ [name]) = if iconIdentifier name ∈ front.map iconIdentifier then leaders front
      else leaders front ++ [name] := by
  have hfront : front.filter (Leads (front ++ [name]) ·) = leaders front :=
    List.filter_congr fun other hother =>
      decide_eq_decide.mpr (leads_concat_iff (lt_of_pairwise_concat h hother))
  rw [leaders, List.filter_append, hfront]
  split
  · next htaken => simp [leads_last_iff h, htaken]
  · next htaken => simp [leads_last_iff h, htaken]

end leaders

/-! ## The names of icons -/

theorem pairwise_le_mergeSort (names : List String) :
    (names.mergeSort fun a b => a ≤ b).Pairwise (· ≤ ·) := by
  have hsorted := @List.pairwise_mergeSort String (fun a b => a ≤ b)
    (by simpa using fun a b c => String.le_trans) (by simpa using String.le_total) names
  exact hsorted.imp of_decide_eq_true

/-- The names of icons are in strict order, and they are all names in the folder with the ending
of icons. -/
theorem Job.iconNames_eq_ok {job : Job} {files : FileTree} {names : List String}
    (h : job.iconNames files = .ok names) :
    names.Pairwise (· < ·) ∧
      ∀ name, name ∈ names ↔ name.endsWith ".svg" ∧ files.Lists job.iconFolder name := by
  obtain ⟨listed, hlisted, rfl⟩ := exists_of_map_eq_ok h
  obtain ⟨hnodup, hmem⟩ := FileTree.namesIn_eq_ok hlisted
  have hperm := List.mergeSort_perm (listed.filter (·.endsWith ".svg")) fun a b => a ≤ b
  have hdistinct := hperm.nodup_iff.mpr (hnodup.sublist List.filter_sublist)
  refine ⟨(pairwise_le_mergeSort _).imp₂ (fun a b hle hne => ?_) hdistinct, fun name => ?_⟩
  · exact String.not_le.mp fun hge => hne (String.le_antisymm hle hge)
  · rw [hperm.mem_iff, List.mem_filter, hmem, and_comm]

/-- The order in which a folder has been listed does not matter. -/
theorem Job.iconNames_of_perm {job : Job} {files : FileTree} {listed names : List String}
    (hlisted : files.namesIn job.iconFolder = .ok listed)
    (hperm : (listed.filter (·.endsWith ".svg")).Perm names) (hsorted : names.Pairwise (· ≤ ·)) :
    job.iconNames files = .ok names := by
  rw [iconNames, hlisted, Except.map]
  refine congrArg Except.ok ?_
  exact ((List.mergeSort_perm _ _).trans hperm).eq_of_pairwise
    (fun _ _ _ _ => String.le_antisymm) (pairwise_le_mergeSort _) hsorted

end SvgDrawing
