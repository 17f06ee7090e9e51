import SvgDrawing.Proofs.Files.Tree

/-!
# Making folders

A folder is made together with all that is missing on the way to it.  Nothing but new folders comes
of this, and all of them are on the way, which may also lead back and somewhere else.  When the
folder is there, making it again changes nothing.  When it cannot be made, what was made on the way
stays; making it again then fails as well, but maybe at another place of the way, since the folders
that were missing at first are there.

## Main definitions

* `Path.OnWayTo outer path` — a path along which another one goes.
* `KeptOrMade t path u location` — what is at a location was there, or is such a new folder.
* `MadeFolders t path u` — a tree with new folders on the way of a path.

## Main statements

* `madeFolders_makeFolder` — what making a folder changes.
* `makeFolder_of_sameFolders` — making a folder again, with other files.
* `makeFolder_of_error` — trying again after a failure.
-/
namespace SvgDrawing

/-! ## Paths -/

/-- A path is one that another goes along: a folder on its way, or all of it. -/
structure Path.OnWayTo (outer path : Path) : Prop where
  anchor_eq : outer.anchor = path.anchor
  names_prefix : outer.names <+: path.names

theorem Path.OnWayTo.child {outer path : Path} (h : outer.OnWayTo path) (name : String) :
    outer.OnWayTo (path.child name) :=
  ⟨h.anchor_eq, h.names_prefix.trans (List.prefix_append _ _)⟩

theorem Path.mk_reverse_cons (anchor : Path.Anchor) (name : String) (outer : List String) :
    (⟨anchor, (name :: outer).reverse⟩ : Path) = Path.child ⟨anchor, outer.reverse⟩ name := by
  rw [Path.child, List.reverse_cons]

theorem Text.utf8ByteSize_joined_le (sep : String) (parts : List String) (last : String) :
    (joined sep parts).utf8ByteSize ≤ (joined sep (parts ++ [last])).utf8ByteSize := by
  induction parts with
  | nil => exact Nat.zero_le _
  | cons first rest ih =>
    cases rest with
    | nil =>
      change first.utf8ByteSize ≤ (first ++ sep ++ last).utf8ByteSize
      rw [String.utf8ByteSize_append, String.utf8ByteSize_append, Nat.add_assoc]
      exact Nat.le_add_right _ _
    | cons next later =>
      change (first ++ sep ++ joined sep (next :: later)).utf8ByteSize ≤
        (first ++ sep ++ joined sep (next :: later ++ [last])).utf8ByteSize
      rw [String.utf8ByteSize_append, String.utf8ByteSize_append (s := first ++ sep)]
      exact Nat.add_le_add_left ih _

/-- A path that is not too long goes along none that is. -/
theorem Path.utf8ByteSize_text_le {path : Path} {name : String}
    (h : (path.child name).text.utf8ByteSize ≤ maxPathBytes) :
    path.text.utf8ByteSize ≤ maxPathBytes := by
  rw [text] at h ⊢
  split
  · decide
  · next hsome =>
    have hchild : ¬ ((path.child name).anchor = .workingFolder ∧
        (path.child name).names.isEmpty) := fun hempty => by simp [Path.child] at hempty
    rw [if_neg hchild, String.utf8ByteSize_append] at h
    rw [String.utf8ByteSize_append]
    exact Nat.le_trans (Nat.add_le_add_left (Text.utf8ByteSize_joined_le _ _ _) _) h

namespace FileTree

variable {t u v : FileTree} {path : Path} {location : Location} {anchor : Path.Anchor}
  {name : String} {names outer : List String} {r : Option StorageError} {e : StorageError}

/-- A path leads somewhere only through a folder. -/
theorem isFolder_of_locate_child (h : t.locate (path.child name) = .ok location) :
    t.isFolder path = .ok true := by
  obtain ⟨base, hbase, hfolder, -⟩ := follow_concat (follow_of_locate h)
  refine isFolder_eq_true_iff.mpr ⟨base, ?_, hfolder⟩
  rw [locate] at h ⊢
  split at h
  · cases h
  · next hnul =>
    split at h
    · cases h
    · next hshort =>
      have hnul' : ¬ path.names.any (·.toList.contains '\x00') = true := fun hany =>
        hnul (by rw [Path.child, List.any_append, hany, Bool.true_or])
      rw [if_neg hnul', if_neg (Nat.not_lt.mpr (Path.utf8ByteSize_text_le (Nat.not_lt.mp hshort)))]
      exact hbase

/-! ## One folder -/

/-- What making the last folder of a path does. -/
inductive LastMade (t : FileTree) (path : Path) : FileTree × Option StorageError → Prop
  | there {location : Location} (hlocate : t.locate path = .ok location)
      (hfolder : t.get? location = some .folder) : LastMade t path (t, none)
  | new {location : Location} (hlocate : t.locate path = .ok location)
      (hnone : t.get? location = none) : LastMade t path (t.put location .folder, none)
  | failed (e : StorageError) : LastMade t path (t, some e)

theorem lastMade_makeLast (t : FileTree) (path : Path) : LastMade t path (t.makeLast path) := by
  rw [makeLast]
  split
  · exact .failed _
  · next location hlocate =>
    split
    · next hfolder => exact .there hlocate hfolder
    · exact .failed _
    · next hnone => exact .new hlocate hnone

theorem makeLast_of_isFolder (h : t.isFolder path = .ok true) : t.makeLast path = (t, none) := by
  obtain ⟨location, hlocate, hfolder⟩ := isFolder_eq_true_iff.mp h
  rw [makeLast, hlocate]
  simp only [hfolder]

/-- A folder in the place of nothing leaves the folders as they are. -/
theorem keepsFolders_put_folder (t : FileTree) (here : Location) :
    KeepsFolders t (t.put here .folder) := by
  refine ⟨rfl, fun location hfolder => ?_⟩
  by_cases hne : location = here
  · rw [get?_put]
    simp [hne]
  · rw [get?_put_of_ne hne, hfolder]

/-! ## New folders on the way -/

/-- What is at a location was there before, or it is a new folder on the way of a path. -/
def KeptOrMade (t : FileTree) (path : Path) (u : FileTree) (location : Location) : Prop :=
  u.get? location = t.get? location ∨ t.get? location = none ∧ u.get? location = some .folder ∧
    ∃ outer : Path, outer.OnWayTo path ∧ u.locate outer = .ok location

/-- A tree with the files and folders of another, and with new folders on the way of a path. -/
structure MadeFolders (t : FileTree) (path : Path) (u : FileTree) : Prop where
  workingFolder_eq : u.workingFolder = t.workingFolder
  keptOrMade : ∀ location, t.KeptOrMade path u location

namespace MadeFolders

theorem refl (t : FileTree) (path : Path) : MadeFolders t path t := ⟨rfl, fun _ => .inl rfl⟩

theorem keepsFolders (h : MadeFolders t path u) : KeepsFolders t u := by
  refine ⟨h.workingFolder_eq, fun location hfolder => ?_⟩
  rcases h.keptOrMade location with hsame | ⟨-, hnew, -⟩
  · exact hsame.trans hfolder
  · exact hnew

theorem child (h : MadeFolders t path u) (name : String) : MadeFolders t (path.child name) u :=
  ⟨h.workingFolder_eq, fun location => (h.keptOrMade location).imp_right
    fun ⟨hnone, hnew, outer, houter, hlocate⟩ => ⟨hnone, hnew, outer, houter.child name, hlocate⟩⟩

theorem trans (h : MadeFolders t path u) (h' : MadeFolders u path v) : MadeFolders t path v := by
  refine ⟨h'.workingFolder_eq.trans h.workingFolder_eq, fun location => ?_⟩
  rcases h.keptOrMade location with hsame | ⟨hnone, hnew, outer, houter, hlocate⟩
  · rw [KeptOrMade, ← hsame]
    exact h'.keptOrMade location
  · exact .inr ⟨hnone, h'.keepsFolders.folder location hnew, outer, houter,
      h'.keepsFolders.locate_eq_ok hlocate⟩

theorem of_makeLast (h : t.makeLast path = (u, r)) : MadeFolders t path u := by
  have hlast := lastMade_makeLast t path
  rw [h] at hlast
  cases hlast with
  | there => exact .refl t path
  | failed => exact .refl t path
  | @new here hlocate hnone =>
    refine ⟨rfl, fun location => ?_⟩
    by_cases hne : location = here
    · subst hne
      have hput := get?_put_self (by rw [hnone]; nofun) .folder
      exact .inr ⟨hnone, hput, path, ⟨rfl, List.prefix_refl _⟩,
        (keepsFolders_put_folder t location).locate_eq_ok hlocate⟩
    · exact .inl (get?_put_of_ne hne _)

theorem of_makeAll (h : t.makeAll anchor names = (u, r)) :
    MadeFolders t ⟨anchor, names.reverse⟩ u := by
  induction names generalizing u r with
  | nil =>
    cases h
    exact .refl t _
  | cons name outer ih =>
    rw [makeAll, Path.mk_reverse_cons] at h
    rw [Path.mk_reverse_cons]
    split at h
    · split at h
      · next hparents =>
        cases h
        exact (ih hparents).child name
      · next hparents => exact ((ih hparents).child name).trans (of_makeLast h)
    · exact of_makeLast h

/-- Files that are written then leave the new folders as they are. -/
theorem keptOrMade_of_sameFolders (h : MadeFolders t path u) (hfolders : SameFolders u v)
    (hsame : v.get? location = u.get? location) : t.KeptOrMade path v location := by
  rw [KeptOrMade, hsame]
  exact (h.keptOrMade location).imp_right fun ⟨hnone, hnew, outer, houter, hlocate⟩ =>
    ⟨hnone, hnew, outer, houter, hfolders.locate_eq_ok hlocate⟩

end MadeFolders

/-- Making a folder makes new folders on the way to it, whether it can be made or not. -/
theorem madeFolders_makeFolder (h : t.makeFolder path = (u, r)) : MadeFolders t path u := by
  have hmade := MadeFolders.of_makeAll h
  rwa [List.reverse_reverse] at hmade

/-! ## Making a folder again -/

/-- A folder that was made is there. -/
theorem isFolder_of_makeLast (h : t.makeLast path = (u, none)) : u.isFolder path = .ok true := by
  have hlast := lastMade_makeLast t path
  rw [h] at hlast
  cases hlast with
  | there hlocate hfolder => exact isFolder_eq_true_iff.mpr ⟨_, hlocate, hfolder⟩
  | @new location hlocate hnone =>
    exact isFolder_eq_true_iff.mpr
      ⟨location, (keepsFolders_put_folder t location).locate_eq_ok hlocate,
        get?_put_self (by rw [hnone]; nofun) .folder⟩

/-- A folder that is there is not made. -/
theorem makeAll_of_isFolder (h : t.isFolder ⟨anchor, names.reverse⟩ = .ok true) :
    t.makeAll anchor names = (t, none) := by
  cases names with
  | nil => rfl
  | cons name outer =>
    obtain ⟨location, hlocate, -⟩ := isFolder_eq_true_iff.mp h
    rw [makeAll]
    simp only [hlocate]
    exact makeLast_of_isFolder h

/-- A folder that was made is not made again, whatever the files are then. -/
theorem makeAll_of_sameFolders (h : t.makeAll anchor names = (u, none))
    (hfolders : SameFolders u v) : v.makeAll anchor names = (v, none) := by
  cases names with
  | nil => rfl
  | cons name outer =>
    have hlast : ∃ t' : FileTree, t'.makeLast ⟨anchor, (name :: outer).reverse⟩ = (u, none) := by
      rw [makeAll] at h
      split at h
      · split at h
        · cases h
        · exact ⟨_, h⟩
      · exact ⟨_, h⟩
    obtain ⟨t', hlast⟩ := hlast
    exact makeAll_of_isFolder ((hfolders.isFolder_eq _).trans (isFolder_of_makeLast hlast))

theorem makeFolder_of_sameFolders (h : t.makeFolder path = (u, none))
    (hfolders : SameFolders u v) : v.makeFolder path = (v, none) :=
  makeAll_of_sameFolders h hfolders

theorem eq_of_makeLast_error (h : t.makeLast path = (u, some e)) : u = t := by
  have hlast := lastMade_makeLast t path
  rw [h] at hlast
  cases hlast
  rfl

/-- A folder whose parents need not be made is made alone. -/
theorem makeAll_of_ne_missing (h : t.locate ⟨anchor, (name :: outer).reverse⟩ ≠ .error .missing) :
    t.makeAll anchor (name :: outer) = t.makeLast ⟨anchor, (name :: outer).reverse⟩ := by
  rw [makeAll]
  split
  · next hmissing => exact absurd hmissing h
  · rfl

/-- A folder whose parents are missing is made after them. -/
theorem makeAll_of_missing (h : t.locate ⟨anchor, (name :: outer).reverse⟩ = .error .missing) :
    t.makeAll anchor (name :: outer) =
      match t.makeAll anchor outer with
      | (u, some e) => (u, some e)
      | (u, none) => u.makeLast ⟨anchor, (name :: outer).reverse⟩ := by
  rw [makeAll]
  split
  · rfl
  · next hother => exact absurd h hother

/-- What could not be made cannot be made when it is tried again, and nothing is made then.  The
error may be another one only if it was about a parent that was missing. -/
theorem makeAll_of_error (h : t.makeAll anchor names = (u, some e)) :
    ∃ e', u.makeAll anchor names = (u, some e') ∧
      (e' = e ∨ t.locate ⟨anchor, names.reverse⟩ = .error .missing ∧
        (t.makeAll anchor names.tail).2 = some e) := by
  induction names generalizing u with
  | nil => cases h
  | cons name outer ih =>
    by_cases hmissing : t.locate ⟨anchor, (name :: outer).reverse⟩ = .error .missing
    · rw [makeAll_of_missing hmissing] at h
      split at h
      · next hparents =>
        cases h
        obtain ⟨e', hagain, -⟩ := ih hparents
        have htail : (t.makeAll anchor outer).2 = some e := congrArg Prod.snd hparents
        cases hlocate : u.locate ⟨anchor, (name :: outer).reverse⟩ with
        | error o =>
          by_cases hstill : o = .missing
          · subst hstill
            refine ⟨e', ?_, .inr ⟨hmissing, htail⟩⟩
            rw [makeAll_of_missing hlocate, hagain]
          · refine ⟨o.error ⟨anchor, (name :: outer).reverse⟩, ?_, .inr ⟨hmissing, htail⟩⟩
            rw [makeAll_of_ne_missing (by rw [hlocate]; simpa using hstill), makeLast, hlocate]
        | ok location =>
          -- the way would be there, and its making again would not fail
          rw [Path.mk_reverse_cons] at hlocate
          cases hagain.symm.trans (makeAll_of_isFolder (isFolder_of_locate_child hlocate))
      · next made hparents =>
        obtain rfl := eq_of_makeLast_error h
        refine ⟨e, ?_, .inl rfl⟩
        by_cases hstill : u.locate ⟨anchor, (name :: outer).reverse⟩ = .error .missing
        · rw [makeAll_of_missing hstill, makeAll_of_sameFolders hparents (.refl u)]
          exact h
        · rw [makeAll_of_ne_missing hstill, h]
    · rw [makeAll_of_ne_missing hmissing] at h
      obtain rfl := eq_of_makeLast_error h
      exact ⟨e, by rw [makeAll_of_ne_missing hmissing, h], .inl rfl⟩

theorem makeFolder_of_error (h : t.makeFolder path = (u, some e)) :
    ∃ e', u.makeFolder path = (u, some e') ∧ (e' = e ∨
      t.locate path = .error .missing ∧ (t.makeFolder path.parent).2 = some e) := by
  have hparent : t.makeFolder path.parent = t.makeAll path.anchor path.names.reverse.tail := by
    rw [makeFolder, Path.parent, List.tail_reverse]
  have hagain := makeAll_of_error h
  rwa [List.reverse_reverse, ← hparent] at hagain

end FileTree

end SvgDrawing
