import SvgDrawing.Files.Tree
import SvgDrawing.Proofs.Results

/-!
# Files after other files were written

Writing a file changes what is at one location, and it leaves the folders as they are.  Paths lead
through folders only, so they lead to the same locations before and after.  This holds of any two
trees with `SameFolders`.  One that `KeepsFolders` of another may have new folders as well; then it
holds of the paths on which nothing stood in the way.
-/
namespace SvgDrawing.FileTree

variable {t u v : FileTree} {path : Path} {here location : Location} {content : ByteArray}

/-! ## Locations -/

theorem get?_nil (t : FileTree) : t.get? [] = some .folder := rfl

theorem ne_nil_of_get?_ne (h : t.get? location ≠ some .folder) : location ≠ [] := by
  rintro rfl
  exact h t.get?_nil

theorem get?_put_self (h : t.get? location ≠ some .folder) (e : Entry) :
    (t.put location e).get? location = some e := by
  rw [get?_put, if_neg (ne_nil_of_get?_ne h), if_pos rfl]

theorem get?_put_of_ne (hne : location ≠ here) (e : Entry) :
    (t.put here e).get? location = t.get? location := by
  rw [get?_put, if_neg hne]
  split
  · next hroot => rw [hroot, get?_nil]
  · rfl

/-- A name other than two dots leads into a folder. -/
theorem step_of_ne {name : String} (h : name ≠ "..") : step here name = here ++ [name] :=
  if_neg h

/-- Names are followed from where those before them lead. -/
theorem follow_append (t : FileTree) (here : Location) (names more : List String) :
    t.follow here (names ++ more) = t.follow here names >>= fun base => t.follow base more := by
  induction names generalizing here with
  | nil => rfl
  | cons name rest ih =>
    rw [List.cons_append, follow, follow]
    split
    · split
      · rfl
      · exact ih _
    · rfl
    · rfl

theorem follow_singleton_eq_ok_iff {name : String} : t.follow here [name] = .ok location ↔
    t.get? here = some .folder ∧ name.utf8ByteSize ≤ maxNameBytes ∧ location = step here name := by
  rw [follow]
  split
  · next hfolder =>
    rw [and_iff_right hfolder]
    split
    · next hlong => exact iff_of_false nofun fun hshort => absurd hlong (Nat.not_lt.mpr hshort.1)
    · next hshort =>
      rw [and_iff_right (Nat.le_of_not_lt hshort), follow, Except.ok.injEq]
      exact eq_comm
  · next hfile => exact iff_of_false nofun fun h => by rw [h.1] at hfile; cases hfile
  · next hnone => exact iff_of_false nofun fun h => by rw [h.1] at hnone; cases hnone

/-- The last name of a path is one step from the folder where the others lead. -/
theorem follow_concat {names : List String} {name : String}
    (h : t.follow here (names ++ [name]) = .ok location) :
    ∃ base, t.follow here names = .ok base ∧ t.get? base = some .folder ∧
      location = step base name := by
  rw [follow_append] at h
  obtain ⟨base, hbase, hstep⟩ := exists_of_bind_eq_ok h
  obtain ⟨hfolder, -, hlocation⟩ := follow_singleton_eq_ok_iff.mp hstep
  exact ⟨base, hbase, hfolder, hlocation⟩

theorem follow_of_locate (h : t.locate path = .ok location) :
    t.follow (t.anchorLocation path.anchor) path.names = .ok location := by
  rw [locate] at h
  split at h
  · cases h
  · split at h
    · cases h
    · exact h

/-- What is in a folder is located by its name there. -/
theorem locate_child {name : String} (h : t.locate (path.child name) = .ok location)
    (hname : name ≠ "..") :
    ∃ base, t.follow (t.anchorLocation path.anchor) path.names = .ok base ∧
      t.get? base = some .folder ∧ location = base ++ [name] := by
  obtain ⟨base, hbase, hfolder, hstep⟩ := follow_concat (follow_of_locate h)
  exact ⟨base, hbase, hfolder, by rw [hstep, step_of_ne hname]⟩

theorem isFolder_eq_true_iff : t.isFolder path = .ok true ↔
    ∃ base, t.locate path = .ok base ∧ t.get? base = some .folder := by
  rw [isFolder]
  split <;> simp_all

theorem anchorLocation_congr (h : u.workingFolder = t.workingFolder) (anchor : Path.Anchor) :
    u.anchorLocation anchor = t.anchorLocation anchor := by
  cases anchor with
  | workingFolder => exact h
  | root => rfl
  | doubleRoot => rfl

/-- Where a path leads depends on what is where. -/
theorem locate_congr (hfolder : u.workingFolder = t.workingFolder)
    (h : ∀ location, u.get? location = t.get? location) : u.locate path = t.locate path := by
  have hfollow : ∀ names here, u.follow here names = t.follow here names := by
    intro names
    induction names with
    | nil => exact fun _ => rfl
    | cons name rest ih =>
      intro here
      simp only [follow, h, ih]
  rw [locate, locate, anchorLocation_congr hfolder, hfollow]

/-- Something on the way of a path is no folder. -/
def Blocked (t : FileTree) (path : Path) : Prop :=
  t.locate path = .error .missing ∨ t.locate path = .error .notAFolder

theorem isFolder_of_blocked (h : t.Blocked path) : t.isFolder path = .ok false := by
  rw [isFolder]
  rcases h with h | h <;> rw [h]

/-- The way to what may be in a folder is not blocked. -/
theorem not_blocked_child {name : String} (h : t.isFolder path = .ok true) :
    ¬ t.Blocked (path.child name) := by
  obtain ⟨base, hbase, hfolder⟩ := isFolder_eq_true_iff.mp h
  rw [Blocked, locate]
  split
  · simp
  · split
    · simp
    · rw [Path.child, follow_append, follow_of_locate hbase]
      change ¬ (t.follow base [name] = _ ∨ t.follow base [name] = _)
      rw [follow, hfolder]
      simp only
      split
      · simp
      · simp [follow]

/-! ## Trees with the same folders -/

/-- All folders of a tree are folders of another. -/
structure KeepsFolders (t u : FileTree) : Prop where
  workingFolder_eq : u.workingFolder = t.workingFolder
  folder : ∀ location, t.get? location = some .folder → u.get? location = some .folder

namespace KeepsFolders

/-- Names are followed through folders as they were. -/
theorem follow_eq (h : KeepsFolders t u) {names : List String}
    (hmissing : t.follow here names ≠ .error .missing)
    (hfile : t.follow here names ≠ .error .notAFolder) :
    u.follow here names = t.follow here names := by
  induction names generalizing here with
  | nil => rfl
  | cons name rest ih =>
    rw [follow] at hmissing hfile ⊢
    rw [follow]
    cases hget : t.get? here with
    | none => simp [hget] at hmissing
    | some entry =>
      cases entry with
      | file content => simp [hget] at hfile
      | folder =>
        simp only [hget] at hmissing hfile
        simp only [h.folder here hget]
        split
        · rfl
        · next hshort =>
          rw [if_neg hshort] at hmissing hfile
          exact ih hmissing hfile

theorem locate_eq (h : KeepsFolders t u) (hblocked : ¬ t.Blocked path) :
    u.locate path = t.locate path := by
  rw [Blocked, not_or] at hblocked
  rw [locate] at hblocked ⊢
  rw [locate]
  split
  · rfl
  · next hnul =>
    rw [if_neg hnul] at hblocked
    split
    · rfl
    · next hshort =>
      rw [if_neg hshort] at hblocked
      rw [anchorLocation_congr h.workingFolder_eq]
      exact h.follow_eq hblocked.1 hblocked.2

/-- Paths lead to where they led. -/
theorem locate_eq_ok (h : KeepsFolders t u) (hlocate : t.locate path = .ok location) :
    u.locate path = .ok location :=
  (h.locate_eq (by simp [Blocked, hlocate])).trans hlocate

end KeepsFolders

/-- Trees with the same folders.  The files may differ. -/
structure SameFolders (t u : FileTree) : Prop where
  workingFolder_eq : u.workingFolder = t.workingFolder
  folder_iff : ∀ location, u.get? location = some .folder ↔ t.get? location = some .folder

namespace SameFolders

theorem refl (t : FileTree) : SameFolders t t := ⟨rfl, fun _ => Iff.rfl⟩

theorem symm (h : SameFolders t u) : SameFolders u t :=
  ⟨h.workingFolder_eq.symm, fun l => (h.folder_iff l).symm⟩

theorem trans (h : SameFolders t u) (h' : SameFolders u v) : SameFolders t v :=
  ⟨h'.workingFolder_eq.trans h.workingFolder_eq,
    fun l => (h'.folder_iff l).trans (h.folder_iff l)⟩

/-- A file in the place of something that is no folder leaves the folders as they are. -/
theorem put_file (h : t.get? here ≠ some .folder) (content : ByteArray) :
    SameFolders t (t.put here (.file content)) := by
  refine ⟨rfl, fun location => ?_⟩
  by_cases hne : location = here
  · subst hne
    rw [get?_put_self h]
    exact iff_of_false nofun h
  · rw [get?_put_of_ne hne]

theorem keepsFolders (h : SameFolders t u) : KeepsFolders t u :=
  ⟨h.workingFolder_eq, fun location => (h.folder_iff location).mpr⟩

theorem locate_eq_ok (h : SameFolders t u) (hlocate : t.locate path = .ok location) :
    u.locate path = .ok location :=
  h.keepsFolders.locate_eq_ok hlocate

/-- Paths lead to the same locations. -/
theorem locate_eq_ok_iff (h : SameFolders t u) :
    u.locate path = .ok location ↔ t.locate path = .ok location :=
  ⟨h.symm.locate_eq_ok, h.locate_eq_ok⟩

theorem blocked (h : SameFolders t u) (hu : u.Blocked path) : t.Blocked path := by
  refine Classical.byContradiction fun ht => ht ?_
  rwa [Blocked, h.keepsFolders.locate_eq ht] at hu

/-- The same paths are blocked, but not always by the same. -/
theorem blocked_iff (h : SameFolders t u) : u.Blocked path ↔ t.Blocked path :=
  ⟨h.blocked, h.symm.blocked⟩

theorem isFolder_eq (h : SameFolders t u) (path : Path) : u.isFolder path = t.isFolder path := by
  by_cases hblocked : t.Blocked path
  · rw [isFolder_of_blocked hblocked, isFolder_of_blocked (h.blocked_iff.mpr hblocked)]
  · rw [isFolder, isFolder, h.keepsFolders.locate_eq hblocked]
    split
    · next location _ =>
      refine congrArg Except.ok (Bool.eq_iff_iff.mpr ?_)
      simpa using h.folder_iff location
    · rfl
    · rfl

end SameFolders

/-! ## Reading and writing -/

theorem read_eq_ok_iff : t.read path = .ok content ↔
    ∃ location, t.locate path = .ok location ∧ t.get? location = some (.file content) := by
  rw [read]
  cases t.locate path with
  | error o => simp
  | ok location =>
    simp only [Except.ok.injEq, exists_eq_left']
    split <;> simp_all

theorem write_eq_ok_iff : t.write path content = .ok u ↔
    ∃ location, t.locate path = .ok location ∧ t.get? location ≠ some .folder ∧
      u = t.put location (.file content) := by
  rw [write]
  cases t.locate path with
  | error o => simp
  | ok location =>
    simp only [Except.ok.injEq, exists_eq_left']
    split
    · next hfolder => simp [hfolder]
    · next hfolder =>
      rw [and_iff_right hfolder]
      simp [eq_comm]

/-- Writing leaves the folders as they are. -/
theorem sameFolders_of_write (h : t.write path content = .ok u) : SameFolders t u := by
  obtain ⟨location, -, hfolder, rfl⟩ := write_eq_ok_iff.mp h
  exact .put_file hfolder content

/-- What was written is read. -/
theorem read_of_write (h : t.write path content = .ok u) : u.read path = .ok content := by
  have hfolders := sameFolders_of_write h
  obtain ⟨location, hlocate, hfolder, rfl⟩ := write_eq_ok_iff.mp h
  exact read_eq_ok_iff.mpr
    ⟨location, hfolders.locate_eq_ok hlocate, get?_put_self hfolder _⟩

/-- Where nothing was written, nothing has changed. -/
theorem get?_of_write (h : t.write path content = .ok u)
    (hother : t.locate path ≠ .ok location) : u.get? location = t.get? location := by
  obtain ⟨here, hlocate, -, rfl⟩ := write_eq_ok_iff.mp h
  refine get?_put_of_ne ?_ _
  rintro rfl
  exact hother hlocate

/-- What is read from where nothing has changed is the same. -/
theorem SameFolders.read_eq_ok (h : SameFolders t u) (hread : t.read path = .ok content)
    (hsame : ∀ location, t.locate path = .ok location → u.get? location = t.get? location) :
    u.read path = .ok content := by
  obtain ⟨location, hlocate, hfile⟩ := read_eq_ok_iff.mp hread
  exact read_eq_ok_iff.mpr
    ⟨location, h.locate_eq_ok hlocate, by rw [hsame location hlocate, hfile]⟩

/-! ## Names in a folder -/

/-- There is something with this name in the folder at a path. -/
def Lists (t : FileTree) (folder : Path) (name : String) : Prop :=
  ∃ location, t.locate folder = .ok location ∧ t.get? location = some .folder ∧
    (t.get? (location ++ [name])).isSome

theorem isFolder_of_lists {name : String} (h : t.Lists path name) : t.isFolder path = .ok true := by
  obtain ⟨location, hlocate, hfolder, -⟩ := h
  exact isFolder_eq_true_iff.mpr ⟨location, hlocate, hfolder⟩

/-- The locations in a folder are those with one name more. -/
theorem dropLast_getLast?_eq_some_iff {l : Location} {name : String} :
    (if l.dropLast = location then l.getLast? else none) = some name ↔ l = location ++ [name] := by
  rw [Option.ite_none_right_eq_some, List.getLast?_eq_some_iff]
  constructor
  · rintro ⟨hlocation, front, rfl⟩
    rw [List.dropLast_concat] at hlocation
    rw [hlocation]
  · rintro rfl
    exact ⟨List.dropLast_concat, location, rfl⟩

theorem mem_namesAt_iff {name : String} :
    name ∈ t.namesAt location ↔ (t.get? (location ++ [name])).isSome := by
  have hget : t.get? (location ++ [name]) = t.entries.lookup (location ++ [name]) := by
    simp [get?]
  simp only [hget, List.lookup_isSome_iff, namesAt, List.mem_filterMap,
    dropLast_getLast?_eq_some_iff, beq_iff_eq]
  exact exists_congr fun entry => and_congr_right fun _ => eq_comm

theorem nodup_namesAt (t : FileTree) (location : Location) : (t.namesAt location).Nodup := by
  have hentries : t.entries.Pairwise fun a b => a.1 ≠ b.1 :=
    List.pairwise_map.mp t.nodup_locations
  refine hentries.filterMap _ ?_
  rintro a b hne name hname name' hname' rfl
  exact hne ((dropLast_getLast?_eq_some_iff.mp hname).trans
    (dropLast_getLast?_eq_some_iff.mp hname').symm)

theorem namesIn_of_error {e : StorageError} (h : t.isFolder path = .error e) :
    t.namesIn path = .error e := by
  rw [namesIn, h]
  rfl

/-- Where no folder is, there are no names. -/
theorem namesIn_of_not_folder (h : t.isFolder path = .ok false) : t.namesIn path = .ok [] := by
  rw [namesIn, h]
  rfl

theorem namesIn_of_folder (hlocate : t.locate path = .ok location)
    (hfolder : t.get? location = some .folder) : t.namesIn path = .ok (t.namesAt location) := by
  rw [namesIn, isFolder_eq_true_iff.mpr ⟨location, hlocate, hfolder⟩, hlocate]
  rfl

/-- The names in a folder are those of what is in it, each once. -/
theorem namesIn_eq_ok {names : List String} (h : t.namesIn path = .ok names) :
    names.Nodup ∧ ∀ name, name ∈ names ↔ t.Lists path name := by
  cases hisFolder : t.isFolder path with
  | error e => cases (namesIn_of_error hisFolder).symm.trans h
  | ok isFolder =>
    cases isFolder with
    | false =>
      cases (namesIn_of_not_folder hisFolder).symm.trans h
      refine ⟨List.nodup_nil, fun name => iff_of_false List.not_mem_nil fun hlists => ?_⟩
      cases hisFolder.symm.trans (isFolder_of_lists hlists)
    | true =>
      obtain ⟨location, hlocate, hfolder⟩ := isFolder_eq_true_iff.mp hisFolder
      cases (namesIn_of_folder hlocate hfolder).symm.trans h
      refine ⟨nodup_namesAt t location, fun name => ?_⟩
      rw [mem_namesAt_iff, Lists]
      simp [hlocate, hfolder]

end SvgDrawing.FileTree
