import SvgDrawing.Proofs.Files.Folders
import SvgDrawing.Proofs.Files.IconFolder

/-!
# Running a second time

A run writes to places where sources go, and icons are never read from there.  The files that a run
leaves are therefore as good as those it started from for another run: this one does the same, and
every file that it writes holds the same already.  The one exception is a run that cannot make a
parent of the output folder.  It may have made some other parents, and then the second run fails at
making the output folder as well, but maybe at another place of the way.

## Main definitions

* `Alike job t u` — trees with the same folders that differ only where sources go.
* `Abreast job t u p q` — two runs from such trees that have done the same.

## Main statements

* `Alike.iconNames_eq`, `Alike.read_file`, `Alike.write` — what a run sees of the files.
* `Abreast.renderIcon`, `Abreast.renderIcons`, `Abreast.renderIndex` — the steps of two runs.
* `renderFolder_again` — a run on the files that a run has left.
-/
namespace SvgDrawing

variable {job : Job} {t u v : FileTree} {p q : Progress} {name identifier : String}
  {content : ByteArray}

/-! ## Trees that are alike for a job -/

/-- Trees with the same folders that differ only where sources go. -/
structure Alike (job : Job) (t u : FileTree) : Prop where
  folders : FileTree.SameFolders t u
  get?_eq : ∀ location, (∀ identifier, t.locate (job.target identifier) ≠ .ok location) →
    u.get? location = t.get? location

namespace Alike

theorem refl (job : Job) (t : FileTree) : Alike job t t := ⟨.refl t, fun _ _ => rfl⟩

theorem symm (h : Alike job t u) : Alike job u t :=
  ⟨h.folders.symm, fun location hother => (h.get?_eq location fun identifier hlocate =>
    hother identifier (h.folders.locate_eq_ok hlocate)).symm⟩

theorem trans (h : Alike job t u) (h' : Alike job u v) : Alike job t v := by
  refine ⟨h.folders.trans h'.folders, fun location hother => ?_⟩
  refine (h'.get?_eq location fun identifier hlocate => ?_).trans (h.get?_eq location hother)
  exact hother identifier (h.folders.locate_eq_ok_iff.mp hlocate)

/-- Writing a source leaves a tree that is alike. -/
theorem of_write (h : t.write (job.target identifier) content = .ok u) : Alike job t u :=
  ⟨FileTree.sameFolders_of_write h, fun _ hother => FileTree.get?_of_write h (hother identifier)⟩

/-- Sources go to the same places, and the same prevents it. -/
theorem locate_target (h : Alike job t u) (identifier : String) :
    u.locate (job.target identifier) = t.locate (job.target identifier) := by
  by_cases hfolder : t.isFolder job.outputFolder = .ok true
  · exact h.folders.keepsFolders.locate_eq (FileTree.not_blocked_child hfolder)
  · -- there is no place for any source, so nothing is different
    have hsame : ∀ location, u.get? location = t.get? location := fun location =>
      h.get?_eq location fun other hlocate =>
        hfolder (FileTree.isFolder_of_locate_child hlocate)
    exact FileTree.locate_congr h.folders.workingFolder_eq hsame

/-- A source is written to the same place in both trees, or to none of them. -/
theorem write (h : Alike job t u) (identifier : String) (content : ByteArray) :
    (∃ e, t.write (job.target identifier) content = .error e ∧
      u.write (job.target identifier) content = .error e) ∨
    ∃ location, t.write (job.target identifier) content =
        .ok (t.put location (.file content)) ∧
      u.write (job.target identifier) content = .ok (u.put location (.file content)) ∧
      t.get? location ≠ some .folder := by
  cases hlocate : t.locate (job.target identifier) with
  | error o =>
    refine .inl ⟨o.error (job.target identifier), ?_, ?_⟩
    · rw [FileTree.write, hlocate]
    · rw [FileTree.write, h.locate_target, hlocate]
  | ok location =>
    have hlocate' := (h.locate_target identifier).trans hlocate
    by_cases hfolder : t.get? location = some .folder
    · refine .inl ⟨.isADirectory (job.target identifier).text, ?_, ?_⟩
      · rw [FileTree.write, hlocate]
        simp only [hfolder]
      · rw [FileTree.write, hlocate']
        simp only [(h.folders.folder_iff location).mpr hfolder]
    · exact .inr ⟨location,
        FileTree.write_eq_ok_iff.mpr ⟨location, hlocate, hfolder, rfl⟩,
        FileTree.write_eq_ok_iff.mpr
          ⟨location, hlocate', fun hu => hfolder ((h.folders.folder_iff location).mp hu), rfl⟩,
        hfolder⟩

/-- Icons are the same, and so is what prevents reading them. -/
theorem read_file (h : Alike job t u) (hfolder : t.isFolder job.iconFolder = .ok true)
    (hsvg : name.endsWith ".svg") : u.read (job.file name) = t.read (job.file name) := by
  have hlocate : u.locate (job.file name) = t.locate (job.file name) :=
    h.folders.keepsFolders.locate_eq (FileTree.not_blocked_child hfolder)
  rw [FileTree.read, FileTree.read, hlocate]
  split
  · rfl
  · next location hfile =>
    rw [h.get?_eq location fun identifier => Job.locate_file_ne_target hsvg hfile]

/-- A folder has the same icons. -/
theorem perm_namesAt (h : Alike job t u) (base : Location) :
    ((u.namesAt base).filter (·.endsWith ".svg")).Perm
      ((t.namesAt base).filter (·.endsWith ".svg")) := by
  have hnodup : ∀ t : FileTree, ((t.namesAt base).filter (·.endsWith ".svg")).Nodup := fun t =>
    (FileTree.nodup_namesAt t base).sublist List.filter_sublist
  refine (List.perm_ext_iff_of_nodup (hnodup u) (hnodup t)).mpr fun name => ?_
  rw [List.mem_filter, List.mem_filter]
  refine and_congr_left fun hsvg => ?_
  rw [FileTree.mem_namesAt_iff, FileTree.mem_namesAt_iff, h.get?_eq]
  exact fun identifier htarget => Job.ne_of_locate_target hsvg htarget rfl

/-- The names of icons are the same. -/
theorem iconNames_eq (h : Alike job t u) : job.iconNames u = job.iconNames t := by
  have hfolders := h.folders.isFolder_eq job.iconFolder
  cases hfolder : t.isFolder job.iconFolder with
  | error e =>
    rw [Job.iconNames, Job.iconNames, FileTree.namesIn_of_error hfolder,
      FileTree.namesIn_of_error (hfolders.trans hfolder)]
  | ok isFolder =>
    cases isFolder with
    | false =>
      rw [Job.iconNames, Job.iconNames, FileTree.namesIn_of_not_folder hfolder,
        FileTree.namesIn_of_not_folder (hfolders.trans hfolder)]
    | true =>
      obtain ⟨base, hlocate, hbase⟩ := FileTree.isFolder_eq_true_iff.mp hfolder
      have hlisted := FileTree.namesIn_of_folder (h.folders.locate_eq_ok hlocate)
        ((h.folders.folder_iff base).mpr hbase)
      rw [Job.iconNames_of_perm hlisted ((h.perm_namesAt base).trans
        (List.mergeSort_perm _ _).symm) (pairwise_le_mergeSort _)]
      rw [Job.iconNames, FileTree.namesIn_of_folder hlocate hbase]
      rfl

end Alike

/-! ## Two runs -/

/-- Two runs from trees that are alike have done the same: what one has changed, both have. -/
structure Abreast (job : Job) (t u : FileTree) (p q : Progress) : Prop where
  log_eq : q.log = p.log
  icons_eq : q.icons = p.icons
  written_eq : q.written = p.written
  start : Alike job t u
  first : Alike job t p.files
  second : Alike job u q.files
  get?_eq : ∀ location, q.files.get? location = p.files.get? location ∨
    p.files.get? location = t.get? location ∧ q.files.get? location = u.get? location

/-- The same parts of two runs end in the same way. -/
def EndAbreast (job : Job) (t u : FileTree) (r s : Progress × Option Failure) : Prop :=
  s.2 = r.2 ∧ Abreast job t u r.1 s.1

theorem EndAbreast.runThen {r s : Progress × Option Failure}
    {next : Progress → Progress × Option Failure} (h : EndAbreast job t u r s)
    (hnext : ∀ {p q}, Abreast job t u p q → EndAbreast job t u (next p) (next q)) :
    EndAbreast job t u (runThen r next) (runThen s next) := by
  obtain ⟨p, failure⟩ := r
  obtain ⟨q, failure'⟩ := s
  obtain ⟨hend, hafter⟩ := h
  cases hend
  cases failure with
  | some e => exact ⟨rfl, hafter⟩
  | none => exact hnext hafter

namespace Abreast

theorem of_alike (h : Alike job t u) : Abreast job t u (.start t) (.start u) where
  log_eq := rfl
  icons_eq := rfl
  written_eq := rfl
  start := h
  first := .refl job t
  second := .refl job u
  get?_eq _ := .inr ⟨rfl, rfl⟩

theorem alike (h : Abreast job t u p q) : Alike job p.files q.files :=
  (h.first.symm.trans h.start).trans h.second

theorem logging (h : Abreast job t u p q) (log : List Log.Entry) :
    Abreast job t u (p.logging log) (q.logging log) :=
  { h with log_eq := by rw [Progress.logging, Progress.logging, h.log_eq] }

/-- The files after a source was written, in both runs at the same place. -/
theorem get?_put (h : Abreast job t u p q) {here : Location}
    (hfolder : p.files.get? here ≠ some .folder) (location : Location) (entry : Entry) :
    (q.files.put here entry).get? location = (p.files.put here entry).get? location ∨
      (p.files.put here entry).get? location = t.get? location ∧
        (q.files.put here entry).get? location = u.get? location := by
  by_cases hne : location = here
  · subst hne
    have hfolder' := mt (h.alike.folders.folder_iff location).mp hfolder
    exact .inl ((FileTree.get?_put_self hfolder' _).trans (FileTree.get?_put_self hfolder _).symm)
  · rw [FileTree.get?_put_of_ne hne, FileTree.get?_put_of_ne hne]
    exact h.get?_eq location

/-- A source is written in both runs or in none of them. -/
theorem write (h : Abreast job t u p q) (identifier text : String) :
    (∃ e, p.write (job.target identifier) text = .error e ∧
      q.write (job.target identifier) text = .error e) ∨
    ∃ p' q', p.write (job.target identifier) text = .ok p' ∧
      q.write (job.target identifier) text = .ok q' ∧ Abreast job t u p' q' := by
  rcases h.alike.write identifier text.toUTF8 with ⟨e, hp, hq⟩ | ⟨here, hp, hq, hfolder⟩
  · refine .inl ⟨e, ?_, ?_⟩
    · rw [Progress.write, hp]
      rfl
    · rw [Progress.write, hq]
      rfl
  · refine .inr ⟨_, _, congrArg (Except.map _) hp, congrArg (Except.map _) hq, ?_⟩
    exact {
      log_eq := h.log_eq
      icons_eq := h.icons_eq
      written_eq := congrArg (· ++ [job.target identifier]) h.written_eq
      start := h.start
      first := h.first.trans (.of_write hp)
      second := h.second.trans (.of_write hq)
      get?_eq := fun location => h.get?_put hfolder location _ }

/-- One icon. -/
theorem renderIcon (h : Abreast job t u p q) (hfolder : t.isFolder job.iconFolder = .ok true)
    (hsvg : name.endsWith ".svg") :
    EndAbreast job t u (renderIcon job p name) (renderIcon job q name) := by
  have hsource : job.source q.files (job.iconFolder.child name) =
      job.source p.files (job.iconFolder.child name) :=
    job.source_congr (h.alike.read_file ((h.first.folders.isFolder_eq _).trans hfolder) hsvg)
  simp only [SvgDrawing.renderIcon, h.icons_eq, hsource]
  split
  · exact ⟨rfl, h.logging _⟩
  · split
    · exact ⟨rfl, h.logging _⟩
    · next text _ =>
      rcases (h.logging _).write _ text with ⟨e, hp, hq⟩ | ⟨p', q', hp, hq, hafter⟩
      · rw [hp, hq]
        exact ⟨rfl, h.logging _⟩
      · rw [hp, hq]
        exact ⟨rfl, { hafter.logging _ with
          icons_eq := congrArg (putIcon · _ _) hafter.icons_eq }⟩

/-- All icons. -/
theorem renderIcons (h : Abreast job t u p q) {names : List String}
    (hnames : ∀ name ∈ names, t.isFolder job.iconFolder = .ok true ∧ name.endsWith ".svg") :
    EndAbreast job t u (renderIcons job p names) (renderIcons job q names) := by
  induction names generalizing p q with
  | nil => exact ⟨rfl, h⟩
  | cons name rest ih =>
    rw [List.forall_mem_cons] at hnames
    rw [renderIcons_cons, renderIcons_cons]
    exact (h.renderIcon hnames.1.1 hnames.1.2).runThen fun hicon => ih hicon hnames.2

/-- The index. -/
theorem renderIndex (h : Abreast job t u p q) :
    EndAbreast job t u (renderIndex job p) (renderIndex job q) := by
  rw [SvgDrawing.renderIndex, SvgDrawing.renderIndex, h.icons_eq]
  split
  · exact ⟨rfl, h⟩
  · next indexName _ =>
    rcases h.write (Swift.identifier indexName) (Swift.index indexName p.icons) with
      ⟨e, hp, hq⟩ | ⟨p', q', hp, hq, hafter⟩
    · rw [hp, hq]
      exact ⟨rfl, h⟩
    · rw [hp, hq]
      simp only [hafter.icons_eq]
      exact ⟨rfl, hafter.logging _⟩

end Abreast

/-! ## A whole run -/

/-- Runs from trees that are alike do the same. -/
theorem Alike.renderMade (h : Alike job t u) :
    EndAbreast job t u (renderMade job t) (renderMade job u) := by
  rw [SvgDrawing.renderMade, SvgDrawing.renderMade, h.iconNames_eq]
  cases hnames : job.iconNames t with
  | error e => exact ⟨rfl, .of_alike h⟩
  | ok names =>
    have hsvg : ∀ name ∈ names, t.isFolder job.iconFolder = .ok true ∧ name.endsWith ".svg" := by
      intro name hname
      obtain ⟨hsvg, hlists⟩ := ((Job.iconNames_eq_ok hnames).2 name).mp hname
      exact ⟨FileTree.isFolder_of_lists hlists, hsvg⟩
    exact ((Abreast.of_alike h).renderIcons hsvg).runThen Abreast.renderIndex

/-- A run on the files that a run has left has the same log, icons and written files, and it
leaves all files as they are, whether the first run has ended well or not.  It also ends with the
same error, or with none as the first, unless a parent of the output folder was missing and could
not be made.  Then it fails at making the output folder as well, maybe with another error. -/
theorem renderFolder_again (job : Job) (files : FileTree) :
    let first := renderFolder job files
    let second := renderFolder job first.1.files
    second.1.log = first.1.log ∧ second.1.icons = first.1.icons ∧
      second.1.written = first.1.written ∧
      second.1.files.workingFolder = first.1.files.workingFolder ∧
      (∀ location, second.1.files.get? location = first.1.files.get? location) ∧
      (second.2 = first.2 ∨ ∃ e e' : StorageError,
        files.locate job.outputFolder = .error .missing ∧
        (files.makeFolder job.outputFolder.parent).2 = some e ∧
        first.2 = some (.storage e) ∧
        (first.1.files.makeFolder job.outputFolder).2 = some e' ∧
        second.2 = some (.storage e')) := by
  intro first second
  cases hmake : files.makeFolder job.outputFolder with
  | mk made failure =>
    cases failure with
    | some e =>
      obtain ⟨e', hagain, hsame⟩ := FileTree.makeFolder_of_error hmake
      have hfirst : first = (.start made, some (.storage e)) := renderFolder_of_error hmake
      have hsecond : second = (.start made, some (.storage e')) := by
        change renderFolder job first.1.files = _
        rw [hfirst]
        exact renderFolder_of_error hagain
      rw [hfirst, hsecond]
      refine ⟨rfl, rfl, rfl, rfl, fun _ => rfl, hsame.imp (fun h => ?_) fun h => ?_⟩
      · rw [h]
      · exact ⟨e, e', h.1, h.2, rfl, congrArg Prod.snd hagain, rfl⟩
    | none =>
      have hfirst : first = renderMade job made := renderFolder_of_made hmake
      have hstart : Alike job made first.1.files :=
        hfirst ▸ (Alike.refl job made).renderMade.2.first
      have hsecond : second = renderMade job first.1.files :=
        renderFolder_of_made (FileTree.makeFolder_of_sameFolders hmake hstart.folders)
      have hend := hstart.renderMade
      rw [← hsecond, ← hfirst] at hend
      refine ⟨hend.2.log_eq, hend.2.icons_eq, hend.2.written_eq,
        hend.2.second.folders.workingFolder_eq, fun location => ?_, .inl hend.1⟩
      exact (hend.2.get?_eq location).elim id And.right

/-- A file where a run into `a/../f/x` needs a folder. -/
def fileInTheWay : FileTree := (FileTree.empty []).put ["f"] (.file "text".toUTF8)

/-- The first run makes `a` before it finds the file, and the second one finds it at once. -/
theorem other_error_at_second_run :
    let job : Job := ⟨.ofText "icons", some "A", .ofText "a/../f/x", some 5, "raise"⟩
    let first := renderFolder job fileInTheWay
    first.2 = some (.storage (.alreadyExists "a/../f")) ∧
      (renderFolder job first.1.files).2 = some (.storage (.notADirectory "a/../f/x")) := by
  decide +kernel

end SvgDrawing
