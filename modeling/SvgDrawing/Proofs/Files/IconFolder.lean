import SvgDrawing.Proofs.Files.IconNames
import SvgDrawing.Proofs.Swift.Declaration

/-!
# Runs over the icons of a folder

Sources are written to other places than icons are read from, so what a run writes for an icon
depends on the files as they were when the output folder had been made.  A run that has gone
through some icons is therefore known from these files and the names.

## Main definitions

* `IconStep job p name` — what one icon does to a run, with all ways to fail.
* `runThen first next`, `renderMade job made` — a run in parts, behind its output folder.
* `Rendered job made names p` — a run that has gone through some icons.

## Main statements

* `eq_of_locate_target`, `locate_file_ne_target` — the places of sources and icons.
* `iconStep_renderIcon`, `Rendered.step`, `Rendered.renderIcons` — one icon, and all of them.
-/
namespace SvgDrawing

/-! ## One icon -/

namespace Job

/-- The path of an icon file. -/
def file (job : Job) (name : String) : Path := job.iconFolder.child name

theorem stem_file (job : Job) (name : String) : (job.file name).stem = Path.stemOf name := by
  simp [file, Path.stem, Path.name, Path.child]

theorem target_name_ne (identifier : String) : identifier ++ ".swift" ≠ ".." := by
  intro heq
  have hlength := congrArg (·.toList.length) heq
  simp at hlength

/-- A name with the ending of icons has this ending as its last characters. -/
theorem suffix_of_endsWith {name : String} (h : name.endsWith ".svg") :
    ['.', 's', 'v', 'g'] <:+ name.toList := by
  rw [String.endsWith_eq_endsWith_toSlice, String.Slice.endsWith_string_iff] at h
  simpa using h

theorem icon_name_ne {name : String} (h : name.endsWith ".svg") : name ≠ ".." := by
  rintro rfl
  have hlength := (suffix_of_endsWith h).length_le
  simp at hlength

/-- A name with the ending of icons is not the name of a source. -/
theorem icon_name_ne_target {name : String} (h : name.endsWith ".svg") (identifier : String) :
    name ≠ identifier ++ ".swift" := by
  rintro rfl
  obtain ⟨front, hfront⟩ := suffix_of_endsWith h
  have hlast := congrArg List.getLast? hfront
  simp [String.toList_append] at hlast

/-- Sources with different identifiers go to different places. -/
theorem eq_of_locate_target {job : Job} {t : FileTree} {a b : String} {location : Location}
    (ha : t.locate (job.target a) = .ok location) (hb : t.locate (job.target b) = .ok location) :
    a = b := by
  obtain ⟨base, hbase, -, rfl⟩ := FileTree.locate_child ha (target_name_ne a)
  obtain ⟨base', hbase', -, heq⟩ := FileTree.locate_child hb (target_name_ne b)
  cases hbase.symm.trans hbase'
  exact (String.append_left_inj ".swift").mp (by simpa using heq)

/-- Where sources go, there is no name of an icon. -/
theorem ne_of_locate_target {job : Job} {t : FileTree} {name identifier : String}
    {location base : Location} (hsvg : name.endsWith ".svg")
    (htarget : t.locate (job.target identifier) = .ok location) : location ≠ base ++ [name] := by
  rintro rfl
  obtain ⟨base', -, -, heq⟩ := FileTree.locate_child htarget (target_name_ne identifier)
  have hname : name = identifier ++ ".swift" := by
    have hlast := congrArg List.getLast? heq
    simpa using hlast
  exact icon_name_ne_target hsvg identifier hname

/-- Icons are not read from where sources go to. -/
theorem locate_file_ne_target {job : Job} {t : FileTree} {name identifier : String}
    {location : Location} (hsvg : name.endsWith ".svg")
    (hfile : t.locate (job.file name) = .ok location) :
    t.locate (job.target identifier) ≠ .ok location := by
  obtain ⟨base, -, -, rfl⟩ := FileTree.locate_child hfile (icon_name_ne hsvg)
  exact fun htarget => ne_of_locate_target hsvg htarget rfl

/-- A source depends on the files through what is read. -/
theorem source_congr {t u : FileTree} {file : Path} (job : Job) (h : t.read file = u.read file) :
    job.source t file = job.source u file := by
  rw [source, source, h]

theorem exists_read_of_source {job : Job} {t : FileTree} {file : Path} {code : String}
    (h : (job.source t file).result = .ok code) : ∃ bytes, t.read file = .ok bytes := by
  rw [source] at h
  split at h
  · cases h
  · next bytes hread => exact ⟨bytes, hread⟩

/-- What is logged about an icon that is rendered, after its conversion. -/
def renderedEntry (job : Job) (name : String) : Log.Entry :=
  ⟨.debug, "Rendered " ++ name ++ " into " ++ (job.target (iconIdentifier name)).text⟩

end Job

/-- The warning about an icon whose identifier is taken. -/
def takenEntry (name : String) : Log.Entry :=
  ⟨.warning, "Skipping " ++ name ++ ": draw" ++ iconIdentifier name ++ " already exists"⟩

/-- What one icon does to a run: the progress after it, and what prevented it. -/
inductive IconStep (job : Job) (p : Progress) (name : String) : Progress × Option Failure → Prop
  | taken (h : iconIdentifier name ∈ p.icons.map Prod.snd) :
      IconStep job p name (p.logging [takenEntry name], none)
  | noSource {e : Failure} (h : iconIdentifier name ∉ p.icons.map Prod.snd)
      (hsource : (job.source p.files (job.file name)).result = .error e) :
      IconStep job p name (p.logging (job.source p.files (job.file name)).log, some e)
  | notWritten {code : String} {e : StorageError} (h : iconIdentifier name ∉ p.icons.map Prod.snd)
      (hsource : (job.source p.files (job.file name)).result = .ok code)
      (hwrite : p.files.write (job.target (iconIdentifier name)) code.toUTF8 = .error e) :
      IconStep job p name (p.logging (job.source p.files (job.file name)).log, some (.storage e))
  | rendered {code : String} {files : FileTree} (h : iconIdentifier name ∉ p.icons.map Prod.snd)
      (hsource : (job.source p.files (job.file name)).result = .ok code)
      (hwrite : p.files.write (job.target (iconIdentifier name)) code.toUTF8 = .ok files) :
      IconStep job p name
        ({ files,
           log := p.log ++ (job.source p.files (job.file name)).log ++ [job.renderedEntry name],
           icons := putIcon p.icons (Path.stemOf name) (iconIdentifier name),
           written := p.written ++ [job.target (iconIdentifier name)] }, none)

theorem any_identifier_iff {icons : List (String × String)} {identifier : String} :
    icons.any (·.2 = identifier) = true ↔ identifier ∈ icons.map Prod.snd := by
  simp

theorem iconStep_renderIcon (job : Job) (p : Progress) (name : String) :
    IconStep job p name (renderIcon job p name) := by
  have hstem : (job.iconFolder.child name).stem = Path.stemOf name := job.stem_file name
  by_cases htaken : iconIdentifier name ∈ p.icons.map Prod.snd
  · have heq : renderIcon job p name = (p.logging [takenEntry name], none) := by
      simp only [renderIcon, hstem]
      exact if_pos (any_identifier_iff.mpr htaken)
    exact heq ▸ .taken htaken
  · have hany : ¬ (p.icons.any (·.2 = Swift.identifier (Path.stemOf name))) = true :=
      fun h => htaken (any_identifier_iff.mp h)
    cases hsource : (job.source p.files (job.file name)).result with
    | error e =>
      have heq : renderIcon job p name =
          (p.logging (job.source p.files (job.file name)).log, some e) := by
        rw [Job.file] at hsource
        simp only [renderIcon, hstem, if_neg hany, hsource]
        rfl
      exact heq ▸ .noSource htaken hsource
    | ok code =>
      cases hwrite : p.files.write (job.target (iconIdentifier name)) code.toUTF8 with
      | error e =>
        have heq : renderIcon job p name =
            (p.logging (job.source p.files (job.file name)).log, some (.storage e)) := by
          rw [Job.file] at hsource
          rw [iconIdentifier] at hwrite
          simp only [renderIcon, hstem, if_neg hany, hsource, Progress.write, Progress.logging,
            hwrite]
          rfl
        exact heq ▸ .notWritten htaken hsource hwrite
      | ok files =>
        have hstep := IconStep.rendered htaken hsource hwrite
        rw [Job.file] at hsource
        rw [iconIdentifier] at hwrite
        simp only [renderIcon, hstem, if_neg hany, hsource, Progress.write, Progress.logging,
          hwrite]
        exact hstep

/-! ## Parts of a run -/

/-- Two parts of a run, the second only if the first ends well. -/
def runThen (first : Progress × Option Failure) (next : Progress → Progress × Option Failure) :
    Progress × Option Failure :=
  match first with
  | (p, some e) => (p, some e)
  | (p, none) => next p

theorem renderIcons_cons (job : Job) (p : Progress) (name : String) (rest : List String) :
    renderIcons job p (name :: rest) =
      runThen (renderIcon job p name) (renderIcons job · rest) := rfl

/-- Icons are gone through in parts. -/
theorem renderIcons_append (job : Job) (p : Progress) (front back : List String) :
    renderIcons job p (front ++ back) =
      runThen (renderIcons job p front) (renderIcons job · back) := by
  induction front generalizing p with
  | nil => rfl
  | cons name rest ih =>
    rw [List.cons_append, renderIcons_cons, renderIcons_cons]
    obtain ⟨p', failure⟩ := renderIcon job p name
    cases failure with
    | some e => rfl
    | none => exact ih p'

/-- A run whose output folder is there. -/
def renderMade (job : Job) (made : FileTree) : Progress × Option Failure :=
  match job.iconNames made with
  | .error e => (.start made, some (.storage e))
  | .ok names => runThen (renderIcons job (.start made) names) (renderIndex job)

theorem renderFolder_of_made {job : Job} {files made : FileTree}
    (h : files.makeFolder job.outputFolder = (made, none)) :
    renderFolder job files = renderMade job made := by
  rw [renderFolder, h]
  rfl

theorem renderFolder_of_error {job : Job} {files made : FileTree} {e : StorageError}
    (h : files.makeFolder job.outputFolder = (made, some e)) :
    renderFolder job files = (.start made, some (.storage e)) := by
  rw [renderFolder, h]

/-! ## All icons -/

/-- The log about an icon among those before it, if it is read from these files. -/
def Job.iconLog (job : Job) (files : FileTree) (names : List String) (name : String) :
    List Log.Entry :=
  if Leads names name then (job.source files (job.file name)).log ++ [job.renderedEntry name]
  else [takenEntry name]

/-- A run that has gone through some icons, from the files as they were when the output folder
had been made. -/
structure Rendered (job : Job) (made : FileTree) (names : List String) (p : Progress) : Prop where
  icons_eq : p.icons = (leaders names).map fun name => (Path.stemOf name, iconIdentifier name)
  written_eq : p.written = (leaders names).map fun name => job.target (iconIdentifier name)
  log_eq : p.log = names.flatMap (job.iconLog made names)
  folders : FileTree.SameFolders made p.files
  /-- Only the files of icons that were rendered have changed. -/
  get?_eq : ∀ location, (∀ name ∈ leaders names,
      made.locate (job.target (iconIdentifier name)) ≠ .ok location) →
    p.files.get? location = made.get? location
  /-- The files of icons that were rendered hold their sources. -/
  read_eq : ∀ name ∈ leaders names, ∃ code,
    (job.source made (job.file name)).result = .ok code ∧
    p.files.read (job.target (iconIdentifier name)) = .ok code.toUTF8

namespace Rendered

variable {job : Job} {made : FileTree} {front : List String} {name : String} {p p' : Progress}

theorem start (job : Job) (made : FileTree) : Rendered job made [] (.start made) where
  icons_eq := rfl
  written_eq := rfl
  log_eq := rfl
  folders := .refl made
  get?_eq _ _ := rfl
  read_eq := List.forall_mem_nil _

theorem identifiers_eq (h : Rendered job made front p) :
    p.icons.map Prod.snd = (leaders front).map iconIdentifier := by
  rw [h.icons_eq, List.map_map, Function.comp_def]

/-- The identifiers of rendered icons are those of all icons. -/
theorem mem_identifiers_iff (h : Rendered job made front p) (hsorted : front.Pairwise (· < ·))
    {identifier : String} :
    identifier ∈ p.icons.map Prod.snd ↔ identifier ∈ front.map iconIdentifier := by
  rw [h.identifiers_eq, mem_map_leaders_iff hsorted]

/-- A stem is taken only if its identifier is. -/
theorem putIcon_eq (h : Rendered job made front p)
    (hfree : iconIdentifier name ∉ p.icons.map Prod.snd) :
    putIcon p.icons (Path.stemOf name) (iconIdentifier name) =
      p.icons ++ [(Path.stemOf name, iconIdentifier name)] := by
  refine if_neg fun hany => hfree ?_
  obtain ⟨icon, hicon, hstem⟩ := List.any_eq_true.mp hany
  rw [h.icons_eq] at hicon
  obtain ⟨other, hother, rfl⟩ := List.mem_map.mp hicon
  have hid : iconIdentifier other = iconIdentifier name :=
    congrArg Swift.identifier (of_decide_eq_true hstem)
  rw [h.identifiers_eq, ← hid]
  exact List.mem_map_of_mem hother

/-- An icon that can be read is what it was before the run. -/
theorem source_eq {code : String} (h : Rendered job made front p) (hsvg : name.endsWith ".svg")
    (hsource : (job.source p.files (job.file name)).result = .ok code) :
    job.source p.files (job.file name) = job.source made (job.file name) := by
  obtain ⟨bytes, hread⟩ := Job.exists_read_of_source hsource
  have hmade : made.read (job.file name) = .ok bytes := by
    refine h.folders.symm.read_eq_ok hread fun location hlocation => ?_
    refine (h.get?_eq location fun other _ => ?_).symm
    exact Job.locate_file_ne_target hsvg (h.folders.locate_eq_ok_iff.mp hlocation)
  exact job.source_congr (hread.trans hmade.symm)

theorem log_concat (hsorted : (front ++ [name]).Pairwise (· < ·)) :
    (front ++ [name]).flatMap (job.iconLog made (front ++ [name])) =
      front.flatMap (job.iconLog made front) ++ job.iconLog made (front ++ [name]) name := by
  have hfront : front.map (job.iconLog made (front ++ [name])) =
      front.map (job.iconLog made front) := by
    refine List.map_congr_left fun other hother => ?_
    simp only [Job.iconLog, leads_concat_iff (lt_of_pairwise_concat hsorted hother)]
  rw [List.flatMap_append, List.flatMap_def, hfront, ← List.flatMap_def, List.flatMap_singleton]

/-- One icon that is left out. -/
theorem step_taken (h : Rendered job made front p) (hsorted : (front ++ [name]).Pairwise (· < ·))
    (htaken : iconIdentifier name ∈ front.map iconIdentifier) :
    Rendered job made (front ++ [name]) (p.logging [takenEntry name]) := by
  have hleaders : leaders (front ++ [name]) = leaders front := by
    rw [leaders_concat hsorted, if_pos htaken]
  have hlog : job.iconLog made (front ++ [name]) name = [takenEntry name] :=
    if_neg fun hleads => (leads_last_iff hsorted).mp hleads htaken
  exact {
    icons_eq := hleaders ▸ h.icons_eq
    written_eq := hleaders ▸ h.written_eq
    log_eq := by rw [log_concat hsorted, hlog, ← h.log_eq, Progress.logging]
    folders := h.folders
    get?_eq := hleaders ▸ h.get?_eq
    read_eq := hleaders ▸ h.read_eq }

/-- One icon that is rendered. -/
theorem step_rendered {code : String} {files : FileTree} (h : Rendered job made front p)
    (hsorted : (front ++ [name]).Pairwise (· < ·)) (hsvg : name.endsWith ".svg")
    (hfree : iconIdentifier name ∉ front.map iconIdentifier)
    (hsource : (job.source p.files (job.file name)).result = .ok code)
    (hwrite : p.files.write (job.target (iconIdentifier name)) code.toUTF8 = .ok files) :
    Rendered job made (front ++ [name])
      { files, log := p.log ++ (job.source p.files (job.file name)).log ++ [job.renderedEntry name],
        icons := putIcon p.icons (Path.stemOf name) (iconIdentifier name),
        written := p.written ++ [job.target (iconIdentifier name)] } := by
  have hfront : front.Pairwise (· < ·) := (List.pairwise_append.mp hsorted).1
  have hicons : iconIdentifier name ∉ p.icons.map Prod.snd := fun hmem =>
    hfree ((h.mem_identifiers_iff hfront).mp hmem)
  have hleaders : leaders (front ++ [name]) = leaders front ++ [name] := by
    rw [leaders_concat hsorted, if_neg hfree]
  have hlog : job.iconLog made (front ++ [name]) name =
      (job.source made (job.file name)).log ++ [job.renderedEntry name] :=
    if_pos ((leads_last_iff hsorted).mpr hfree)
  have hmade := h.source_eq hsvg hsource
  have hfolders := FileTree.sameFolders_of_write hwrite
  refine ⟨?_, ?_, ?_, h.folders.trans hfolders, ?_, ?_⟩
  · rw [hleaders, List.map_append, List.map_singleton, h.putIcon_eq hicons, h.icons_eq]
  · rw [hleaders, List.map_append, List.map_singleton, h.written_eq]
  · rw [log_concat hsorted, hlog, ← h.log_eq, hmade, List.append_assoc]
  · intro location hother
    rw [hleaders, List.forall_mem_append, List.forall_mem_singleton] at hother
    have htarget := fun heq => hother.2 (h.folders.locate_eq_ok_iff.mp heq)
    rw [FileTree.get?_of_write hwrite htarget, h.get?_eq location hother.1]
  · rw [hleaders, List.forall_mem_append, List.forall_mem_singleton]
    refine ⟨fun other hother => ?_, code, hmade ▸ hsource, FileTree.read_of_write hwrite⟩
    -- an earlier icon in the same place would have taken the identifier
    obtain ⟨code', hsource', hread'⟩ := h.read_eq other hother
    refine ⟨code', hsource', hfolders.read_eq_ok hread' fun location hlocation => ?_⟩
    refine FileTree.get?_of_write hwrite fun heq => hicons ?_
    rw [Job.eq_of_locate_target heq hlocation, h.identifiers_eq]
    exact List.mem_map_of_mem hother

/-- One icon. -/
theorem step (h : Rendered job made front p) (hsorted : (front ++ [name]).Pairwise (· < ·))
    (hsvg : name.endsWith ".svg") (hrun : renderIcon job p name = (p', none)) :
    Rendered job made (front ++ [name]) p' := by
  have hids : iconIdentifier name ∈ p.icons.map Prod.snd ↔
      iconIdentifier name ∈ front.map iconIdentifier :=
    h.mem_identifiers_iff (List.pairwise_append.mp hsorted).1
  have hstep := iconStep_renderIcon job p name
  rw [hrun] at hstep
  cases hstep with
  | taken htaken => exact h.step_taken hsorted (hids.mp htaken)
  | rendered hfree hsource hwrite =>
    exact h.step_rendered hsorted hsvg (fun hmem => hfree (hids.mpr hmem)) hsource hwrite

/-- All icons. -/
theorem renderIcons {names : List String} (h : Rendered job made front p)
    (hsorted : (front ++ names).Pairwise (· < ·)) (hsvg : ∀ name ∈ names, name.endsWith ".svg")
    (hrun : renderIcons job p names = (p', none)) : Rendered job made (front ++ names) p' := by
  induction names generalizing front p with
  | nil =>
    rw [SvgDrawing.renderIcons, Prod.mk.injEq] at hrun
    rw [List.append_nil, ← hrun.1]
    exact h
  | cons name rest ih =>
    rw [SvgDrawing.renderIcons] at hrun
    rw [List.append_cons] at hsorted ⊢
    rw [List.forall_mem_cons] at hsvg
    split at hrun
    · cases hrun
    · next p₁ hicon =>
      have hname := h.step (List.pairwise_append.mp hsorted).1 hsvg.1 hicon
      exact ih hname hsorted hsvg.2 hrun

end Rendered

end SvgDrawing
