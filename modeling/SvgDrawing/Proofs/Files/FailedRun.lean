import SvgDrawing.Proofs.Files.Folders
import SvgDrawing.Proofs.Files.FolderRun

/-!
# What a run leaves behind that fails at an icon

An icon is read, converted and rendered before its file is written.  A run that fails at it,
`FailsAt`, has therefore written the sources of the icons before it and nothing else, after it has
made the output folder: `renderFolder_leaves_finished`.
-/
namespace SvgDrawing

variable {job : Job} {files made : FileTree} {p p' q : Progress} {front : List String}
  {name : String} {e : Failure}

/-! ## Runs that fail at an icon -/

/-- A run makes the output folder, goes through the icons in front of one, comes to this one, and
does not get its source. -/
structure FailsAt (job : Job) (files : FileTree) (front : List String) (name : String)
    (made : FileTree) (q : Progress) (e : Failure) : Prop where
  folder_eq : files.makeFolder job.outputFolder = (made, none)
  names_eq : ∃ back, job.iconNames made = .ok (front ++ name :: back)
  front_eq : renderIcons job (.start made) front = (q, none)
  /-- The icon is not left out. -/
  free : iconIdentifier name ∉ q.icons.map Prod.snd
  source_eq : (job.source q.files (job.file name)).result = .error e

/-- Nothing is written for an icon without a source. -/
theorem renderIcon_of_source_error (hfree : iconIdentifier name ∉ q.icons.map Prod.snd)
    (hsource : (job.source q.files (job.file name)).result = .error e) :
    renderIcon job q name = (q.logging (job.source q.files (job.file name)).log, some e) := by
  have hstep := iconStep_renderIcon job q name
  generalize renderIcon job q name = result at hstep ⊢
  cases hstep with
  | taken htaken => exact absurd htaken hfree
  | noSource _ hnone =>
    cases hsource.symm.trans hnone
    rfl
  | notWritten _ hcode => cases hsource.symm.trans hcode
  | rendered _ hcode => cases hsource.symm.trans hcode

namespace FailsAt

/-- A run whose parts go so, each from the progress that the part before it has made. -/
theorem of_parts (job : Job) (files : FileTree) (front back : List String) (name : String)
    (e : Failure) (hmade : (files.makeFolder job.outputFolder).2 = none)
    (hnames : job.iconNames (files.makeFolder job.outputFolder).1 = .ok (front ++ name :: back))
    (hfront : (renderIcons job (.start (files.makeFolder job.outputFolder).1) front).2 = none)
    (hfree : iconIdentifier name ∉
      (renderIcons job (.start (files.makeFolder job.outputFolder).1) front).1.icons.map Prod.snd)
    (hsource : error? (job.source
      (renderIcons job (.start (files.makeFolder job.outputFolder).1) front).1.files
      (job.file name)).result = some e) :
    FailsAt job files front name (files.makeFolder job.outputFolder).1
      (renderIcons job (.start (files.makeFolder job.outputFolder).1) front).1 e where
  folder_eq := Prod.ext rfl hmade
  names_eq := ⟨back, hnames⟩
  front_eq := Prod.ext rfl hfront
  free := hfree
  source_eq := error?_eq_some_iff.mp hsource

/-- The run ends at the icon, with the files as they were before it. -/
theorem renderFolder_eq (h : FailsAt job files front name made q e) :
    renderFolder job files =
      (q.logging (job.source q.files (job.file name)).log, some e) := by
  obtain ⟨back, hnames⟩ := h.names_eq
  rw [renderFolder_of_made h.folder_eq, renderMade, hnames]
  simp only
  rw [renderIcons_append, h.front_eq, runThen, renderIcons_cons,
    renderIcon_of_source_error h.free h.source_eq]
  rfl

/-- The run has gone through the icons before. -/
theorem rendered (h : FailsAt job files front name made q e) : Rendered job made front q := by
  obtain ⟨back, hnames⟩ := h.names_eq
  obtain ⟨hsorted, hmem⟩ := Job.iconNames_eq_ok hnames
  exact (Rendered.start job made).renderIcons (List.pairwise_append.mp hsorted).1
    (fun other hother => ((hmem other).mp (List.mem_append_left _ hother)).1) h.front_eq

end FailsAt

/-- The icon at which the icons stop. -/
theorem exists_of_renderIcons_error {names : List String}
    (h : renderIcons job p names = (p', some e)) :
    ∃ front name back q, names = front ++ name :: back ∧
      renderIcons job p front = (q, none) ∧ renderIcon job q name = (p', some e) := by
  induction names generalizing p with
  | nil => cases h
  | cons first rest ih =>
    cases hfirst : renderIcon job p first with
    | mk q failure =>
      rw [renderIcons_cons, hfirst] at h
      cases failure with
      | some e' =>
        cases h
        exact ⟨[], first, rest, p, rfl, rfl, hfirst⟩
      | none =>
        obtain ⟨front, name, back, r, rfl, hfront, hname⟩ := ih h
        refine ⟨first :: front, name, back, r, rfl, ?_, hname⟩
        rw [renderIcons_cons, hfirst]
        exact hfront

/-- Without its name or its place there is no index. -/
theorem renderIndex_error (h : renderIndex job q = (p, some e)) :
    e = .absent .indexName ∨ ∃ cause, e = .storage cause := by
  rw [renderIndex] at h
  split at h
  · cases h
    exact .inl rfl
  · split at h
    · next cause _ =>
      cases h
      exact .inr ⟨cause, rfl⟩
    · cases h

/-- Every failure is one at an icon, except for those of the files and a missing name of the
index. -/
theorem exists_failsAt (h : renderFolder job files = (p, some e))
    (hstorage : ∀ cause, e ≠ .storage cause) (hindex : e ≠ .absent .indexName) :
    ∃ front name made q, FailsAt job files front name made q e := by
  obtain ⟨made, hmake⟩ : ∃ made, files.makeFolder job.outputFolder = (made, none) := by
    cases hmake : files.makeFolder job.outputFolder with
    | mk made failure =>
      cases failure with
      | none => exact ⟨made, rfl⟩
      | some cause =>
        cases (renderFolder_of_error hmake).symm.trans h
        exact absurd rfl (hstorage cause)
  rw [renderFolder_of_made hmake, renderMade] at h
  split at h
  · next cause _ =>
    cases h
    exact absurd rfl (hstorage cause)
  · next names hnames =>
    cases hicons : renderIcons job (.start made) names with
    | mk r failure =>
      rw [hicons] at h
      cases failure with
      | none =>
        rcases renderIndex_error h with hname | ⟨cause, hcause⟩
        · exact absurd hname hindex
        · exact absurd hcause (hstorage cause)
      | some e' =>
        cases h
        obtain ⟨front, name, back, q, rfl, hfront, hname⟩ := exists_of_renderIcons_error hicons
        have hstep := iconStep_renderIcon job q name
        rw [hname] at hstep
        cases hstep with
        | noSource hfree hsource =>
          exact ⟨front, name, made, q, hmake, ⟨back, hnames⟩, hfront, hfree, hsource⟩
        | notWritten => exact absurd rfl (hstorage _)

/-! ## The files then -/

/-- A run that fails at an icon changes files in two ways: it makes the output folder with its
missing parents, and it writes the sources of the icons before, which are complete.  Where the
source of another identifier would go, in particular that of this icon and the index, there is
what was there before, or one of the new folders if the way to the output folder leads through
this place. -/
theorem renderFolder_leaves_finished (h : FailsAt job files front name made q e) :
    ∃ p, renderFolder job files = (p, some e) ∧ p.files.workingFolder = files.workingFolder ∧
      (∀ location, files.KeptOrMade job.outputFolder p.files location ∨
        ∃ other ∈ leaders front,
          p.files.locate (job.target (iconIdentifier other)) = .ok location) ∧
      (∀ other ∈ leaders front, ∃ code, (job.source made (job.file other)).result = .ok code ∧
        p.files.read (job.target (iconIdentifier other)) = .ok code.toUTF8) ∧
      iconIdentifier name ∉ (leaders front).map iconIdentifier ∧
      ∀ identifier ∉ (leaders front).map iconIdentifier, ∀ location,
        p.files.locate (job.target identifier) = .ok location →
        files.KeptOrMade job.outputFolder p.files location := by
  have hmade := FileTree.madeFolders_makeFolder h.folder_eq
  have hq := h.rendered
  have hkept : ∀ location, (∀ other ∈ leaders front,
      q.files.locate (job.target (iconIdentifier other)) ≠ .ok location) →
      files.KeptOrMade job.outputFolder q.files location := fun location hother =>
    hmade.keptOrMade_of_sameFolders hq.folders (hq.get?_eq location fun other hleads hlocate =>
      hother other hleads (hq.folders.locate_eq_ok hlocate))
  refine ⟨_, h.renderFolder_eq, hq.folders.workingFolder_eq.trans hmade.workingFolder_eq, ?_,
    hq.read_eq, hq.identifiers_eq ▸ h.free, ?_⟩
  · intro location
    by_cases hwritten : ∃ other ∈ leaders front,
        q.files.locate (job.target (iconIdentifier other)) = .ok location
    · exact .inr hwritten
    · exact .inl (hkept location fun other hleads hlocate => hwritten ⟨other, hleads, hlocate⟩)
  · intro identifier hfree location hlocation
    refine hkept location fun other hleads hlocate => hfree ?_
    rw [← Job.eq_of_locate_target hlocate hlocation]
    exact List.mem_map_of_mem hleads

/-- A folder with icons of one drawing and one file that is no document. -/
def iconsWithBroken (names : List String) (broken : String) : FileTree :=
  (iconsNamed names).put ["icons", broken] (.file "<svg>".toUTF8)

/-- The icon before the broken one has its source, and there is none for the broken one, and no
index. -/
theorem source_before_broken_icon :
    ∃ (p : Progress) (code : String),
      renderFolder (jobFor "Set") (iconsWithBroken ["a.svg"] "b.svg") =
        (p, some (.markup .notWellFormed)) ∧
      p.files.read (.ofText "out/A.swift") = .ok code.toUTF8 ∧
      p.files.get? ["out", "B.swift"] = none ∧ p.files.get? ["out", "Set.swift"] = none := by
  have hlisted : ((iconsWithBroken ["a.svg"] "b.svg").makeFolder (.ofText "out")).1.namesIn
      (.ofText "icons") = .ok ["b.svg", "a.svg"] :=
    toOption_eq_some_iff.mp (by decide +kernel)
  have hnames : (jobFor "Set").iconNames
      ((iconsWithBroken ["a.svg"] "b.svg").makeFolder (.ofText "out")).1 =
      .ok ["a.svg", "b.svg"] :=
    Job.iconNames_of_perm hlisted (by decide +kernel) (by decide +kernel)
  have hfails := FailsAt.of_parts (jobFor "Set") (iconsWithBroken ["a.svg"] "b.svg") ["a.svg"] []
    "b.svg" (.markup .notWellFormed) (Option.isNone_iff_eq_none.mp (by decide +kernel)) hnames
    (Option.isNone_iff_eq_none.mp (by decide +kernel)) (by decide +kernel) (by decide +kernel)
  obtain ⟨p, hp, -, -, hsources, -⟩ := renderFolder_leaves_finished hfails
  obtain ⟨code, -, hread⟩ := hsources "a.svg" (by decide +kernel)
  have htarget : (jobFor "Set").target (iconIdentifier "a.svg") = .ofText "out/A.swift" := by
    decide +kernel
  obtain rfl := congrArg Prod.fst (hp.symm.trans hfails.renderFolder_eq)
  exact ⟨_, code, hp, htarget ▸ hread, by decide +kernel, by decide +kernel⟩

/-- A run into `out/A.swift/..`, which leads to the folder `out`. -/
def jobAround : Job := ⟨.ofText "icons", some "A", .ofText "out/A.swift/..", some 5, "raise"⟩

/-- A run that fails at its first icon has made a folder in the place of its source, which is the
place of the index as well. -/
theorem folder_in_place_of_source :
    ∃ made q p, FailsAt jobAround (iconsWithBroken [] "a.svg") [] "a.svg" made q
        (.markup .notWellFormed) ∧
      renderFolder jobAround (iconsWithBroken [] "a.svg") = (p, some (.markup .notWellFormed)) ∧
      jobAround.indexTarget "A" = jobAround.target (iconIdentifier "a.svg") ∧
      p.files.locate (jobAround.target (iconIdentifier "a.svg")) = .ok ["out", "A.swift"] ∧
      (iconsWithBroken [] "a.svg").get? ["out", "A.swift"] = none ∧
      p.files.get? ["out", "A.swift"] = some .folder := by
  have hlisted : ((iconsWithBroken [] "a.svg").makeFolder jobAround.outputFolder).1.namesIn
      (.ofText "icons") = .ok ["a.svg"] :=
    toOption_eq_some_iff.mp (by decide +kernel)
  have hnames : jobAround.iconNames
      ((iconsWithBroken [] "a.svg").makeFolder jobAround.outputFolder).1 = .ok ["a.svg"] :=
    Job.iconNames_of_perm hlisted (by decide +kernel) (by decide +kernel)
  have hfails := FailsAt.of_parts jobAround (iconsWithBroken [] "a.svg") [] [] "a.svg"
    (.markup .notWellFormed) (Option.isNone_iff_eq_none.mp (by decide +kernel)) hnames rfl
    (by decide +kernel) (by decide +kernel)
  refine ⟨_, _, _, hfails, hfails.renderFolder_eq, by decide +kernel, ?_, by decide +kernel,
    by decide +kernel⟩
  exact toOption_eq_some_iff.mp (by decide +kernel)

end SvgDrawing
