import SvgDrawing.Proofs.Files.IconFolder

/-!
# What a run over a folder leaves behind

A run that ends well has made the output folder, rendered one icon for each identifier, and written
the index last (`renderFolder_renders_leaders`).  The index goes to the place of an icon if it has
the identifier of this icon, and only then is the source of an icon lost (`renderFolder_keeps_iff`).
-/
namespace SvgDrawing

/-- What is logged at the end of a run. -/
def Job.finishedEntry (job : Job) (count : Nat) : Log.Entry :=
  ⟨.info, "Rendered " ++ toString count ++ " icons into " ++ job.outputFolder.text⟩

/-- Where the index goes. -/
def Job.indexTarget (job : Job) (indexName : String) : Path :=
  job.target (Swift.identifier indexName)

variable {job : Job} {files made : FileTree} {p q : Progress} {names : List String}
  {indexName : String}

/-! ## The parts of a run -/

/-- An index that is written. -/
theorem renderIndex_eq_ok (h : renderIndex job q = (p, none)) :
    ∃ indexName files, job.indexName = some indexName ∧
      q.files.write (job.indexTarget indexName) (Swift.index indexName q.icons).toUTF8 =
        .ok files ∧
      p = { files, log := q.log ++ [job.finishedEntry q.icons.length], icons := q.icons,
            written := q.written ++ [job.indexTarget indexName] } := by
  rw [renderIndex] at h
  split at h
  · cases h
  · next indexName hname =>
    split at h
    · cases h
    · next p' hwritten =>
      obtain ⟨files, hwrite, rfl⟩ := exists_of_map_eq_ok hwritten
      cases h
      exact ⟨indexName, files, hname, hwrite, rfl⟩

/-- A run ends well if all its parts do. -/
theorem renderFolder_eq_ok_iff : renderFolder job files = (p, none) ↔
    ∃ made names q, files.makeFolder job.outputFolder = (made, none) ∧
      job.iconNames made = .ok names ∧ renderIcons job (.start made) names = (q, none) ∧
      renderIndex job q = (p, none) := by
  constructor
  · intro h
    rw [renderFolder] at h
    split at h
    · cases h
    · next made hmade =>
      split at h
      · cases h
      · next names hnames =>
        split at h
        · cases h
        · next q hicons => exact ⟨made, names, q, hmade, hnames, hicons, h⟩
  · rintro ⟨made, names, q, hmade, hnames, hicons, hindex⟩
    simp only [renderFolder, hmade, hnames, hicons, hindex]

/-- The progress of a run before its index is written. -/
theorem exists_rendered (h : renderFolder job files = (p, none)) :
    ∃ made names q, files.makeFolder job.outputFolder = (made, none) ∧
      job.iconNames made = .ok names ∧ Rendered job made names q ∧
      renderIndex job q = (p, none) := by
  obtain ⟨made, names, q, hmade, hnames, hicons, hindex⟩ := renderFolder_eq_ok_iff.mp h
  obtain ⟨hsorted, hmem⟩ := Job.iconNames_eq_ok hnames
  have hsvg : ∀ name ∈ names, name.endsWith ".svg" := fun name hname => ((hmem name).mp hname).1
  exact ⟨made, names, q, hmade, hnames, (Rendered.start job made).renderIcons hsorted hsvg hicons,
    hindex⟩

/-- A run whose parts end well, each at the progress that the part before it has made. -/
theorem exists_renderFolder_eq_ok (job : Job) (files : FileTree) (names : List String)
    (hmade : (files.makeFolder job.outputFolder).2 = none)
    (hnames : job.iconNames (files.makeFolder job.outputFolder).1 = .ok names)
    (hicons : (renderIcons job (.start (files.makeFolder job.outputFolder).1) names).2 = none)
    (hindex : (renderIndex job
      (renderIcons job (.start (files.makeFolder job.outputFolder).1) names).1).2 = none) :
    ∃ p, renderFolder job files = (p, none) :=
  ⟨_, renderFolder_eq_ok_iff.mpr
    ⟨_, names, _, Prod.ext rfl hmade, hnames, Prod.ext rfl hicons, Prod.ext rfl hindex⟩⟩

/-! ## Files after the index was written -/

theorem Job.nodup_map_target_iff {identifiers : List String} :
    (identifiers.map job.target).Nodup ↔ identifiers.Nodup := by
  simp [List.Nodup, List.pairwise_map, target, Path.child]

namespace Rendered

/-- The index is written over the source of an icon if they have the same identifier, and an
index is not the source of an icon. -/
theorem read_iff {name code : String} (h : Rendered job made names q)
    (hwrite : q.files.write (job.indexTarget indexName) (Swift.index indexName q.icons).toUTF8 =
      .ok files) (hname : name ∈ leaders names)
    (hsource : (job.source made (job.file name)).result = .ok code) :
    files.read (job.target (iconIdentifier name)) = .ok code.toUTF8 ↔
      iconIdentifier name ≠ Swift.identifier indexName := by
  constructor
  · intro hread heq
    -- the file holds the index, which has no function on its third line
    rw [heq, ← Job.indexTarget, FileTree.read_of_write hwrite, Except.ok.injEq] at hread
    have hcode : Swift.index indexName q.icons = code := String.toByteArray_inj.mp hread
    exact Swift.not_declares_index indexName q.icons _ (hcode ▸ Job.declares_of_source hsource)
  · intro hne
    obtain ⟨code', hsource', hread⟩ := h.read_eq name hname
    cases hsource.symm.trans hsource'
    refine (FileTree.sameFolders_of_write hwrite).read_eq_ok hread fun location hlocation => ?_
    exact FileTree.get?_of_write hwrite fun heq => hne (Job.eq_of_locate_target hlocation heq)

/-- The index goes to a place of its own unless its identifier is that of an icon. -/
theorem nodup_written_iff (h : Rendered job made names q) (hsorted : names.Pairwise (· < ·))
    (indexName : String) : (q.written ++ [job.indexTarget indexName]).Nodup ↔
      Swift.identifier indexName ∉ q.icons.map Prod.snd := by
  have hids : (q.icons.map Prod.snd).Nodup := h.identifiers_eq ▸ nodup_leaders hsorted
  have hwritten : q.written ++ [job.indexTarget indexName] =
      (q.icons.map Prod.snd ++ [Swift.identifier indexName]).map job.target := by
    rw [h.written_eq, h.identifiers_eq, List.map_append, List.map_map, Function.comp_def,
      List.map_singleton, Job.indexTarget]
  rw [hwritten, Job.nodup_map_target_iff, (List.perm_append_singleton _ _).nodup_iff,
    List.nodup_cons, and_iff_left hids]

end Rendered

/-! ## Runs that end well -/

/-- A folder with icons of one drawing, and nothing else. -/
def iconsNamed (names : List String) : FileTree :=
  names.foldl (fun t name => t.put ["icons", name] (.file "<svg><path d='M0 0'/></svg>".toUTF8))
    ((FileTree.empty []).put ["icons"] .folder)

/-- A run over this folder. -/
def jobFor (indexName : String) : Job :=
  ⟨.ofText "icons", some indexName, .ofText "out", some 5, "raise"⟩

/-- The icons of a run are those `.svg` entries of the folder for whose identifier there is no
smaller name, in the order of names.  Their stems and their identifiers are distinct, the index
lists them and is written last, and all other entries are logged.  The source for an icon has
the function that the index lists, and its file holds this source unless the index has gone to
the same place. -/
theorem renderFolder_renders_leaders (h : renderFolder job files = (p, none)) :
    ∃ made names indexName,
      files.makeFolder job.outputFolder = (made, none) ∧ job.indexName = some indexName ∧
      names.Pairwise (· < ·) ∧
      (∀ name, name ∈ names ↔ name.endsWith ".svg" ∧ made.Lists job.iconFolder name) ∧
      p.icons = (leaders names).map (fun name => (Path.stemOf name, iconIdentifier name)) ∧
      (p.icons.map Prod.fst).Nodup ∧ (p.icons.map Prod.snd).Nodup ∧
      p.written = (leaders names).map (fun name => job.target (iconIdentifier name)) ++
        [job.indexTarget indexName] ∧
      p.files.read (job.indexTarget indexName) = .ok (Swift.index indexName p.icons).toUTF8 ∧
      p.log = names.flatMap (job.iconLog made names) ++
        [job.finishedEntry (leaders names).length] ∧
      ∀ name ∈ leaders names, ∃ code, (job.source made (job.file name)).result = .ok code ∧
        Swift.Declares code ("draw" ++ iconIdentifier name) ∧
        (iconIdentifier name ≠ Swift.identifier indexName →
          p.files.read (job.target (iconIdentifier name)) = .ok code.toUTF8) := by
  obtain ⟨made, names, q, hmade, hnames, hq, hindex⟩ := exists_rendered h
  obtain ⟨indexName, files, hname, hwrite, rfl⟩ := renderIndex_eq_ok hindex
  obtain ⟨hsorted, hmem⟩ := Job.iconNames_eq_ok hnames
  have hstems : q.icons.map Prod.fst = (leaders names).map Path.stemOf := by
    rw [hq.icons_eq, List.map_map, Function.comp_def]
  refine ⟨made, names, indexName, hmade, hname, hsorted, hmem, hq.icons_eq, ?_, ?_, ?_,
    FileTree.read_of_write hwrite, ?_, ?_⟩
  · exact hstems ▸ nodup_stems hsorted
  · exact hq.identifiers_eq ▸ nodup_leaders hsorted
  · rw [hq.written_eq]
  · rw [hq.log_eq, hq.icons_eq, List.length_map]
  · intro name hleads
    obtain ⟨code, hsource, -⟩ := hq.read_eq name hleads
    have hdeclares := Job.declares_of_source hsource
    rw [Job.stem_file] at hdeclares
    exact ⟨code, hsource, hdeclares, (hq.read_iff hwrite hleads hsource).mpr⟩

/-- Of two icons with one identifier the second by name is skipped, although it is listed first. -/
theorem skips_second_icon_of_identifier :
    ∃ p, renderFolder (jobFor "Set") (iconsNamed ["a-b.svg", "a_b.svg"]) = (p, none) ∧
      takenEntry "a_b.svg" ∈ p.log ∧ p.written.getLast? = some (.ofText "out/Set.swift") := by
  have hlisted : ((iconsNamed ["a-b.svg", "a_b.svg"]).makeFolder (.ofText "out")).1.namesIn
      (.ofText "icons") = .ok ["a_b.svg", "a-b.svg"] :=
    toOption_eq_some_iff.mp (by decide +kernel)
  obtain ⟨p, hp⟩ := exists_renderFolder_eq_ok (jobFor "Set") (iconsNamed ["a-b.svg", "a_b.svg"])
    ["a-b.svg", "a_b.svg"] (Option.isNone_iff_eq_none.mp (by decide +kernel))
    (Job.iconNames_of_perm hlisted (by decide +kernel) (by decide +kernel))
    (Option.isNone_iff_eq_none.mp (by decide +kernel))
    (Option.isNone_iff_eq_none.mp (by decide +kernel))
  obtain ⟨made, names, indexName, hmade, hname, -, hmem, -, -, -, hwritten, -, hlog, -⟩ :=
    renderFolder_renders_leaders hp
  have hlists := (FileTree.namesIn_eq_ok hlisted).2
  obtain rfl : ((iconsNamed ["a-b.svg", "a_b.svg"]).makeFolder (.ofText "out")).1 = made :=
    congrArg Prod.fst hmade
  have hfirst : "a-b.svg" ∈ names := (hmem _).mpr ⟨by decide +kernel, (hlists _).mp (by decide)⟩
  have hsecond : "a_b.svg" ∈ names := (hmem _).mpr ⟨by decide +kernel, (hlists _).mp (by decide)⟩
  have htaken : ¬ Leads names "a_b.svg" := fun h =>
    h _ hfirst (by decide +kernel) (by decide +kernel)
  refine ⟨p, hp, ?_, ?_⟩
  · rw [hlog]
    refine List.mem_append_left _ (List.mem_flatMap.mpr ⟨_, hsecond, ?_⟩)
    rw [Job.iconLog, if_neg htaken]
    exact List.mem_singleton_self _
  · cases hname
    rw [hwritten, List.getLast?_concat]
    decide +kernel

/-- No file is written twice, and the source of an icon is there in the end, unless the index has
the identifier of an icon: then this icon has lost its source. -/
theorem renderFolder_keeps_iff (h : renderFolder job files = (p, none)) :
    ∃ made names indexName,
      files.makeFolder job.outputFolder = (made, none) ∧ job.iconNames made = .ok names ∧
      job.indexName = some indexName ∧
      p.icons = (leaders names).map (fun name => (Path.stemOf name, iconIdentifier name)) ∧
      p.files.read (job.indexTarget indexName) = .ok (Swift.index indexName p.icons).toUTF8 ∧
      (p.written.Nodup ↔ Swift.identifier indexName ∉ p.icons.map Prod.snd) ∧
      ∀ name ∈ leaders names, ∃ code, (job.source made (job.file name)).result = .ok code ∧
        (p.files.read (job.target (iconIdentifier name)) = .ok code.toUTF8 ↔
          iconIdentifier name ≠ Swift.identifier indexName) := by
  obtain ⟨made, names, q, hmade, hnames, hq, hindex⟩ := exists_rendered h
  obtain ⟨indexName, files, hname, hwrite, rfl⟩ := renderIndex_eq_ok hindex
  have hsorted := (Job.iconNames_eq_ok hnames).1
  refine ⟨made, names, indexName, hmade, hnames, hname, hq.icons_eq,
    FileTree.read_of_write hwrite, hq.nodup_written_iff hsorted indexName, ?_⟩
  intro name hleads
  obtain ⟨code, hsource, -⟩ := hq.read_eq name hleads
  exact ⟨code, hsource, hq.read_iff hwrite hleads hsource⟩

/-- The source of an icon is lost when the index has the same name. -/
theorem index_replaces_icon_of_its_name :
    ∃ p made code, renderFolder (jobFor "A") (iconsNamed ["a.svg"]) = (p, none) ∧
      (iconsNamed ["a.svg"]).makeFolder (.ofText "out") = (made, none) ∧ ¬ p.written.Nodup ∧
      ((jobFor "A").source made (.ofText "icons/a.svg")).result = .ok code ∧
      p.files.read (.ofText "out/A.swift") ≠ .ok code.toUTF8 := by
  have hlisted : ((iconsNamed ["a.svg"]).makeFolder (.ofText "out")).1.namesIn (.ofText "icons") =
      .ok ["a.svg"] :=
    toOption_eq_some_iff.mp (by decide +kernel)
  have hnames : (jobFor "A").iconNames ((iconsNamed ["a.svg"]).makeFolder (.ofText "out")).1 =
      .ok ["a.svg"] :=
    Job.iconNames_of_perm hlisted (by decide +kernel) (by decide +kernel)
  obtain ⟨p, hp⟩ := exists_renderFolder_eq_ok (jobFor "A") (iconsNamed ["a.svg"]) ["a.svg"]
    (Option.isNone_iff_eq_none.mp (by decide +kernel)) hnames
    (Option.isNone_iff_eq_none.mp (by decide +kernel))
    (Option.isNone_iff_eq_none.mp (by decide +kernel))
  obtain ⟨made, names, indexName, hmade, hnames', hname, hicons, -, hwritten, hsources⟩ :=
    renderFolder_keeps_iff hp
  cases hname
  obtain rfl : ((iconsNamed ["a.svg"]).makeFolder (.ofText "out")).1 = made :=
    congrArg Prod.fst hmade
  cases hnames.symm.trans hnames'
  obtain ⟨code, hsource, hread⟩ := hsources "a.svg" (by decide +kernel)
  have hfile : (jobFor "A").file "a.svg" = .ofText "icons/a.svg" := by decide +kernel
  have htarget : (jobFor "A").target (iconIdentifier "a.svg") = .ofText "out/A.swift" := by
    decide +kernel
  rw [hfile] at hsource
  rw [htarget] at hread
  refine ⟨p, _, code, hp, hmade, ?_, hsource, ?_⟩
  · rw [hwritten, hicons]
    decide +kernel
  · rw [Ne, hread]
    decide +kernel

end SvgDrawing
