import SvgDrawing.CommandLine.Run
import SvgDrawing.Proofs.Files.ConversionFailure

/-!
# Exit codes

The exit code of a run tells how far it got.  Code 1 means that it has done nothing, code 2 that it
has come to an element that cannot be converted, and code 0 that it is complete.  Every other
failure has no code, in particular one that comes before such an element.

## Main definitions

* `Starts arguments files options level job` — arguments and files with which a job is started.

## Main statements

* `run_cases` — all ways that a run can go.
* `exit_runJob`, `files_runJob` — how a job that was started ends.
* `exit_cases` — where a code comes from.
* `run_exit_codes` — what the codes mean.
-/
namespace SvgDrawing.CommandLine

variable {arguments : List String} {files : FileTree} {options : Options} {level : Log.Level}
  {job : Job}

/-- The arguments are accepted and the folder of icons is there, so a job is started. -/
def Starts (arguments : List String) (files : FileTree) (options : Options) (level : Log.Level)
    (job : Job) : Prop :=
  ∃ iconFolder indexName outputFolder,
    parse arguments = .run [some iconFolder, indexName, some outputFolder] options ∧
    options.logLevel = some level ∧ files.isFolder (.ofText iconFolder) = .ok true ∧
    job = CommandLine.job (.ofText iconFolder) indexName (.ofText outputFolder) options

theorem Starts.run_eq (h : Starts arguments files options level job) :
    run arguments files = runJob level job files := by
  obtain ⟨iconFolder, indexName, outputFolder, hparse, hlevel, hfolder, rfl⟩ := h
  rw [run, hparse]
  unfold runWith
  simp only [hlevel, hfolder]

theorem Starts.policy_eq (h : Starts arguments files options level job) :
    job.policy = if options.skipErrors then "skip" else "raise" := by
  obtain ⟨iconFolder, indexName, outputFolder, -, -, -, rfl⟩ := h
  rfl

theorem Starts.options_eq {values : List (Option String)} {options' : Options}
    (h : Starts arguments files options level job)
    (hparse : parse arguments = .run values options') : options = options' := by
  obtain ⟨iconFolder, indexName, outputFolder, hparse', -⟩ := h
  cases hparse.symm.trans hparse'
  rfl

/-- The ways that a run can go: it explains itself, it refuses its arguments, it fails for want of
a value, or it starts a job. -/
theorem run_cases (arguments : List String) (files : FileTree) :
    (parse arguments = .help ∧ run arguments files = .idle files help "" (.ok 0)) ∨
    (∃ e, run arguments files = .rejected files e) ∨
    (∃ e, run arguments files = .failed files e) ∨
    ∃ options level job, Starts arguments files options level job := by
  rw [run]
  split
  · next hparse => exact .inl ⟨hparse, rfl⟩
  · next e _ => exact .inr (.inl ⟨e, rfl⟩)
  · next iconFolder indexName outputFolder options hparse =>
    unfold runWith
    split
    · exact .inr (.inr (.inl ⟨_, rfl⟩))
    · exact .inr (.inr (.inl ⟨_, rfl⟩))
    · next level iconFolder hlevel =>
      simp only
      split
      · exact .inr (.inr (.inl ⟨_, rfl⟩))
      · exact .inr (.inl ⟨_, rfl⟩)
      · exact .inr (.inr (.inl ⟨_, rfl⟩))
      · next outputFolder hfolder =>
        exact .inr (.inr (.inr ⟨options, level, _, iconFolder, indexName, outputFolder, hparse,
          hlevel, hfolder, rfl⟩))
  · exact .inr (.inl ⟨_, rfl⟩)

/-! ## Jobs -/

/-- The exit code of a job. -/
def exitOf : Option Failure → Except Failure Nat
  | none => .ok 0
  | some (.conversion _) => .ok 2
  | some e => .error e

theorem exit_runJob (level : Log.Level) (job : Job) (files : FileTree) :
    (runJob level job files).exit = exitOf (renderFolder job files).2 := by
  rw [runJob]
  rcases renderFolder job files with ⟨p, _ | failure⟩
  · rfl
  · cases failure <;> rfl

theorem files_runJob (level : Log.Level) (job : Job) (files : FileTree) :
    (runJob level job files).files = (renderFolder job files).1.files := by
  rw [runJob]
  rcases renderFolder job files with ⟨p, _ | failure⟩
  · rfl
  · cases failure <;> rfl

theorem exitOf_eq_zero_iff {failure : Option Failure} :
    exitOf failure = .ok 0 ↔ failure = none := by
  rcases failure with _ | failure
  · simp [exitOf]
  · cases failure <;> simp [exitOf]

theorem exitOf_eq_two_iff {failure : Option Failure} :
    exitOf failure = .ok 2 ↔ ∃ e, failure = some (.conversion e) := by
  rcases failure with _ | failure
  · simp [exitOf]
  · cases failure <;> simp [exitOf]

theorem exitOf_ne_one (failure : Option Failure) : exitOf failure ≠ .ok 1 := by
  rcases failure with _ | failure
  · simp [exitOf]
  · cases failure <;> simp [exitOf]

/-! ## Codes -/

/-- Where a code comes from. -/
theorem exit_cases {code : Nat} (h : (run arguments files).exit = .ok code) :
    (code = 0 ∧ parse arguments = .help) ∨
    (code = 1 ∧ ∃ e, run arguments files = .rejected files e) ∨
    ∃ options level job, Starts arguments files options level job ∧
      exitOf (renderFolder job files).2 = .ok code := by
  rcases run_cases arguments files with ⟨hparse, hrun⟩ | ⟨e, hrun⟩ | ⟨e, hrun⟩ |
    ⟨options, level, job, hstarts⟩
  · rw [hrun] at h
    cases h
    exact .inl ⟨rfl, hparse⟩
  · have hone := h
    rw [hrun] at hone
    cases hone
    exact .inr (.inl ⟨rfl, e, hrun⟩)
  · rw [hrun] at h
    cases h
  · rw [hstarts.run_eq, exit_runJob] at h
    exact .inr (.inr ⟨options, level, job, hstarts, h⟩)

/-- Code 1 comes from nowhere but the refusal of arguments. -/
theorem exists_rejected (h : (run arguments files).exit = .ok 1) :
    ∃ e, run arguments files = .rejected files e := by
  rcases exit_cases h with ⟨hcode, -⟩ | ⟨-, hrejected⟩ | ⟨_, _, _, -, hexit⟩
  · cases hcode
  · exact hrejected
  · exact absurd hexit (exitOf_ne_one _)

/-- A job ends with code 2 if it is to stop at elements and comes to one that it stops at. -/
theorem exitOf_renderFolder_eq_two_iff (h : Starts arguments files options level job) :
    exitOf (renderFolder job files).2 = .ok 2 ↔ options.skipErrors = false ∧
      ∃ name q, Reaches job files name q ∧ HoldsUnconvertible q.files (job.file name) := by
  have hpolicy := h.policy_eq
  rw [exitOf_eq_two_iff, renderFolder_conversion_iff]
  cases hskip : options.skipErrors with
  | true =>
    rw [hskip, if_pos rfl] at hpolicy
    refine iff_of_false ?_ nofun
    rintro ⟨name, q, -, e, hsource⟩
    exact Job.source_ne_conversion hpolicy hsource
  | false =>
    rw [hskip] at hpolicy
    simp only [Job.exists_source_eq_conversion_iff hpolicy, true_and]

/-- Code 2 comes from nowhere else. -/
theorem exit_eq_two_iff : (run arguments files).exit = .ok 2 ↔
    ∃ options level job, Starts arguments files options level job ∧ options.skipErrors = false ∧
      ∃ name q, Reaches job files name q ∧ HoldsUnconvertible q.files (job.file name) := by
  constructor
  · intro h
    rcases exit_cases h with ⟨hcode, -⟩ | ⟨hcode, -⟩ | ⟨options, level, job, hstarts, hexit⟩
    · cases hcode
    · cases hcode
    · exact ⟨options, level, job, hstarts, (exitOf_renderFolder_eq_two_iff hstarts).mp hexit⟩
  · rintro ⟨options, level, job, hstarts, h⟩
    rw [hstarts.run_eq, exit_runJob]
    exact (exitOf_renderFolder_eq_two_iff hstarts).mpr h

/-- Code 0 of a run that does not just explain itself comes from a job that has ended well. -/
theorem exists_starts_of_exit_eq_zero {values : List (Option String)}
    (hparse : parse arguments = .run values options) (h : (run arguments files).exit = .ok 0) :
    ∃ level job, Starts arguments files options level job ∧
      ∃ p, renderFolder job files = (p, none) ∧ (run arguments files).files = p.files := by
  rcases exit_cases h with ⟨-, hhelp⟩ | ⟨hcode, -⟩ | ⟨options', level, job, hstarts, hexit⟩
  · rw [hparse] at hhelp
    cases hhelp
  · cases hcode
  · cases hstarts.options_eq hparse
    exact ⟨level, job, hstarts, _, Prod.ext rfl (exitOf_eq_zero_iff.mp hexit), by
      rw [hstarts.run_eq, files_runJob]⟩

/-- All that a run over a folder should leave behind: the index, and the source of each icon that
is not left out for its identifier, unless the index has gone to the same place. -/
def Complete (job : Job) (files after : FileTree) : Prop :=
  ∃ made names indexName,
    files.makeFolder job.outputFolder = (made, none) ∧ job.indexName = some indexName ∧
    (∀ name, name ∈ names ↔ name.endsWith ".svg" ∧ made.Lists job.iconFolder name) ∧
    after.read (job.indexTarget indexName) = .ok (Swift.index indexName
      ((leaders names).map fun name => (Path.stemOf name, iconIdentifier name))).toUTF8 ∧
    ∀ name ∈ leaders names, ∃ code, (job.source made (job.file name)).result = .ok code ∧
      (after.read (job.target (iconIdentifier name)) = .ok code.toUTF8 ∨
        iconIdentifier name = Swift.identifier indexName)

theorem complete_of_renderFolder {p : Progress} (h : renderFolder job files = (p, none)) :
    Complete job files p.files := by
  obtain ⟨made, names, q, hmade, hnames, hq, hindex⟩ := exists_rendered h
  obtain ⟨indexName, after, hname, hwrite, rfl⟩ := renderIndex_eq_ok hindex
  refine ⟨made, names, indexName, hmade, hname, (Job.iconNames_eq_ok hnames).2, ?_, ?_⟩
  · rw [← hq.icons_eq]
    exact FileTree.read_of_write hwrite
  · intro name hleads
    obtain ⟨code, hsource, -⟩ := hq.read_eq name hleads
    refine ⟨code, hsource, ?_⟩
    by_cases hid : iconIdentifier name = Swift.identifier indexName
    · exact .inr hid
    · exact .inl ((hq.read_iff hwrite hleads hsource).mpr hid)

/-- What the exit codes mean.  Code 1 is a refusal of the arguments, or of the folder that they
name, and no file has changed.  Code 2 means that elements are not left out, and that the run comes
to an icon, without a failure before, which can be read and has an element that is drawn and cannot
be converted; so with the option to leave elements out there is no such code.  Code 0 of a run that
does not just explain itself means that the index has been written and that all icons have been
rendered but those whose identifier was taken. -/
theorem run_exit_codes (arguments : List String) (files : FileTree) :
    ((run arguments files).exit = .ok 1 →
      (run arguments files).files = files ∧ ∃ e, run arguments files = .rejected files e) ∧
    ((run arguments files).exit = .ok 2 ↔
      ∃ options level job, Starts arguments files options level job ∧ options.skipErrors = false ∧
        ∃ name q, Reaches job files name q ∧ HoldsUnconvertible q.files (job.file name)) ∧
    (∀ values options, parse arguments = .run values options → options.skipErrors = true →
      (run arguments files).exit ≠ .ok 2) ∧
    ∀ values options, parse arguments = .run values options → (run arguments files).exit = .ok 0 →
      ∃ level job, Starts arguments files options level job ∧
        Complete job files (run arguments files).files := by
  refine ⟨?_, exit_eq_two_iff, ?_, ?_⟩
  · intro h
    obtain ⟨e, hrun⟩ := exists_rejected h
    exact ⟨by rw [hrun]; rfl, e, hrun⟩
  · intro values options hparse hskip h
    obtain ⟨options', level, job, hstarts, hskip', -⟩ := exit_eq_two_iff.mp h
    rw [hstarts.options_eq hparse, hskip] at hskip'
    cases hskip'
  · intro values options hparse h
    obtain ⟨level, job, hstarts, p, hfolder, hfiles⟩ := exists_starts_of_exit_eq_zero hparse h
    refine ⟨level, job, hstarts, ?_⟩
    rw [hfiles]
    exact complete_of_renderFolder hfolder

/-- A folder with an icon whose rectangle has neither a height nor a width. -/
def iconWithoutSize : FileTree :=
  ((FileTree.empty []).put ["icons"] .folder).put ["icons", "a.svg"]
    (.file "<svg><rect x='1' y='2'/></svg>".toUTF8)

/-- The arguments for a run over that folder. -/
def iconArguments : List String := ["icons", "Set", "out"]

/-- The job of such a run. -/
def iconJob (options : Options) : Job :=
  CommandLine.job (.ofText "icons") (some "Set") (.ofText "out") options

theorem starts_iconJob (hparse : parse arguments = .run (iconArguments.map some) options)
    (hlevel : options.logLevel = some level) :
    Starts arguments iconWithoutSize options level (iconJob options) :=
  ⟨"icons", some "Set", "out", hparse, hlevel, toOption_eq_some_iff.mp (by decide +kernel), rfl⟩

theorem iconNames_iconJob (options : Options) :
    (iconJob options).iconNames (iconWithoutSize.makeFolder (iconJob options).outputFolder).1 =
      .ok ["a.svg"] := by
  have hlisted : (iconWithoutSize.makeFolder (.ofText "out")).1.namesIn (.ofText "icons") =
      .ok ["a.svg"] :=
    toOption_eq_some_iff.mp (by decide +kernel)
  exact Job.iconNames_of_perm hlisted (by decide +kernel) (by decide +kernel)

/-- The rectangle ends one run with code 2.  With the option to leave it out the run is complete.
Without arguments nothing happens. -/
theorem exit_codes_of_icon_without_size :
    (run [] iconWithoutSize).files = iconWithoutSize ∧
    (run iconArguments iconWithoutSize).exit = .ok 2 ∧
    (run (iconArguments ++ ["--skip-errors"]) iconWithoutSize).exit ≠ .ok 2 ∧
    ∃ level job, Starts (iconArguments ++ ["--skip-errors"]) iconWithoutSize
        { skipErrors := true } level job ∧
      Complete job iconWithoutSize
        (run (iconArguments ++ ["--skip-errors"]) iconWithoutSize).files := by
  have hskip : parse (iconArguments ++ ["--skip-errors"]) =
      .run (iconArguments.map some) { skipErrors := true } := rfl
  have hmade : (iconWithoutSize.makeFolder (.ofText "out")).2 = none :=
    Option.isNone_iff_eq_none.mp (by decide +kernel)
  refine ⟨((run_exit_codes [] iconWithoutSize).1 rfl).1, ?_,
    (run_exit_codes _ _).2.2.1 _ _ hskip rfl, (run_exit_codes _ _).2.2.2 _ _ hskip ?_⟩
  · have hreaches : Reaches (iconJob {}) iconWithoutSize "a.svg"
        (.start (iconWithoutSize.makeFolder (.ofText "out")).1) :=
      ⟨_, [], [], Prod.ext rfl hmade, iconNames_iconJob {}, rfl, List.not_mem_nil⟩
    have hholds : HoldsUnconvertible (iconWithoutSize.makeFolder (.ofText "out")).1
        ((iconJob {}).file "a.svg") := by
      refine (Job.exists_source_eq_conversion_iff (rfl : (iconJob {}).policy = "raise")).mp ?_
      exact ⟨.requiredAttribute "width" none, error?_eq_some_iff.mp (by decide +kernel)⟩
    exact (run_exit_codes _ _).2.1.mpr
      ⟨{}, .warning, _, starts_iconJob rfl rfl, rfl, "a.svg", _, hreaches, hholds⟩
  · obtain ⟨p, hp⟩ := exists_renderFolder_eq_ok (iconJob { skipErrors := true }) iconWithoutSize
      ["a.svg"] hmade (iconNames_iconJob _) (Option.isNone_iff_eq_none.mp (by decide +kernel))
      (Option.isNone_iff_eq_none.mp (by decide +kernel))
    rw [(starts_iconJob hskip rfl).run_eq, exit_runJob, exitOf_eq_zero_iff, hp]

end SvgDrawing.CommandLine
