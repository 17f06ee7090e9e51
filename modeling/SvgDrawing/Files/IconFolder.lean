import SvgDrawing.Files.Tree
import SvgDrawing.Swift.Source
import SvgDrawing.Text.Utf8

/-!
# Folders of icons

Every icon in a folder is rendered into a source file of its own, and an index lists
them.  Icons come in the order of their names, and one whose identifier is taken is left
out.  A run that fails keeps what it wrote before.

A `Job` says what to render, where to, and how; `renderFolder` carries it out step by
step, each on the `Progress` that the one before has made.
-/

namespace SvgDrawing

/-- What to render, where to, and how.  The name of the index and the precision may be
absent, which is found out only by a run that comes to need them. -/
structure Job where
  iconFolder : Path
  indexName : Option String
  outputFolder : Path
  precision : Option Int
  policy : String

/-- How far a run has got: the files as they are now, the log, the icons rendered with their
identifiers, and the files written, all in order. -/
structure Progress where
  files : FileTree
  log : List Log.Entry
  icons : List (String × String)
  written : List Path

namespace Job

/-- The file that the source with an identifier goes to. -/
def target (job : Job) (identifier : String) : Path :=
  job.outputFolder.child (identifier ++ ".swift")

/-- The file names in a folder that are icons, in the order of code points. -/
def iconNames (job : Job) (files : FileTree) : Except StorageError (List String) :=
  (files.namesIn job.iconFolder).map fun names =>
    (names.filter (·.endsWith ".svg")).mergeSort fun a b => a ≤ b

/-- The source for an icon file. -/
def source (job : Job) (files : FileTree) (file : Path) : Logged Failure String :=
  match files.read file with
  | .error e => ⟨[], .error (.storage e)⟩
  | .ok bytes =>
    match Text.decodeLines bytes with
    | .error e => ⟨[], .error (.decoding e)⟩
    | .ok text =>
      match job.precision with
      | some precision => renderDocument text file.stem precision job.policy
      | none => renderUnrounded text file.stem job.policy

end Job

/-- The icons with one more; a name that is there already keeps its place. -/
def putIcon (icons : List (String × String)) (name identifier : String) : List (String × String) :=
  if icons.any (·.1 = name) then
    icons.map fun icon => if icon.1 = name then (name, identifier) else icon
  else icons ++ [(name, identifier)]

namespace Progress

/-- A run that has done nothing. -/
def start (files : FileTree) : Progress := ⟨files, [], [], []⟩

/-- The progress with more log. -/
def logging (p : Progress) (log : List Log.Entry) : Progress := { p with log := p.log ++ log }

/-- The progress with one more file written. -/
def write (p : Progress) (target : Path) (text : String) : Except StorageError Progress :=
  (p.files.write target text.toUTF8).map fun files =>
    { p with files, written := p.written ++ [target] }

end Progress

/-- One icon: the progress after it, and what prevented it. -/
def renderIcon (job : Job) (p : Progress) (name : String) : Progress × Option Failure :=
  let file := job.iconFolder.child name
  let identifier := Swift.identifier file.stem
  if p.icons.any (·.2 = identifier) then
    (p.logging [⟨.warning, "Skipping " ++ name ++ ": draw" ++ identifier ++ " already exists"⟩],
      none)
  else
    let source := job.source p.files file
    let p := p.logging source.log
    match source.result with
    | .error e => (p, some e)
    | .ok text =>
      let target := job.target identifier
      match p.write target text with
      | .error e => (p, some (.storage e))
      | .ok p =>
        ({ p.logging [⟨.debug, "Rendered " ++ name ++ " into " ++ target.text⟩] with
            icons := putIcon p.icons file.stem identifier }, none)

/-- Icons in order, up to the first failure. -/
def renderIcons (job : Job) (p : Progress) : List String → Progress × Option Failure
  | [] => (p, none)
  | name :: rest =>
    match renderIcon job p name with
    | (p, some e) => (p, some e)
    | (p, none) => renderIcons job p rest

/-- The index of the icons rendered so far. -/
def renderIndex (job : Job) (p : Progress) : Progress × Option Failure :=
  match job.indexName with
  | none => (p, some (.absent .indexName))
  | some indexName =>
    match p.write (job.target (Swift.identifier indexName)) (Swift.index indexName p.icons) with
    | .error e => (p, some (.storage e))
    | .ok p =>
      (p.logging [⟨.info, "Rendered " ++ toString p.icons.length ++ " icons into " ++
        job.outputFolder.text⟩], none)

/-- Renders all icons of a folder and then their index.  The output folder is made first. -/
def renderFolder (job : Job) (files : FileTree) : Progress × Option Failure :=
  match files.makeFolder job.outputFolder with
  | (files, some e) => (Progress.start files, some (.storage e))
  | (files, none) =>
    match job.iconNames files with
    | .error e => (Progress.start files, some (.storage e))
    | .ok names =>
      match renderIcons job (Progress.start files) names with
      | (p, some e) => (p, some e)
      | (p, none) => renderIndex job p

end SvgDrawing
