import SvgDrawing.CommandLine.Arguments
import SvgDrawing.Files.IconFolder

/-!
# A run of the program

The program renders a folder of icons.  Wrong arguments end it with code 1 before
anything is written, an element that cannot be converted with code 2; every other
failure ends it without a code of its own.

A `run` is a function of the arguments and the files.  Its `Ending` has the files as
they are afterwards and everything that was said.
-/

namespace SvgDrawing.CommandLine

/-- How a run ends: the files, the log at the chosen level, the texts for the two output
streams, and the exit code or the failure that prevents one. -/
structure Ending where
  files : FileTree
  log : List Log.Entry
  output : String
  errors : String
  exit : Except Failure Nat

namespace Ending

/-- The end of a run that has done nothing. -/
def idle (files : FileTree) (output errors : String) (exit : Except Failure Nat) : Ending :=
  ⟨files, [], output, errors, exit⟩

/-- The end of a run with wrong arguments. -/
def rejected (files : FileTree) (e : UsageError) : Ending := idle files "" e.report (.ok 1)

/-- The end of a run that fails before it does anything. -/
def failed (files : FileTree) (e : Failure) : Ending := idle files "" "" (.error e)

end Ending

/-- The job that the arguments describe. -/
def job (iconFolder : Path) (indexName : Option String) (outputFolder : Path)
    (options : Options) : Job where
  iconFolder := iconFolder
  indexName := indexName
  outputFolder := outputFolder
  precision := options.precision
  policy := if options.skipErrors then "skip" else "raise"

/-- Renders a folder and reports an element that cannot be converted. -/
def runJob (level : Log.Level) (job : Job) (files : FileTree) : Ending :=
  let (p, failure) := renderFolder job files
  let ending (log : List Log.Entry) (exit : Except Failure Nat) : Ending :=
    ⟨p.files, Log.atLeast level log, "", "", exit⟩
  match failure with
  | none => ending p.log (.ok 0)
  | some (.conversion e) =>
    ending (p.log ++ [⟨.error, "Conversion failed: " ++ e.message⟩]) (.ok 2)
  | some e => ending p.log (.error e)

/-- A run with the three values and the options.  The log level is needed first and then the
values one after the other, and the first that is absent ends the run. -/
def runWith (iconFolder indexName outputFolder : Option String) (options : Options)
    (files : FileTree) : Ending :=
  match options.logLevel, iconFolder with
  | none, _ => .failed files (.absent .logLevel)
  | some _, none => .failed files (.absent .iconFolder)
  | some level, some iconFolder =>
    let iconFolder := Path.ofText iconFolder
    match files.isFolder iconFolder, outputFolder with
    | .error e, _ => .failed files (.storage e)
    | .ok false, _ => .rejected files (.notAFolder iconFolder.text)
    | .ok true, none => .failed files (.absent .outputFolder)
    | .ok true, some outputFolder =>
      runJob level (job iconFolder indexName (.ofText outputFolder) options) files

/-- A run of the program with its arguments on some files. -/
def run (arguments : List String) (files : FileTree) : Ending :=
  match parse arguments with
  | .help => .idle files help "" (.ok 0)
  | .error e => .rejected files e
  | .run [iconFolder, indexName, outputFolder] options =>
    runWith iconFolder indexName outputFolder options files
  | .run _ _ => .rejected files (.required positionalNames)

end SvgDrawing.CommandLine
