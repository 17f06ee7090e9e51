import SvgDrawing.CommandLine.Run

/-!
# The program

Looks at the files that the arguments name, carries out the run on them as values, and
writes back what the run has changed.
-/

namespace SvgDrawing.CommandLine

/-- The place of a location on disk. -/
def onDisk (location : Location) : String := "/" ++ Text.joined "/" location

/-- What is on disk at a location, if anything. -/
def entryOnDisk? (location : Location) : IO (Option Entry) := do
  let place := (← IO.currentDir) / onDisk location
  if ← place.isDir then return some .folder
  if ← place.pathExists then return some (.file (← IO.FS.readBinFile place))
  return none

/-- The tree with what is on disk at a location. -/
def loadEntry (files : FileTree) (location : Location) : IO FileTree := do
  match ← entryOnDisk? location with
  | some entry => return files.place location entry
  | none => return files

/-- The tree with what is on disk on the way to a path, and in it if it is a folder. -/
def load (files : FileTree) (path : Path) : IO FileTree := do
  let mut files := files
  let mut location := files.anchorLocation path.anchor
  for name in path.names do
    location := FileTree.step location name
    files ← loadEntry files location
  let place := (← IO.currentDir) / onDisk location
  if ← place.isDir then
    for entry in ← place.readDir do
      files ← loadEntry files (location ++ [entry.fileName])
  return files

/-- Writes something to disk. -/
def store : Location × Entry → IO Unit
  | (location, .file content) => IO.FS.writeBinFile (onDisk location) content
  | (location, .folder) => IO.FS.createDirAll (onDisk location)

end SvgDrawing.CommandLine

open SvgDrawing CommandLine in
/-- Carries out a run on the files on disk.  Warnings and graver entries of the log go to the
error output. -/
def main (arguments : List String) : IO UInt32 := do
  let workingFolder := (Path.ofText (← IO.currentDir).toString).names
  let mut files := FileTree.empty workingFolder
  if let .run values _ := parse arguments then
    for value in values do
      files ← load files (.ofText (value.getD ""))
  let ending := run arguments files
  let changed := FileTree.changed files ending.files
  for change in changed.mergeSort fun a b => a.1.length ≤ b.1.length do
    store change
  IO.print ending.output
  IO.eprint ending.errors
  for entry in Log.atLeast .warning ending.log do
    IO.eprintln entry.message
  match ending.exit with
  | .ok code => return code.toUInt32
  | .error failure =>
    IO.eprintln failure.message
    return 1
