import SvgDrawing.Failure
import SvgDrawing.Files.Path

/-!
# File trees

A run reads and writes files.  The files are a value: which names there are, what is a
folder, and what each file holds, so that a run is a function from the files before to
the files after.

Each place in the tree has one location, the names on the way from the root.  A path is
followed to a location step by step, which needs every step but the last to be a
folder.

A file has one location only: there are no links, hard or symbolic, through which what is
written at one location would be seen at another.  There are no permissions either: every
file can be read and written, and every folder listed.  Folders that a run is not allowed to
list, and would take for empty ones, are outside the model.

## Main definitions

* `FileTree` — what is at each location, with `get?`.
* `FileTree.locate` — the location of a path.
* `read`, `write`, `makeFolder`, `namesIn` — the operations on paths.
* `changed before after` — what a run has changed, and `changes`, the same with paths.
-/

namespace SvgDrawing

-- contents are compared as the core library compares bytes
attribute [local instance (high)] ByteArray.instDecidableEq

/-- The names on the way from the root. -/
abbrev Location := List String

/-- What is at a location. -/
inductive Entry where
  | file (content : ByteArray)
  | folder
  deriving DecidableEq

/-- The files: what is at each location, and the location that relative paths start from.
The root is a folder without being listed. -/
structure FileTree where
  entries : List (Location × Entry)
  workingFolder : Location
  /-- No location is listed twice. -/
  nodup_locations : (entries.map Prod.fst).Nodup := by simp

/-- What prevents following a path. -/
inductive Obstacle where
  | missing
  | notAFolder
  | tooLong
  | nulCharacter

/-- The error that an obstacle on a path is. -/
def Obstacle.error (path : Path) : Obstacle → StorageError
  | missing => .notFound path.text
  | notAFolder => .notADirectory path.text
  | tooLong => .nameTooLong path.text
  | nulCharacter => .nulCharacter

/-- The bytes that one name may have. -/
def maxNameBytes : Nat := 255

/-- The bytes that the text of a path may have. -/
def maxPathBytes : Nat := 4095

namespace FileTree

/-- What is at a location, if anything. -/
def get? (t : FileTree) (location : Location) : Option Entry :=
  if location.isEmpty then some .folder else t.entries.lookup location

/-- The tree with something new at a location. -/
def put (t : FileTree) (location : Location) (e : Entry) : FileTree where
  entries := (location, e) :: t.entries.filter (·.1 != location)
  workingFolder := t.workingFolder
  nodup_locations := by
    rw [List.map_cons, List.nodup_cons]
    refine ⟨by simp, ?_⟩
    exact t.nodup_locations.sublist (List.filter_sublist.map Prod.fst)

theorem lookup_filter_ne {here location : Location} (hne : location ≠ here) :
    ∀ entries : List (Location × Entry),
      (entries.filter (·.1 != here)).lookup location = entries.lookup location
  | [] => rfl
  | (l, x) :: rest => by
    by_cases hl : l = here
    · have hloc : (location == l) = false := beq_eq_false_iff_ne.2 (hl ▸ hne)
      simp [hl, List.lookup_cons, hl ▸ hloc, lookup_filter_ne hne rest]
    · simp [hl, List.lookup_cons, lookup_filter_ne hne rest]

/-- A change at a location is seen there and nowhere else; the root stays a folder. -/
theorem get?_put (t : FileTree) (here location : Location) (e : Entry) :
    (t.put here e).get? location =
      if location = [] then some .folder else if location = here then some e
      else t.get? location := by
  by_cases hroot : location = []
  · simp [get?, hroot]
  · by_cases hhere : location = here
    · simp [get?, put, hhere, hhere ▸ hroot]
    · simp [get?, put, hroot, hhere, List.lookup_cons, beq_eq_false_iff_ne.2 hhere,
        lookup_filter_ne hhere]

/-- The tree with something at a location, and folders on the way to it. -/
def place (t : FileTree) (location : Location) (e : Entry) : FileTree :=
  let around := (List.range location.length).map location.take
  let missing := around.filter fun l => (t.get? l).isNone
  (missing.foldl (fun t l => t.put l .folder) t).put location e

/-- The tree in which nothing is but the working folder. -/
def empty (workingFolder : Location) : FileTree :=
  place { entries := [], workingFolder } workingFolder .folder

/-! ## Following paths -/

/-- The location one step further: two dots lead back. -/
def step (here : Location) (name : String) : Location :=
  if name = ".." then here.dropLast else here ++ [name]

/-- The location at the end of names that start at `here`. -/
def follow (t : FileTree) (here : Location) : List String → Except Obstacle Location
  | [] => .ok here
  | name :: rest =>
    match t.get? here with
    | some .folder =>
      if maxNameBytes < name.utf8ByteSize then .error .tooLong else t.follow (step here name) rest
    | some (.file _) => .error .notAFolder
    | none => .error .missing

/-- The location that a path starts from. -/
def anchorLocation (t : FileTree) : Path.Anchor → Location
  | .workingFolder => t.workingFolder
  | .root | .doubleRoot => []

/-- The location of a path.  There need not be anything there. -/
def locate (t : FileTree) (path : Path) : Except Obstacle Location :=
  if path.names.any (·.toList.contains '\x00') then .error .nulCharacter
  else if maxPathBytes < path.text.utf8ByteSize then .error .tooLong
  else t.follow (t.anchorLocation path.anchor) path.names

/-- Whether there is a folder at a path.  Of all obstacles only a name that is too long is an
error. -/
def isFolder (t : FileTree) (path : Path) : Except StorageError Bool :=
  match t.locate path with
  | .ok location => .ok (t.get? location == some .folder)
  | .error .tooLong => .error (.nameTooLong path.text)
  | .error _ => .ok false

/-! ## Operations -/

/-- The content of a file. -/
def read (t : FileTree) (path : Path) : Except StorageError ByteArray :=
  match t.locate path with
  | .error o => .error (o.error path)
  | .ok location =>
    match t.get? location with
    | some (.file content) => .ok content
    | some .folder => .error (.isADirectory path.text)
    | none => .error (.notFound path.text)

/-- The tree with a new content of a file, which need not have been there. -/
def write (t : FileTree) (path : Path) (content : ByteArray) : Except StorageError FileTree :=
  match t.locate path with
  | .error o => .error (o.error path)
  | .ok location =>
    match t.get? location with
    | some .folder => .error (.isADirectory path.text)
    | _ => .ok (t.put location (.file content))

/-- The tree with a folder at a path that all but its last name lead to.  Only a folder may
be there already. -/
def makeLast (t : FileTree) (path : Path) : FileTree × Option StorageError :=
  match t.locate path with
  | .error o => (t, some (o.error path))
  | .ok location =>
    match t.get? location with
    | some .folder => (t, none)
    | some (.file _) => (t, some (.alreadyExists path.text))
    | none => (t.put location .folder, none)

/-- The tree with a folder at the path of some names, given in reverse.  What is missing on
the way is made first, and stays if something prevents the rest. -/
def makeAll (t : FileTree) (anchor : Path.Anchor) : List String → FileTree × Option StorageError
  | [] => (t, none)
  | name :: outer =>
    let path : Path := ⟨anchor, (name :: outer).reverse⟩
    match t.locate path with
    | .error .missing =>
      match t.makeAll anchor outer with
      | (t, some e) => (t, some e)
      | (t, none) => t.makeLast path
    | _ => t.makeLast path

/-- The tree with a folder at a path, and all that is missing on the way to it. -/
def makeFolder (t : FileTree) (path : Path) : FileTree × Option StorageError :=
  t.makeAll path.anchor path.names.reverse

/-- The names in the folder at a location, in no particular order. -/
def namesAt (t : FileTree) (location : Location) : List String :=
  t.entries.filterMap fun (l, _) => if l.dropLast = location then l.getLast? else none

/-- The names in a folder, none if there is no folder. -/
def namesIn (t : FileTree) (path : Path) : Except StorageError (List String) := do
  if ← t.isFolder path then
    match t.locate path with
    | .ok location => return t.namesAt location
    | .error _ => return []
  else return []

/-! ## Changes -/

/-- What is new or different after a run. -/
def changed (before after : FileTree) : List (Location × Entry) :=
  after.entries.filter fun (l, e) => before.get? l ≠ some e

/-- The path of a location in a folder, with a slash at the end if a folder is there. -/
def pathIn (folder : Location) : Location × Entry → String
  | (l, .file _) => Text.joined "/" (l.drop folder.length)
  | (l, .folder) => Text.joined "/" (l.drop folder.length) ++ "/"

/-- What is new or different in the working folder after a run, each with its path and
sorted by it. -/
def changes (before after : FileTree) : List (String × Entry) :=
  let inside := (changed before after).filter fun (l, _) => after.workingFolder.isPrefixOf l
  let named := inside.map fun (l, e) => (pathIn after.workingFolder (l, e), e)
  named.mergeSort fun a b => a.1 ≤ b.1

end FileTree

end SvgDrawing
