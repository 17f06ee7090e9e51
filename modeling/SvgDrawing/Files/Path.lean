import SvgDrawing.Text.Pieces

/-!
# Paths

A path is a list of names, from the root or from the working folder.  `Path.text` writes
it out again, without what says nothing: single dots, and slashes that do not separate.
Exactly two slashes in front are kept, although they lead to the root as one does.
-/

namespace SvgDrawing

/-- Where a path starts: in the working folder, or at the root under either of its two
names. -/
inductive Path.Anchor where
  | workingFolder
  | root
  | doubleRoot
  deriving DecidableEq

/-- The anchor as it is written. -/
def Path.Anchor.text : Path.Anchor → String
  | workingFolder => ""
  | root => "/"
  | doubleRoot => "//"

/-- A path from the root or from the working folder. -/
structure Path where
  anchor : Path.Anchor
  names : List String
  deriving DecidableEq

namespace Path

/-- Where the path with a text starts. -/
def anchorOf : List Char → Anchor
  | '/' :: '/' :: '/' :: _ => .root
  | '/' :: '/' :: _ => .doubleRoot
  | '/' :: _ => .root
  | _ => .workingFolder

/-- The path that a text stands for.  The empty text is the working folder. -/
def ofText (s : String) : Path where
  anchor := anchorOf s.toList
  names := (((Text.splitOn '/' s.toList).map String.ofList).filter fun name =>
    name != "" && name != ".")

/-- The path as a text. -/
def text (p : Path) : String :=
  if p.anchor = .workingFolder ∧ p.names.isEmpty then "."
  else p.anchor.text ++ Text.joined "/" p.names

/-- A path inside a folder. -/
def child (p : Path) (name : String) : Path := { p with names := p.names ++ [name] }

/-- The path of the folder that a path is in. -/
def parent (p : Path) : Path := { p with names := p.names.dropLast }

/-- The last name of a path, empty if there is none. -/
def name (p : Path) : String := p.names.getLast?.getD ""

/-- A file name without its suffix: the last dot and what follows, unless the dot is the
first character or the last. -/
def stemOf (name : String) : String :=
  let s := name.toList
  let suffix := s.reverse.takeWhile (· != '.')
  let stem := (s.take (s.length - suffix.length)).dropLast
  if suffix.isEmpty || stem.isEmpty then name else String.ofList stem

/-- The last name of a path without its suffix. -/
def stem (p : Path) : String := stemOf p.name

end Path

end SvgDrawing
