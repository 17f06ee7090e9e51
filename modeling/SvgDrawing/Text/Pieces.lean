/-!
# Pieces of texts

The small formats inside attributes are lists: points between blanks (`runs`),
declarations between semicolons (`splitOn`), a name and a value around a colon (`cutAt`).
Each cut is a recursion over the characters that keeps the piece being read in front of
the pieces after it.  The other way round, `lines` puts texts together, one on each line.

Separators in path data, the ends of attribute values and the gaps between the points
of a polygon are all made of blank characters, and `strip` takes them away at the ends
of a text.  The set is Unicode's white space together with the four information
separators of ASCII, and it is fixed: the zero-width space and the byte order mark are
not in it.

Numbers may be written with the decimal digits of any script, also mixed.  Unicode
keeps the ten digits of a script together and in order, so a table of the zeros
determines both the class and the values.  An integer that a person enters is read by
`integer?`: it may have white space around it, a sign and single underscores between
its digits.
-/

namespace SvgDrawing.Text

/-! ## Cutting and joining -/

/-- A piece in front of others, unless it is empty. -/
def consPiece (piece : List Char) (pieces : List (List Char)) : List (List Char) :=
  if piece.isEmpty then pieces else piece :: pieces

/-- The run that a text starts with, possibly empty, and the runs after it. -/
def firstRun (p : Char → Bool) : List Char → List Char × List (List Char)
  | [] => ([], [])
  | c :: rest =>
    let (run, later) := firstRun p rest
    if p c then (c :: run, later) else ([], consPiece run later)

/-- The maximal runs of characters in the class `p`, in order. -/
def runs (p : Char → Bool) (s : List Char) : List (List Char) :=
  let (run, later) := firstRun p s
  consPiece run later

/-- The piece before the first separator, and the pieces after it. -/
def firstPiece (sep : Char) : List Char → List Char × List (List Char)
  | [] => ([], [])
  | c :: rest =>
    let (piece, later) := firstPiece sep rest
    if c = sep then ([], piece :: later) else (c :: piece, later)

/-- The pieces between separators: one more than there are separators. -/
def splitOn (sep : Char) (s : List Char) : List (List Char) :=
  let (piece, later) := firstPiece sep s
  piece :: later

/-- The text before the first separator and the text after it, or all of it and nothing
if there is no separator. -/
def cutAt (sep : Char) (s : List Char) : List Char × List Char :=
  (s.takeWhile (· != sep), (s.dropWhile (· != sep)).drop 1)

/-- Line ends as single line feeds. -/
def normalizeLineEnds : List Char → List Char
  | '\r' :: '\n' :: rest => '\n' :: normalizeLineEnds rest
  | '\r' :: rest => '\n' :: normalizeLineEnds rest
  | c :: rest => c :: normalizeLineEnds rest
  | [] => []

/-- Strings joined with a separator between them. -/
def joined (sep : String) : List String → String
  | [] => ""
  | [s] => s
  | s :: rest => s ++ sep ++ joined sep rest

/-- Lines separated by line feeds, none after the last. -/
def lines (parts : List String) : String := joined "\n" parts

/-! ## Blanks -/

/-- White space, and the separators from U+001C to U+001F. -/
def isBlank (c : Char) : Bool :=
  let n := c.toNat
  (0x09 ≤ n && n ≤ 0x0D) || (0x1C ≤ n && n ≤ 0x20) || n == 0x85 || n == 0xA0 || n == 0x1680 ||
    (0x2000 ≤ n && n ≤ 0x200A) || n == 0x2028 || n == 0x2029 || n == 0x202F || n == 0x205F ||
    n == 0x3000

/-- The text without the characters of a class at its two ends. -/
def trim (p : Char → Bool) (s : List Char) : List Char :=
  ((s.dropWhile p).reverse.dropWhile p).reverse

/-- The text without the blanks at its two ends. -/
def strip (s : List Char) : List Char := trim isBlank s

/-- `strip` on strings. -/
def stripped (s : String) : String := String.ofList (strip s.toList)

/-! ## Digits -/

/-- The zeros of all scripts (general category `Nd` of Unicode 14). -/
def zeros : List Nat := [
  0x30, 0x660, 0x6F0, 0x7C0, 0x966, 0x9E6, 0xA66, 0xAE6, 0xB66, 0xBE6, 0xC66, 0xCE6, 0xD66,
  0xDE6, 0xE50, 0xED0, 0xF20, 0x1040, 0x1090, 0x17E0, 0x1810, 0x1946, 0x19D0, 0x1A80,
  0x1A90, 0x1B50, 0x1BB0, 0x1C40, 0x1C50, 0xA620, 0xA8D0, 0xA900, 0xA9D0, 0xA9F0, 0xAA50,
  0xABF0, 0xFF10, 0x104A0, 0x10D30, 0x11066, 0x110F0, 0x11136, 0x111D0, 0x112F0, 0x11450,
  0x114D0, 0x11650, 0x116C0, 0x11730, 0x118E0, 0x11950, 0x11C50, 0x11D50, 0x11DA0, 0x16A60,
  0x16AC0, 0x16B50, 0x1D7CE, 0x1D7D8, 0x1D7E2, 0x1D7EC, 0x1D7F6, 0x1E140, 0x1E2F0, 0x1E950,
  0x1FBF0]

/-- The value of a decimal digit. -/
def digitValue? (c : Char) : Option Nat :=
  (zeros.find? fun first => first ≤ c.toNat && c.toNat < first + 10).map (c.toNat - ·)

/-- Decimal digits of any script. -/
def isDigit (c : Char) : Bool := (digitValue? c).isSome

/-- The number that a run of digits denotes.  Other characters count as zeros. -/
def digitsValue (s : List Char) : Nat :=
  s.foldl (fun n c => 10 * n + (digitValue? c).getD 0) 0

/-! ## Integers -/

/-- White space around an integer: blanks without the information separators. -/
def isPadding (c : Char) : Bool := isBlank c && !(0x1C ≤ c.toNat && c.toNat ≤ 0x1F)

/-- The most digits that are read. -/
def maxDigits : Nat := 4300

/-- Digits with single underscores between them. -/
def unsigned? (s : List Char) : Option Nat :=
  let groups := splitOn '_' s
  if groups.all (fun g => !g.isEmpty && g.all isDigit) && groups.flatten.length ≤ maxDigits then
    some (digitsValue groups.flatten)
  else none

/-- The integer that a text stands for. -/
def integer? (s : String) : Option Int :=
  match trim isPadding s.toList with
  | '-' :: digits => (unsigned? digits).map fun n => -(n : Int)
  | '+' :: digits => (unsigned? digits).map Int.ofNat
  | digits => (unsigned? digits).map Int.ofNat

end SvgDrawing.Text
