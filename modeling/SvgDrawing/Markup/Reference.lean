import SvgDrawing.Markup.Scan
import SvgDrawing.Text.Pieces

/-!
# References

An ampersand begins a reference, which stands for a character, by number or by one of
the five names that need no declaration, or for a declared entity.  Since declared
entities are refused altogether, every other name is undefined.

In the value of an attribute references are replaced by what they stand for; in a text
between tags they are only checked, since the text is left out.
-/

namespace SvgDrawing.Markup

/-- What stands between an ampersand and a semicolon. -/
inductive Reference where
  | character (c : Char)
  | entity (name : List Char)
  deriving DecidableEq

/-- The value of a hexadecimal digit. -/
def hexDigit? (c : Char) : Option Nat :=
  if '0' ≤ c ∧ c ≤ '9' then some (c.toNat - '0'.toNat)
  else if 'a' ≤ c ∧ c ≤ 'f' then some (c.toNat - 'a'.toNat + 10)
  else if 'A' ≤ c ∧ c ≤ 'F' then some (c.toNat - 'A'.toNat + 10)
  else none

/-- The value of an ASCII digit. -/
def decimalDigit? (c : Char) : Option Nat :=
  if '0' ≤ c ∧ c ≤ '9' then some (c.toNat - '0'.toNat) else none

/-- A number with at least one digit. -/
def number? (base : Nat) (digit? : Char → Option Nat) : List Char → Option Nat
  | [] => none
  | digits => digits.foldlM (fun n c => (digit? c).map (base * n + ·)) 0

/-- The legal character with a number. -/
def legalChar? (n : Nat) : Option Char :=
  if n.isValidChar then
    let c := Char.ofNat n
    if isLegal c then some c else none
  else none

/-- The characters with names of their own. -/
def namedChar? (name : List Char) : Option Char :=
  match String.ofList name with
  | "lt" => some '<'
  | "gt" => some '>'
  | "amp" => some '&'
  | "apos" => some '\''
  | "quot" => some '"'
  | _ => none

variable [Alphabet]

/-- The reference with a text. -/
def Reference.ofText? : List Char → Option Reference
  | '#' :: 'x' :: digits => (number? 16 hexDigit? digits >>= legalChar?).map .character
  | '#' :: digits => (number? 10 decimalDigit? digits >>= legalChar?).map .character
  | text =>
    match name text with
    | .ok (name, []) =>
      match namedChar? name with
      | some c => some (.character c)
      | none => some (.entity name)
    | _ => none

/-- A piece of text: characters as they stand, or a reference. -/
inductive Piece where
  | plain (text : List Char)
  | reference (r : Reference)

/-- The pieces of a text with references. -/
def pieces (s : List Char) : Except MarkupError (List Piece) :=
  match Text.splitOn '&' s with
  | [] => .ok []
  | first :: later => do
    let rest ← later.mapM fun part =>
      let (inner, after) := (part.takeWhile (· != ';'), part.dropWhile (· != ';'))
      match after, Reference.ofText? inner with
      | ';' :: text, some r => Except.ok [Piece.reference r, Piece.plain text]
      | _, _ => refuse
    return .plain first :: rest.flatten

/-! ## Attribute values -/

/-- A value without spaces at its ends and with single spaces inside. -/
def collapseSpaces (s : List Char) : List Char :=
  (Text.runs (· != ' ') s).foldl
    (fun text word => if text.isEmpty then word else text ++ ' ' :: word) []

/-- The value of an attribute text: spaces for tabs and line ends, characters for
references.  Values that are lists of tokens lose superfluous spaces.  An undefined
entity is an error unless it may be declared where the document is not read; then it
stands for nothing. -/
def attributeValue (tokens unreadDeclarations : Bool) (s : List Char) :
    Except MarkupError (List Char) := do
  if s.contains '<' then refuse
  else
    let parts ← (← pieces (Text.normalizeLineEnds s)).mapM fun
      | .plain text => Except.ok (text.map fun c => if isSpace c then ' ' else c)
      | .reference (.character c) => .ok [c]
      | .reference (.entity _) => if unreadDeclarations then .ok [] else refuse
    return if tokens then collapseSpaces parts.flatten else parts.flatten

/-! ## Content -/

/-- The end of a literal section must not stand in text. -/
def endsSection : List Char → Bool
  | [] => false
  | c :: rest => [']', ']', '>'].isPrefixOf (c :: rest) || endsSection rest

/-- Accepts text between tags: legal characters, no end of a literal section, and
references to characters only. -/
def checkContent (s : List Char) : Except MarkupError Unit := do
  if !s.all isLegal || endsSection s then refuse
  else
    let parts ← pieces s
    if parts.all fun | .reference (.entity _) => false | _ => true then return () else refuse

end SvgDrawing.Markup
