import SvgDrawing.Failure
import SvgDrawing.Markup.Character

/-!
# Scanning markup

The pieces that all markup is made of: spaces, names, quoted literals, and text up to a
delimiter.  A scanner, of type `Scan`, takes the text that is left and returns what it
found and what is left after it.
-/

namespace SvgDrawing.Markup

/-- A scanner: the text that is left, to a result and the text left after it. -/
abbrev Scan (α : Type) := List Char → Except MarkupError (α × List Char)

/-- The text cannot be read on. -/
def refuse {α : Type} : Except MarkupError α := .error .notWellFormed

/-- The text after any spaces. -/
def skipSpaces (s : List Char) : List Char := s.dropWhile isSpace

/-- The text after spaces, of which there must be some. -/
def requireSpaces (s : List Char) : Except MarkupError (List Char) :=
  match s with
  | c :: rest => if isSpace c then .ok (skipSpaces rest) else refuse
  | [] => refuse

/-- The text after a given beginning. -/
def expect (beginning s : List Char) : Except MarkupError (List Char) :=
  if beginning.isPrefixOf s then .ok (s.drop beginning.length) else refuse

variable [Alphabet]

/-- A name without a colon. -/
def name : Scan (List Char)
  | c :: rest =>
    if isNameStart c then .ok (c :: rest.takeWhile isNameChar, rest.dropWhile isNameChar)
    else refuse
  | [] => refuse

/-- A name with at most one prefix. -/
def qualifiedName (s : List Char) : Except MarkupError (List Char × List Char) := do
  let (first, rest) ← name s
  match rest with
  | ':' :: rest =>
    let (second, rest) ← name rest
    return (first ++ ':' :: second, rest)
  | _ => return (first, rest)

/-- A name with at most one prefix in a declaration.  Declarations do not look at how the
name after the prefix begins: any name characters will do, while a tag with such a name
is refused. -/
def declaredName (s : List Char) : Except MarkupError (List Char × List Char) := do
  let (first, rest) ← name s
  match rest with
  | ':' :: rest =>
    match rest.takeWhile isNameChar with
    | [] => refuse
    | second => return (first ++ ':' :: second, rest.dropWhile isNameChar)
  | _ => return (first, rest)

/-- The text before the first occurrence of a delimiter and the text after it. -/
def upTo (delimiter : List Char) : Scan (List Char)
  | [] => refuse
  | c :: rest =>
    if delimiter.isPrefixOf (c :: rest) then .ok ([], (c :: rest).drop delimiter.length)
    else (upTo delimiter rest).map fun (text, after) => (c :: text, after)

/-- Legal text before a delimiter and the text after it. -/
def legalUpTo (delimiter : List Char) (s : List Char) :
    Except MarkupError (List Char × List Char) := do
  let (text, rest) ← upTo delimiter s
  if text.all isLegal then return (text, rest) else refuse

/-- Text in quotes of either kind. -/
def quoted : Scan (List Char)
  | '"' :: rest => legalUpTo ['"'] rest
  | '\'' :: rest => legalUpTo ['\''] rest
  | _ => refuse

/-- A literal in a declaration: quoted text with a space after it, the end of the
declaration, or the beginning of a subset or a reference. -/
def literal (s : List Char) : Except MarkupError (List Char × List Char) := do
  let (text, rest) ← quoted s
  match rest with
  | [] => return (text, rest)
  | c :: _ =>
    if isSpace c || c == '>' || c == '[' || c == '%' then return (text, rest) else refuse

/-! ## Comments and instructions -/

/-- The text after a comment whose opening mark has been read.  Two hyphens end it. -/
def comment (s : List Char) : Except MarkupError (List Char) := do
  let (_, rest) ← legalUpTo ['-', '-'] s
  expect ['>'] rest

/-- The text after a processing instruction whose opening mark has been read.  Its target
must not be `xml` in any case. -/
def instruction (s : List Char) : Except MarkupError (List Char) := do
  let (target, rest) ← name s
  if target.map Char.toLower == ['x', 'm', 'l'] then refuse
  else
    match rest with
    | '?' :: '>' :: rest => return rest
    | c :: rest =>
      if isSpace c then
        let (_, rest) ← legalUpTo ['?', '>'] rest
        return rest
      else refuse
    | [] => refuse

end SvgDrawing.Markup
