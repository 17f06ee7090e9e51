import SvgDrawing.Element.Drawable
import SvgDrawing.Markup.Character
import SvgDrawing.Markup.Namespace

/-!
# Reading documents

A document is read from its beginning to its end into the tree of its elements, by
`Node.ofText?`.  Text, comments and instructions are checked and left out of the tree.
The reader is strict: whatever is not well-formed is refused, and so is a document that
declares an entity, at the place of the declaration.

An encoding that the document names is of no account, since its beginning has told the
encoding already.
-/

namespace SvgDrawing

namespace Markup

variable [Alphabet]

/-! ## The beginning -/

/-- One name with a value in a declaration at the beginning, after the space in front of it;
nothing if the declaration ends here. -/
def pseudoAttribute (s : List Char) :
    Except MarkupError (Option ((List Char × List Char) × List Char)) :=
  match s with
  | [] => .ok none
  | c :: _ =>
    if !isSpace c then refuse
    else
      match skipSpaces s with
      | [] => .ok none
      | inner => do
        let isEnd := fun c => isSpace c || c == '=' || c.toNat ≥ 0x80
        let name := inner.takeWhile fun c => !isEnd c
        if name.isEmpty then refuse
        else
          let rest ← expect ['='] (skipSpaces (inner.dropWhile fun c => !isEnd c))
          let (value, rest) ← quoted (skipSpaces rest)
          if value.all fun c => c.isAlphanum || c == '.' || c == '-' || c == '_' then
            return some ((name, value), rest)
          else refuse

/-- The text between `<?xml` and `?>`: a version, and after it an encoding and whether the
document stands alone, both optional.  The result says whether it does. -/
def declaration (s : List Char) : Except MarkupError Bool := do
  match ← pseudoAttribute s with
  | none => refuse
  | some ((name, _), rest) =>
    if name ≠ "version".toList then refuse
    else
      let afterEncoding ← do
        match ← pseudoAttribute rest with
        | some ((name, value), after) =>
          if name = "encoding".toList then
            if value.head?.any Char.isAlpha then pseudoAttribute after else refuse
          else Except.ok (some ((name, value), after))
        | none => Except.ok none
      match afterEncoding with
      | none => return false
      | some ((name, value), rest) =>
        if name ≠ "standalone".toList || !rest.all isSpace then refuse
        else if value = "yes".toList then return true
        else if value = "no".toList then return false
        else refuse

/-- Reads the declaration at the beginning, if there is one. -/
def beginning (s : List Char) : Except MarkupError (Bool × List Char) := do
  let s := if s.head? = some '\uFEFF' then s.drop 1 else s
  match s with
  | '<' :: '?' :: 'x' :: 'm' :: 'l' :: c :: rest =>
    if isSpace c then
      let (text, rest) ← upTo ['?', '>'] (c :: rest)
      return (← declaration text, rest)
    else return (false, s)
  | _ => return (false, s)

/-- The text after spaces, comments and instructions. -/
def skipMisc (s : List Char) : Except MarkupError (List Char) :=
  let one : Except MarkupError (Option (List Char)) := do
    match s with
    | '<' :: '!' :: '-' :: '-' :: rest => return some (← comment rest)
    | '<' :: '?' :: rest => return some (← instruction rest)
    | c :: rest => return if isSpace c then some (skipSpaces rest) else none
    | [] => return none
  match one with
  | .error e => .error e
  | .ok none => .ok s
  | .ok (some rest) => if rest.length < s.length then skipMisc rest else refuse
  termination_by s.length

/-! ## Tags -/

/-- An attribute as it is written, and the text after it. -/
def writtenAttribute (s : List Char) :
    Except MarkupError ((List Char × List Char) × List Char) := do
  let (name, rest) ← qualifiedName s
  let rest ← expect ['='] (skipSpaces rest)
  let (value, rest) ← quoted (skipSpaces rest)
  return ((name, value), rest)

/-- The attributes of a start tag as they are written, whether the element is empty, and
the text after the tag.  Each attribute has a space in front.  There are at most `steps`
attributes, fewer than the characters that are left. -/
def startTag (steps : Nat) (given : List (List Char × List Char)) (s : List Char) :
    Except MarkupError ((List (List Char × List Char) × Bool) × List Char) :=
  match steps, skipSpaces s with
  | _, '>' :: rest => .ok ((given.reverse, false), rest)
  | _, '/' :: '>' :: rest => .ok ((given.reverse, true), rest)
  | 0, _ => refuse
  | steps + 1, inner => do
    let _ ← requireSpaces s
    let (a, rest) ← writtenAttribute inner
    startTag steps (a :: given) rest

/-- An element whose end tag has not been read: the name it was written with, the bindings
inside it, and its children so far in reverse. -/
structure OpenElement where
  name : List Char
  tag : String
  attributes : Attributes
  scope : Scope
  children : List Node

namespace OpenElement

/-- The element without an end in sight as a finished one. -/
def close (e : OpenElement) : Node := .element e.tag e.attributes e.children.reverse

/-- The element with one more child. -/
def addChild (e : OpenElement) (child : Node) : OpenElement :=
  { e with children := child :: e.children }

end OpenElement

/-- Closes an element inside `outer`: the root if that is empty, else a further child. -/
def finish (outer : List OpenElement) (node : Node) : Node ⊕ List OpenElement :=
  match outer with
  | [] => .inl node
  | parent :: rest => .inr (parent.addChild node :: rest)

/-- One step inside the root: a tag, a comment, an instruction, a literal section or text.
`opened` holds the open elements, innermost first, and `steps` bounds the attributes of a
tag. -/
def contentStep (d : Declarations) (steps : Nat) (opened : List OpenElement) (s : List Char) :
    Except MarkupError ((Node ⊕ List OpenElement) × List Char) := do
  match s, opened with
  | '<' :: '/' :: rest, e :: outer =>
    let rest ← expect ['>'] (skipSpaces (← expect e.name rest))
    return (finish outer e.close, rest)
  | '<' :: '!' :: '-' :: '-' :: rest, _ => return (.inr opened, ← comment rest)
  | '<' :: '!' :: rest, _ =>
    let (_, rest) ← legalUpTo [']', ']', '>'] (← expect "[CDATA[".toList rest)
    return (.inr opened, rest)
  | '<' :: '?' :: rest, _ => return (.inr opened, ← instruction rest)
  | '<' :: rest, _ =>
    let (name, rest) ← qualifiedName rest
    let ((given, empty), rest) ← startTag steps [] rest
    let scope := (opened.head?.map (·.scope)).getD Scope.initial
    let (tag, attributes, scope) ← resolve d scope name given
    let e : OpenElement := ⟨name, tag, attributes, scope, []⟩
    return (if empty then finish opened e.close else .inr (e :: opened), rest)
  | s, _ =>
    checkContent (s.takeWhile (· != '<'))
    return (.inr opened, s.dropWhile (· != '<'))

/-- The root with everything inside it, and the text after it, in at most `steps` steps. -/
def contentWithin (d : Declarations) : Nat → List OpenElement → List Char →
    Except MarkupError (Node × List Char)
  | 0, _, _ => refuse
  | steps + 1, opened, s => do
    match ← contentStep d steps opened s with
    | (.inl root, rest) => return (root, rest)
    | (.inr opened, rest) => contentWithin d steps opened rest

/-- The root with everything inside it, and the text after it.  Each step takes a character
at least, so no more steps are needed than there are characters. -/
def content (d : Declarations) (s : List Char) : Except MarkupError (Node × List Char) :=
  contentWithin d (s.length + 1) [] s

/-- A whole document. -/
def document (s : List Char) : Except MarkupError Node := do
  let (standalone, s) ← beginning s
  let s ← skipMisc s
  let (d, s) ←
    if "<!DOCTYPE".toList.isPrefixOf s then doctype standalone (s.drop 9)
    else .ok (.none standalone, s)
  let s ← skipMisc s
  match s with
  | '<' :: c :: _ =>
    if isNameStart c then
      let (root, rest) ← content d s
      let rest ← skipMisc rest
      if rest.isEmpty then return root else refuse
    else refuse
  | _ => refuse

end Markup

/-- The tree of a document, or why there is none. -/
def Node.ofText? (s : String) : Except MarkupError Node := do
  let decoded := Markup.Decoded.ofText s
  let root ← @Markup.document decoded.alphabet decoded.text
  if decoded.leftOver then Markup.refuse else return root

end SvgDrawing
