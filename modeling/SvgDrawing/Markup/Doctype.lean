import SvgDrawing.Markup.Reference

/-!
# Document type declarations

A document may begin with a declaration of its type, which `doctype` reads.  Of what it
declares, the default values and the types of attributes take part in reading the
document, and a declared entity is the end of it.  Everything else is checked for its
form only.  External subsets are never read; that one exists is remembered, because it
might have declared the names that are undefined otherwise.
-/

namespace SvgDrawing.Markup

/-- A declared attribute: whether its value is a list of tokens, and its default. -/
structure DeclaredAttribute where
  element : List Char
  name : List Char
  tokens : Bool
  default? : Option (List Char)

/-- What is known from declarations.  `standalone` documents promise that nothing outside
matters; `unread` declarations exist or may exist elsewhere; once one was passed over,
later ones no longer count, and `counting` ends. -/
structure Declarations where
  standalone : Bool
  unread : Bool
  counting : Bool
  attributes : List DeclaredAttribute

namespace Declarations

/-- Nothing is declared. -/
def none (standalone : Bool) : Declarations := ⟨standalone, false, true, []⟩

/-- An undefined entity may have been declared elsewhere. -/
def forgiving (d : Declarations) : Bool := d.unread && !d.standalone

/-- There is an external subset. -/
def withExternal (d : Declarations) : Declarations := { d with unread := true }

/-- A parameter entity was referred to and passed over. -/
def withSkipped (d : Declarations) : Declarations :=
  { d with unread := true, counting := d.standalone }

/-- One more declared attribute. -/
def add (d : Declarations) (a : DeclaredAttribute) : Declarations :=
  if d.counting then { d with attributes := d.attributes ++ [a] } else d

end Declarations

variable [Alphabet]

/-! ## External identifiers -/

/-- The characters of public identifiers. -/
def isPublicChar (c : Char) : Bool :=
  c.isAlphanum || c == '\n' || c == '\r' || " -'()+,./:=?;!*#@$_%".toList.contains c

/-- A public identifier with single spaces inside and none at its ends. -/
def normalizePublic (s : List Char) : List Char :=
  collapseSpaces (s.map fun c => if c == '\n' || c == '\r' then ' ' else c)

/-- A public identifier. -/
def publicLiteral (s : List Char) : Except MarkupError (List Char × List Char) := do
  let (text, rest) ← literal s
  if text.all isPublicChar then return (normalizePublic text, rest) else refuse

/-- A system identifier alone or after a public one.  The keyword in front has been read as
`keyword`. -/
def externalId (keyword : List Char) (s : List Char) :
    Except MarkupError ((List Char × Option (List Char)) × List Char) := do
  if keyword = "SYSTEM".toList then
    let (system, rest) ← literal (skipSpaces s)
    return ((system, .none), rest)
  else if keyword = "PUBLIC".toList then
    let (pub, rest) ← publicLiteral (skipSpaces s)
    let (system, rest) ← literal (skipSpaces rest)
    return ((system, some pub), rest)
  else refuse

/-- The end of a declaration. -/
def declarationEnd (s : List Char) : Except MarkupError (List Char) := expect ['>'] (skipSpaces s)

/-! ## Entities -/

/-- Accepts the value of one of the entities that need no declaration, which may be
declared again: legal references, and no parameter entities. -/
def checkEntityValue (s : List Char) : Except MarkupError Unit := do
  if s.contains '%' then refuse
  else
    let _ ← pieces s
    return ()

/-- The refusal of a declared entity. -/
def entityDeclared {α : Type} (entity : List Char) (id? : Option (List Char × Option (List Char))) :
    Except MarkupError α :=
  .error (.entityDeclared (String.ofList entity) (id?.map fun id => String.ofList id.1)
    (id?.bind fun id => id.2.map String.ofList))

/-- What may stand after a name in a declaration, at least as far as the name goes. -/
def endsName : List Char → Bool
  | [] => true
  | c :: _ => isSpace c || ">),|[%".toList.contains c

/-- The declaration of an entity.  It is refused as soon as its value or its identifiers are
read.  Where declarations do not count, and for the entities that need none, its form
is checked instead. -/
def entityDeclaration (d : Declarations) (s : List Char) : Except MarkupError (List Char) := do
  let s ← requireSpaces s
  let (parameter, s) ←
    match s with
    | '%' :: rest => (requireSpaces rest).map fun rest => (true, rest)
    | _ => .ok (false, s)
  let (entity, s) ← name s
  let predefined := !parameter && (namedChar? entity).isSome
  let s ← requireSpaces s
  match s with
  | '"' :: _ | '\'' :: _ =>
    let (value, rest) ← literal s
    if d.counting then
      if predefined then checkEntityValue value else entityDeclared entity .none
    declarationEnd rest
  | _ =>
    let (keyword, rest) ← name s
    let rest ← requireSpaces rest
    let (id, rest) ← externalId keyword rest
    let spaced := skipSpaces rest
    let rest ←
      match spaced with
      | '>' :: rest => Except.ok rest
      | _ =>
        if parameter then refuse
        else do
          let rest ← requireSpaces rest
          let (keyword, rest) ← name rest
          if keyword = "NDATA".toList then
            let (_, rest) ← name (← requireSpaces rest)
            if !endsName rest then refuse
            else if d.counting && !predefined then entityDeclared entity (some id)
            else declarationEnd rest
          else refuse
    if d.counting && !predefined then entityDeclared entity (some id) else return rest

/-! ## Elements -/

/-- The text after an occurrence mark, if there is one. -/
def skipOccurrence : List Char → List Char
  | c :: rest => if c == '?' || c == '*' || c == '+' then rest else c :: rest
  | [] => []

/-- The rest of mixed content after `#PCDATA` or an element name: further names, or the
end.  Only content without names may do without the final asterisk. -/
def mixedContent (named : Bool) (s : List Char) : Except MarkupError (List Char) :=
  match skipSpaces s with
  | ')' :: '*' :: rest => .ok rest
  | ')' :: rest => if named then refuse else .ok rest
  | '|' :: rest =>
    match declaredName (skipSpaces rest) with
    | .error e => .error e
    | .ok (_, after) =>
      if after.length < s.length then mixedContent true after else refuse
  | _ => refuse
  termination_by s.length

/-- The rest of a content model.  `openGroups` holds the separator of each group that is open,
once it is known; `item` says whether an element or a group has to come next. -/
def contentModel (openGroups : List (Option Char)) (item : Bool) (s : List Char) :
    Except MarkupError (List Char) :=
  match openGroups with
  | [] => .ok s
  | separator :: outer =>
    let continue? (groups : List (Option Char)) (item : Bool) (rest : List Char) :
        Except MarkupError (List Char) :=
      if rest.length < s.length then contentModel groups item rest else refuse
    match skipSpaces s with
    | [] => refuse
    | c :: rest =>
      if item then
        if c = '(' then continue? (.none :: separator :: outer) true rest
        else
          match declaredName (c :: rest) with
          | .error e => .error e
          | .ok (_, after) => continue? (separator :: outer) false (skipOccurrence after)
      else if c = ')' then continue? outer false (skipOccurrence rest)
      else if c = ',' ∨ c = '|' then
        if separator.all (· = c) then continue? (some c :: outer) true rest else refuse
      else refuse
  termination_by s.length

/-- The declaration of an element. -/
def elementDeclaration (s : List Char) : Except MarkupError (List Char) := do
  let (_, s) ← declaredName (← requireSpaces s)
  let s ← requireSpaces s
  match s with
  | '(' :: rest =>
    let inner := skipSpaces rest
    if "#PCDATA".toList.isPrefixOf inner then
      let after := inner.drop 7
      match after with
      | c :: _ =>
        if isSpace c || c == ')' || c == '|' then declarationEnd (← mixedContent false after)
        else refuse
      | [] => refuse
    else declarationEnd (← contentModel [.none] true rest)
  | _ =>
    let (keyword, rest) ← name s
    if keyword = "EMPTY".toList ∨ keyword = "ANY".toList then declarationEnd rest else refuse

/-! ## Attributes -/

/-- A name or a number or any other token of name characters. -/
def nameToken (s : List Char) : Except MarkupError (List Char × List Char) :=
  let isTokenChar := fun c => isNameChar c || c == ':'
  match s.takeWhile isTokenChar with
  | [] => refuse
  | token => .ok (token, s.dropWhile isTokenChar)

/-- The rest of a parenthesized list of alternatives. -/
def alternatives (one : Scan (List Char)) (s : List Char) : Except MarkupError (List Char) :=
  match one (skipSpaces s) with
  | .error e => .error e
  | .ok (_, after) =>
    match skipSpaces after with
    | ')' :: rest => .ok rest
    | '|' :: rest => if rest.length < s.length then alternatives one rest else refuse
    | _ => refuse
  termination_by s.length

/-- The names of attribute types whose values are lists of tokens. -/
def tokenTypes : List String :=
  ["ID", "IDREF", "IDREFS", "ENTITY", "ENTITIES", "NMTOKEN", "NMTOKENS"]

/-- The type of an attribute and the space after it: whether its values are lists of
tokens. -/
def attributeType (s : List Char) : Except MarkupError (Bool × List Char) := do
  match s with
  | '(' :: rest => return (true, ← requireSpaces (← alternatives nameToken rest))
  | _ =>
    let (keyword, rest) ← name s
    let rest ← requireSpaces rest
    if keyword = "CDATA".toList then return (false, rest)
    else if keyword = "NOTATION".toList then
      let rest ← alternatives name (← expect ['('] rest)
      return (true, ← requireSpaces rest)
    else if tokenTypes.contains (String.ofList keyword) then return (true, rest)
    else refuse

/-- The default of an attribute. -/
def attributeDefault (d : Declarations) (tokens : Bool) (s : List Char) :
    Except MarkupError (Option (List Char) × List Char) := do
  let value (s : List Char) : Except MarkupError (Option (List Char) × List Char) := do
    let (text, rest) ← literal s
    if d.counting then return (some (← attributeValue tokens d.forgiving text), rest)
    else return (.none, rest)
  match s with
  | '#' :: rest =>
    let (keyword, rest) ← name rest
    if keyword = "FIXED".toList then value (← requireSpaces rest)
    else if keyword = "REQUIRED".toList ∨ keyword = "IMPLIED".toList then
      match rest with
      | c :: _ => if isSpace c || c == '>' then return (.none, rest) else refuse
      | [] => refuse
    else refuse
  | _ => value s

/-- The declarations of the attributes of an element, up to the end of the list. -/
def attributeDeclarations (element : List Char) (d : Declarations) (s : List Char) :
    Except MarkupError (Declarations × List Char) :=
  match skipSpaces s with
  | '>' :: rest => .ok (d, rest)
  | inner =>
    let one : Except MarkupError (Declarations × List Char) := do
      let (attributeName, rest) ← declaredName inner
      let (tokens, rest) ← attributeType (← requireSpaces rest)
      let (default?, rest) ← attributeDefault d tokens rest
      return (d.add ⟨element, attributeName, tokens, default?⟩, rest)
    match one with
    | .error e => .error e
    | .ok (d, rest) =>
      if rest.length < s.length then attributeDeclarations element d rest else refuse
  termination_by s.length

/-- A list of attribute declarations. -/
def attributeList (d : Declarations) (s : List Char) :
    Except MarkupError (Declarations × List Char) := do
  let (element, rest) ← declaredName (← requireSpaces s)
  match rest with
  | c :: _ => if isSpace c || c == '>' then attributeDeclarations element d rest else refuse
  | [] => refuse

/-! ## Notations -/

/-- The declaration of a notation: it may have a public identifier alone. -/
def notationDeclaration (s : List Char) : Except MarkupError (List Char) := do
  let (_, s) ← name (← requireSpaces s)
  let (keyword, s) ← name (← requireSpaces s)
  let s ← requireSpaces s
  if keyword = "PUBLIC".toList then
    let (_, rest) ← publicLiteral s
    match skipSpaces rest with
    | '>' :: rest => return rest
    | inner =>
      let (_, rest) ← literal inner
      declarationEnd rest
  else
    let (_, rest) ← externalId keyword s
    declarationEnd rest

/-! ## The subset and the whole -/

/-- A declaration whose opening mark `<!` has been read. -/
def markupDeclaration (d : Declarations) (s : List Char) :
    Except MarkupError (Declarations × List Char) := do
  match s with
  | '-' :: '-' :: rest => return (d, ← comment rest)
  | _ =>
    let (keyword, rest) ← name s
    match String.ofList keyword with
    | "ENTITY" => return (d, ← entityDeclaration d rest)
    | "ELEMENT" => return (d, ← elementDeclaration rest)
    | "ATTLIST" => attributeList d rest
    | "NOTATION" => return (d, ← notationDeclaration rest)
    | _ => refuse

/-- The declarations inside a document type, up to the closing bracket. -/
def subset (d : Declarations) (s : List Char) : Except MarkupError (Declarations × List Char) :=
  let one : Except MarkupError (Option (Declarations × List Char)) := do
    match s with
    | '<' :: '!' :: rest => return some (← markupDeclaration d rest)
    | '<' :: '?' :: rest => return some (d, ← instruction rest)
    | '%' :: rest =>
      let (_, rest) ← name rest
      return some (d.withSkipped, ← expect [';'] rest)
    | c :: rest => if isSpace c then return some (d, skipSpaces rest) else return .none
    | [] => return .none
  match one with
  | .error e => .error e
  | .ok (some (d, rest)) => if rest.length < s.length then subset d rest else refuse
  | .ok .none =>
    match s with
    | ']' :: rest => .ok (d, rest)
    | _ => refuse
  termination_by s.length

/-- A document type whose opening mark `<!DOCTYPE` has been read. -/
def doctype (standalone : Bool) (s : List Char) :
    Except MarkupError (Declarations × List Char) := do
  let d := Declarations.none standalone
  let (_, s) ← declaredName (← requireSpaces s)
  let ending (d : Declarations) (s : List Char) :
      Except MarkupError (Declarations × List Char) := do
    match skipSpaces s with
    | '[' :: rest =>
      let (d, rest) ← subset d rest
      return (d, ← declarationEnd rest)
    | '>' :: rest => return (d, rest)
    | _ => refuse
  match skipSpaces s with
  | '[' :: _ | '>' :: _ => ending d s
  | _ =>
    let (keyword, rest) ← name (← requireSpaces s)
    let (_, rest) ← externalId keyword (← requireSpaces rest)
    ending d.withExternal rest

end SvgDrawing.Markup
