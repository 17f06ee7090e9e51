import SvgDrawing.Element.Attributes
import SvgDrawing.Markup.Doctype

/-!
# Namespaces

Prefixes are bound to namespaces by attributes and hold inside the element that binds
them, in its `Scope`.  A tag takes the default namespace if it has no prefix, an
attribute without a prefix is in none, and a name in a namespace is written as the URI
in braces followed by the local name.  `resolve` does this for a start tag.
-/

namespace SvgDrawing.Markup

/-- The bindings in force, innermost first.  The empty prefix is the default namespace and
the empty URI is no namespace. -/
abbrev Scope := List (List Char × List Char)

namespace Scope

/-- The namespace of the prefix `xml`, which needs no binding. -/
def xmlNamespace : List Char := "http://www.w3.org/XML/1998/namespace".toList

/-- The namespace of the attributes that bind prefixes. -/
def xmlnsNamespace : List Char := "http://www.w3.org/2000/xmlns/".toList

/-- The bindings outside the root. -/
def initial : Scope := [("xml".toList, xmlNamespace), ([], [])]

/-- One more binding.  Only the default namespace can be unbound, the prefix `xml` belongs
to its namespace and `xmlns` to none, and a URI must not hold the closing brace that
ends it in an expanded name. -/
def bind (scope : Scope) (binding : List Char × List Char) : Except MarkupError Scope :=
  let (nsPrefix, uri) := binding
  if uri.isEmpty && !nsPrefix.isEmpty then refuse
  else if nsPrefix = "xmlns".toList then refuse
  else if (nsPrefix == "xml".toList) != (uri == xmlNamespace) then refuse
  else if uri = xmlnsNamespace || uri.contains '\x7d' then refuse
  else .ok (binding :: scope)

/-- A local name in a namespace. -/
def expanded (uri localName : List Char) : List Char :=
  if uri.isEmpty then localName else '\x7b' :: uri ++ '\x7d' :: localName

end Scope

/-- The prefix of a qualified name, if it has one, and its local name. -/
def splitName (s : List Char) : Option (List Char) × List Char :=
  match s.dropWhile (· != ':') with
  | [] => (none, s)
  | _ :: rest => (some (s.takeWhile (· != ':')), rest)

/-- The prefix that an attribute binds: empty for the default namespace. -/
def boundPrefix? (attributeName : List Char) : Option (List Char) :=
  match splitName attributeName with
  | (none, localName) => if localName = "xmlns".toList then some [] else none
  | (some nsPrefix, localName) => if nsPrefix = "xmlns".toList then some localName else none

namespace Scope

/-- A name with its namespace; without a prefix it is in the namespace `default`. -/
def expand (scope : Scope) (default : List Char) (name : List Char) :
    Except MarkupError (List Char) :=
  match splitName name with
  | (none, localName) => .ok (expanded default localName)
  | (some nsPrefix, localName) =>
    match scope.lookup nsPrefix with
    | some uri => .ok (expanded uri localName)
    | none => refuse

end Scope

/-- No value is repeated. -/
def allDifferent : List (List Char) → Bool
  | [] => true
  | x :: rest => !rest.contains x && allDifferent rest

/-- The declared attributes of an element.  The first declaration of an attribute counts. -/
def Declarations.attributesOf (d : Declarations) (element : List Char) : List DeclaredAttribute :=
  (d.attributes.filter (·.element = element)).foldl
    (fun kept a => if kept.any (·.name = a.name) then kept else kept ++ [a]) []

variable [Alphabet]

/-- The attributes of a start tag with their values, declared defaults included. -/
def completeAttributes (d : Declarations) (element : List Char)
    (given : List (List Char × List Char)) : Except MarkupError (List (List Char × List Char)) := do
  let declared := d.attributesOf element
  let values ← given.mapM fun (name, text) => do
    let tokens := (declared.find? (·.name = name)).any (·.tokens)
    return (name, ← attributeValue tokens d.forgiving text)
  let defaults := declared.filterMap fun a =>
    if given.any (·.1 = a.name) then none else a.default?.map (a.name, ·)
  return values ++ defaults

/-- The tag and the attributes of a start tag, with their namespaces, and the bindings in
force inside the element. -/
def resolve (d : Declarations) (outer : Scope) (element : List Char)
    (given : List (List Char × List Char)) :
    Except MarkupError (String × Attributes × Scope) := do
  if !allDifferent (given.map (·.1)) then refuse
  else
    let all ← completeAttributes d element given
    let scope ← (all.filterMap fun (name, value) => (boundPrefix? name).map (·, value)).foldlM
      Scope.bind outer
    let own := all.filter fun (name, _) => (boundPrefix? name).isNone
    let attributes ← own.mapM fun (name, value) => do
      return (← scope.expand [] name, value)
    if !allDifferent (attributes.map (·.1)) then refuse
    else
      let tag ← scope.expand ((scope.lookup []).getD []) element
      return (String.ofList tag,
        attributes.map fun (name, value) => (String.ofList name, String.ofList value), scope)

end SvgDrawing.Markup
