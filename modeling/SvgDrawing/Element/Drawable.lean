import SvgDrawing.Element.Attributes
import SvgDrawing.Log

/-!
# Drawable elements

A document is a tree of elements, and some of them are drawn: rectangles, polygons and
paths that stand outside the containers whose content is only referred to, and that
are not hidden.  A hidden shape hides what is inside it.

A tag is a local name, with the URI of its namespace in braces in front if it has one.
Shapes are drawn if they are in the SVG namespace or in none.  The containers are known
by their local name, whatever the namespace.

The walk through a document, `Node.visits`, keeps the hidden shapes it comes across,
since they are reported in the order of the document together with everything else.  It
follows the tree however deep that is.  The limit that an interpreter sets to recursion,
met by documents that are nested about 1000 deep, is outside the model.
-/

namespace SvgDrawing

/-! ## Tags -/

/-- The kinds of elements that are drawn. -/
inductive ShapeKind where
  | rect
  | polygon
  | path
  deriving DecidableEq

namespace Tag

/-- The beginning of a tag in the SVG namespace. -/
def svgNamespace : String := "\x7bhttp://www.w3.org/2000/svg\x7d"

/-- A line without the text from its first opening brace to its last closing one.  If no
closing brace follows the first opening one, there is nothing to remove. -/
def withoutBraces (line : List Char) : List Char :=
  let front := line.takeWhile (· != '\x7b')
  let behind := (line.reverse.takeWhile (· != '\x7d')).reverse
  if front.length + behind.length < line.length then front ++ behind else line

/-- A tag without its namespace.  Braces that enclose more than one line are kept. -/
def localName (tag : String) : String :=
  Text.lines ((Text.splitOn '\n' tag.toList).map fun line => String.ofList (withoutBraces line))

/-- The shape that an element draws, if any. -/
def shape? (tag : String) : Option ShapeKind :=
  if tag.startsWith "\x7b" && !tag.startsWith svgNamespace then none
  else
    match localName tag with
    | "rect" => some .rect
    | "polygon" => some .polygon
    | "path" => some .path
    | _ => none

/-- Elements whose content is not drawn where it stands. -/
def isUndrawn (tag : String) : Bool :=
  ["defs", "clipPath", "marker", "symbol", "mask", "pattern"].contains (localName tag)

end Tag

/-! ## Documents and their shapes -/

/-- A part of a document.  Comments and processing instructions take no part in drawing. -/
inductive Node where
  | element (tag : String) (attributes : Attributes) (children : List Node)
  | comment (text : String)
  | instruction (text : String)

/-- An element that has a shape.  The attributes are the effective ones. -/
structure Drawable where
  kind : ShapeKind
  tag : String
  attributes : Attributes
  deriving DecidableEq

namespace Drawable

/-- The drawable that an element is, if it has a shape. -/
def ofElement? (tag : String) (attributes : Attributes) : Option Drawable :=
  (Tag.shape? tag).map fun kind => ⟨kind, Tag.localName tag, attributes.effective⟩

/-- The `id` attribute. -/
def id? (d : Drawable) : Option String := d.attributes.get? "id"

/-- Not displayed. -/
def hidden (d : Drawable) : Bool := d.attributes.get? "display" == some "none"

/-- How messages refer to an element: by its tag, and its id unless that is empty. -/
def label (d : Drawable) : String :=
  match d.id? with
  | none | some "" => d.tag
  | some id => d.tag ++ " (" ++ id ++ ")"

end Drawable

/-- A shape met on the way through a document. -/
inductive Visit where
  | hidden (d : Drawable)
  | drawn (d : Drawable)
  deriving DecidableEq

namespace Node

mutual

/-- The shapes met in a part of a document, in order. -/
def visits : Node → List Visit
  | comment _ | instruction _ => []
  | element tag attributes children =>
    if Tag.isUndrawn tag then []
    else
      match Drawable.ofElement? tag attributes with
      | none => visitsAll children
      | some d => if d.hidden then [.hidden d] else .drawn d :: visitsAll children

/-- The shapes met in parts that follow each other. -/
def visitsAll : List Node → List Visit
  | [] => []
  | node :: rest => visits node ++ visitsAll rest

end

/-- The shapes met in a document.  The root itself is never drawn. -/
def visitsBelow : Node → List Visit
  | comment _ | instruction _ => []
  | element _ _ children => visitsAll children

/-- The shapes of a document that are drawn, in order. -/
def drawables (root : Node) : List Drawable :=
  root.visitsBelow.filterMap fun | .drawn d => some d | .hidden _ => none

end Node

end SvgDrawing
