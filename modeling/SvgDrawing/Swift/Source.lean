import SvgDrawing.Element.Conversion
import SvgDrawing.Markup.Document
import SvgDrawing.Swift.Renderer

/-!
# Source files

A converted document becomes a function that draws it, with a block for each element,
and the functions of a set of icons are listed in an enumeration.

The name of a file or an icon becomes an identifier in upper camel case: its words, the
runs of ASCII letters and digits, each with a capital and nothing between them.  A name
without words, or one that would start with a digit, gets the word `Icon` in front.

The text of a document can be read in three ways: for the elements that are drawn
(`drawablesOf`), for their operations (`convertDocument`), and for the source of its
function (`renderDocument`).
-/

namespace SvgDrawing

namespace Swift

/-! ## Identifiers -/

/-- The words of a name. -/
def words (name : List Char) : List (List Char) := Text.runs Char.isAlphanum name

/-- A word with a capital. -/
def capitalized : List Char → List Char
  | [] => []
  | c :: rest => c.toUpper :: rest

/-- The words of a name without anything between them. -/
def camelCase (name : List Char) : List Char := (words name).flatMap capitalized

/-- The identifier for a name. -/
def identifier (name : String) : String :=
  match camelCase name.toList with
  | [] => "Icon"
  | c :: rest => String.ofList (if c.isDigit then "Icon".toList ++ c :: rest else c :: rest)

/-! ## Functions and indices -/

/-- One step of indentation. -/
def indentation : String := "    "

/-- A line one step further in. -/
def indented (line : String) : String := indentation ++ line

/-- The statements of operations, or the first reason not to write them. -/
def statements (style : Style) : List Operation → Except RenderError (List String)
  | [] => .ok []
  | o :: rest => do
    let line ← style.statement o
    let later ← statements style rest
    return line :: later

/-- The block of an element under a comment with its id, or its tag if it has none. -/
def elementLines (precision : Int) (e : Converted) : Except RenderError (List String) := do
  let body ← statements { precision } e.operations
  return ("// " ++ e.id.getD e.tag) :: "do \x7b" :: body.map indented ++ ["\x7d"]

/-- The blocks of elements in order. -/
def bodyLines (precision : Int) : List Converted → Except RenderError (List String)
  | [] => .ok []
  | e :: rest => do
    let block ← elementLines precision e
    let later ← bodyLines precision rest
    return block ++ later

/-- Whether numbers are written for elements, so that their source depends on a precision. -/
def hasCoordinates (elements : List Converted) : Bool :=
  elements.any fun e => e.operations.any fun o => !o.points.isEmpty

/-- The source of a function that draws elements. -/
def function (name : String) (precision : Int) (elements : List Converted) :
    Except RenderError String := do
  let body ← bodyLines precision elements
  return Text.lines (["import CoreGraphics", "",
    "func draw" ++ identifier name ++ "(in context: CGContext) \x7b"] ++
    body.map indented ++ ["\x7d", ""])

/-- The entry of an icon in an index. -/
def indexEntry (icon : String × String) : String :=
  indentation ++ indentation ++ "\"" ++ icon.1 ++ "\": draw" ++ icon.2 ++ "(in:),"

/-- The source of an enumeration that lists icons: their names, and the identifiers of
their drawing functions.  A dictionary without entries is written with a colon. -/
def index (name : String) (icons : List (String × String)) : String :=
  let entries := if icons.isEmpty then [indentation ++ indentation ++ ":"]
    else icons.map indexEntry
  Text.lines (["import CoreGraphics", "", "public enum " ++ identifier name ++ " \x7b",
    indented "public static let icons: [String: (CGContext) -> Void] = ["] ++ entries ++
    [indented "]", "\x7d", ""])

/-- The source of a function for a document, or what prevents it. -/
def functionOf (name : String) (precision : Int) (elements : Logged Failure (List Converted)) :
    Logged Failure String :=
  ⟨elements.log, elements.result >>= fun es => (function name precision es).mapError .render⟩

end Swift

/-! ## Documents -/

/-- The elements of a document that are drawn. -/
def drawablesOf (s : String) : Except MarkupError (List Drawable) :=
  (Node.ofText? s).map Node.drawables

/-- The elements of a document as operations. -/
def convertDocument (s policy : String) : Logged Failure (List Converted) :=
  match Node.ofText? s with
  | .error e => ⟨[], .error (.markup e)⟩
  | .ok root => convertTree root policy

/-- The source of the drawing function of a document. -/
def renderDocument (s name : String) (precision : Int) (policy : String) : Logged Failure String :=
  Swift.functionOf name precision (convertDocument s policy)

/-- The source of the drawing function of a document when there is no precision.  Only a
document without coordinates can do without one, and then any would give the same. -/
def renderUnrounded (s name policy : String) : Logged Failure String :=
  let converted := convertDocument s policy
  Swift.functionOf name 0 ⟨converted.log, converted.result >>= fun elements =>
    if Swift.hasCoordinates elements then .error (.absent .precision) else .ok elements⟩

/-- The name of an icon that has no file. -/
def defaultName : String := "Icon"

end SvgDrawing
