import SvgDrawing.Text.Quoted

/-!
# Failures

Everything that can end a run before its result is there, and how it is reported.  The
conversion of one element is aborted by a `ConversionError`; the commands that are
recognized and ignored are no errors, but `Diagnostic`s.  Which causes a function can
have shows in its type; whoever combines several functions uses the sum of them,
`Failure`.
-/

namespace SvgDrawing

open Text

/-! ## Elements -/

/-- A cause that aborts the conversion of one element. -/
inductive ConversionError where
  /-- There is no number where one is required, or one too large for a double. -/
  | malformedNumber (text : String)
  /-- A command has a number of values that it cannot use up. -/
  | arityMismatch (command : String) (expected received : Nat)
  /-- A required attribute is absent (`none`) or has an unusable value. -/
  | requiredAttribute (name : String) (value : Option String)
  /-- A polygon has no points. -/
  | emptyPolygon
  deriving DecidableEq

/-- The report of a cause. -/
def ConversionError.message : ConversionError → String
  | malformedNumber text => "Expected a number, found " ++ quote text
  | arityMismatch command expected received =>
    "Command " ++ quote command ++ " expects a multiple of " ++ toString expected ++
      " values (at least " ++ toString expected ++ "), got " ++ toString received
  | requiredAttribute name none => "Missing required attribute " ++ quote name
  | requiredAttribute name (some value) =>
    "Attribute " ++ quote name ++ " is not numeric: " ++ quote value
  | emptyPolygon => "Polygon has no points"

/-- A command of path data that draws nothing, with its arguments. -/
structure Diagnostic where
  command : String
  arguments : String
  deriving DecidableEq

/-- The report of an ignored command. -/
def Diagnostic.message (d : Diagnostic) : String :=
  "Unsupported path command " ++ Text.quote d.command ++ " ignored"

/-! ## Runs -/

/-- Why a text is not read as a document. -/
inductive MarkupError where
  /-- The text is not a well-formed document. -/
  | notWellFormed
  /-- The document declares an entity, which is refused before anything refers to it. -/
  | entityDeclared (name : String) (systemId publicId : Option String)
  deriving DecidableEq

/-- Why an operation is not rendered. -/
inductive RenderError where
  /-- Rounding a coordinate to the wanted precision leaves the finite doubles. -/
  | overflow
  /-- What is to be rendered is no operation. -/
  | unknownOperation (name : String)
  deriving DecidableEq

/-- What is wrong with bytes that are not UTF-8. -/
inductive DecodingFault where
  | invalidStart
  | invalidContinuation
  | unexpectedEnd
  deriving DecidableEq

/-- The first fault in bytes that are not UTF-8: `count` bytes from `position` on, the first
of them being `byte`. -/
structure DecodingError where
  byte : UInt8
  position : Nat
  count : Nat
  fault : DecodingFault
  deriving DecidableEq

/-- Why a file or a folder cannot be used. -/
inductive StorageError where
  | notFound (path : String)
  | alreadyExists (path : String)
  | notADirectory (path : String)
  | isADirectory (path : String)
  | nameTooLong (path : String)
  | nulCharacter
  deriving DecidableEq

/-- What a run needs and was given no value for. -/
inductive AbsentValue where
  | iconFolder
  | outputFolder
  | indexName
  | precision
  | logLevel
  deriving DecidableEq

/-- A cause that ends a run. -/
inductive Failure where
  | conversion (e : ConversionError)
  | markup (e : MarkupError)
  | render (e : RenderError)
  | decoding (e : DecodingError)
  | storage (e : StorageError)
  | invalidPolicy (text : String)
  | absent (value : AbsentValue)
  deriving DecidableEq

namespace MarkupError

/-- An optional text in a message. -/
def optionText : Option String → String
  | none => "None"
  | some s => quote s

/-- The report of a refused document. -/
def message : MarkupError → String
  | notWellFormed => "not well-formed"
  | entityDeclared name systemId publicId =>
    "EntitiesForbidden(name='" ++ name ++ "', system_id=" ++ optionText systemId ++
      ", public_id=" ++ optionText publicId ++ ")"

end MarkupError

/-- The report of an operation that cannot be rendered. -/
def RenderError.message : RenderError → String
  | overflow => "rounded value too large to represent"
  | unknownOperation name => "Unknown drawing operation " ++ quote name

/-- The wording of a fault. -/
def DecodingFault.message : DecodingFault → String
  | invalidStart => "invalid start byte"
  | invalidContinuation => "invalid continuation byte"
  | unexpectedEnd => "unexpected end of data"

/-- The report of undecodable bytes: one byte is shown, several are counted. -/
def DecodingError.message (e : DecodingError) : String :=
  let place :=
    if e.count = 1 then
      "byte 0x" ++ String.ofList (hex 2 e.byte.toNat) ++ " in position " ++ toString e.position
    else
      "bytes in position " ++ toString e.position ++ "-" ++ toString (e.position + e.count - 1)
  "'utf-8' codec can't decode " ++ place ++ ": " ++ e.fault.message

/-- The report of an unusable file, with the number of its kind. -/
def StorageError.message : StorageError → String
  | notFound path => "[Errno 2] No such file or directory: " ++ quote path
  | alreadyExists path => "[Errno 17] File exists: " ++ quote path
  | notADirectory path => "[Errno 20] Not a directory: " ++ quote path
  | isADirectory path => "[Errno 21] Is a directory: " ++ quote path
  | nameTooLong path => "[Errno 36] File name too long: " ++ quote path
  | nulCharacter => "embedded null byte"

/-- The report of an absent value.  It is noticed by the first use of the value, and the
report says what that use would have needed. -/
def AbsentValue.message : AbsentValue → String
  | iconFolder => "'list' object has no attribute 'is_dir'"
  | outputFolder => "'list' object has no attribute 'mkdir'"
  | indexName => "expected string or bytes-like object, got 'list'"
  | precision => "'list' object cannot be interpreted as an integer"
  | logLevel => "'list' object has no attribute 'upper'"

/-- The report of a failure. -/
def Failure.message : Failure → String
  | conversion e => e.message
  | markup e => e.message
  | render e => e.message
  | decoding e => e.message
  | storage e => e.message
  | invalidPolicy text => "Invalid error policy " ++ quote text
  | absent value => value.message

end SvgDrawing
