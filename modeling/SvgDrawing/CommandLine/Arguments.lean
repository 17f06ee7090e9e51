import SvgDrawing.CommandLine.Options
import SvgDrawing.Text.Pieces

/-!
# Reading the arguments

Options may stand anywhere among the other arguments, their names may be shortened as
long as only one option begins so, and their values follow after an equals sign or as
the next argument.  Two hyphens alone end the options.  A negative number is a value,
and so is anything with a space in it that names no option.

The short name of an option may have others right after it, in one argument, if all of
them do without a value.  There is one such name, so it can only be repeated.

Each argument that is no option gets its value and the separator beside it, if there is
one, and two hyphens are taken away from that.  Where they were all that was given,
nothing is left: the argument is there and its value absent.  So is the value of an
option if two hyphens stand after its equals sign.

The arguments are told apart first, all of them, by `classify`, and carried out in order
then, by `parse`.  The first error ends the reading, and so does a request for help.
Only at the end it is seen whether an argument is missing or too much.
-/

namespace SvgDrawing.CommandLine

open Text

/-! ## Telling arguments apart -/

/-- What an argument is.  An option may come with a value after an equals sign, and the short
name for help with text right after it or after an equals sign. -/
inductive Item where
  | value (text : String)
  | separator
  | lateValue (text : String)
  | option (name : OptionName) (attached : Option String)
  | shortNames (text : List Char)
  | unknownOption (text : String)

/-- A negative number, perhaps with a line end after it. -/
def isNegativeNumber (s : List Char) : Bool :=
  match s with
  | '-' :: digits =>
    let digits := if digits.getLast? = some '\n' then digits.dropLast else digits
    let whole := digits.takeWhile isDigit
    match digits.dropWhile isDigit with
    | [] => !whole.isEmpty
    | '.' :: fraction => !fraction.isEmpty && fraction.all isDigit
    | _ => false
  | _ => false

/-- An argument with hyphens in front that names no option. -/
def unnamed (s : String) : Item :=
  if isNegativeNumber s.toList || s.toList.contains ' ' then .value s else .unknownOption s

/-- What an argument is that does not come after the separator. -/
def classifyOne (s : String) : Except UsageError Item :=
  match s.toList with
  | ['-', '-'] => .ok .separator
  | '-' :: '-' :: _ =>
    let (name, value) := cutAt '=' s.toList
    let attached := if s.toList.contains '=' then some (String.ofList value) else none
    match OptionName.all.filter fun o => name.isPrefixOf o.long.toList with
    | [] => .ok (unnamed s)
    | [o] => .ok (.option o attached)
    | several => .error (.ambiguous s several)
  | ['-', 'h'] => .ok (.option .help none)
  | '-' :: 'h' :: '=' :: text => .ok (.shortNames text)
  | '-' :: 'h' :: text => .ok (.shortNames text)
  | '-' :: _ :: _ => .ok (unnamed s)
  | _ => .ok (.value s)

/-- What each argument is.  After the separator there are late values only. -/
def classify : List String → Except UsageError (List Item)
  | [] => .ok []
  | s :: rest => do
    match ← classifyOne s with
    | .separator => return .separator :: rest.map .lateValue
    | item => return item :: (← classify rest)

/-! ## Carrying them out -/

/-- What the arguments say. -/
inductive Outcome where
  | help
  | error (e : UsageError)
  | run (values : List (Option String)) (options : Options)

/-- What has been read: the values, the options, and what belongs to neither.  `filled` says
whether the last argument was a value that is among `values`, and `leading` whether it was
the separator and goes with the next value. -/
structure Reading where
  values : List (Option String) := []
  options : Options := {}
  extras : List String := []
  filled : Bool := false
  leading : Bool := false

namespace Reading

/-- The argument just read is no value. -/
def moved (r : Reading) : Reading := { r with filled := false }

/-- Some of the arguments that are not options are still to come. -/
def wants (r : Reading) : Bool := r.values.length < positionalNames.length

/-- One more argument that is no option, or one too many. -/
def addValue (r : Reading) (s : String) : Reading :=
  if r.wants then { r with values := r.values ++ [some s], filled := true }
  else { r with extras := r.extras ++ [s], filled := false }

/-- What is left of a value when two hyphens are taken away from it. -/
def withoutHyphens (s : String) : Option String := if s = "--" then none else some s

/-- One more argument after the separator.  Two hyphens are taken away from it, unless they
were taken away as the separator in front of it. -/
def addLateValue (r : Reading) (s : String) : Reading :=
  if r.wants then
    { r with
      values := r.values ++ [if r.leading then some s else withoutHyphens s]
      leading := false }
  else { r with extras := r.extras ++ [s], leading := false }

/-- One more argument that is not understood. -/
def addExtra (r : Reading) (s : String) : Reading :=
  { r with extras := r.extras ++ [s], filled := false }

/-- The separator goes with the value in front of it, else with the next one if that is
wanted. -/
def addSeparator (r : Reading) : Reading :=
  if r.filled then r
  else if r.wants then { r with leading := true }
  else r.addExtra "--"

/-- The value of an option.  Two hyphens are taken away from it, too. -/
def setOption (r : Reading) (o : OptionName) (text : String) : Except UsageError Reading :=
  match o, withoutHyphens text with
  | .precision, none => .ok { r.moved with options := { r.options with precision := none } }
  | .precision, some value =>
    match integer? value with
    | some n => .ok { r.moved with options := { r.options with precision := some n } }
    | none => .error (.invalidInteger o value)
  | .logLevel, none => .ok { r.moved with options := { r.options with logLevel := none } }
  | .logLevel, some value =>
    match Log.Level.all.find? (·.name = value) with
    | some level => .ok { r.moved with options := { r.options with logLevel := some level } }
    | none => .error (.invalidChoice o value (Log.Level.all.map (·.name)))
  | .help, _ | .skipErrors, _ => .error (.unwantedValue o text)

/-- What the end of the arguments makes of what was read. -/
def outcome (r : Reading) : Outcome :=
  if r.wants then .error (.required (positionalNames.drop r.values.length))
  else if !r.extras.isEmpty then .error (.unrecognized r.extras)
  else .run r.values r.options

end Reading

/-- What `-h` means with more text: help if that repeats the name and nothing else.  The text
that is no such name would have to be a value. -/
def shortHelp (text : List Char) : Outcome :=
  match text, text.dropWhile (· == 'h') with
  | _ :: _, [] => .help
  | _, value => .error (.unwantedValue .help (String.ofList value))

/-- Carries out arguments in order. -/
def carryOut (r : Reading) : List Item → Outcome
  | [] => r.outcome
  | .value s :: rest => carryOut (r.addValue s) rest
  | .separator :: rest => carryOut r.addSeparator rest
  | .lateValue s :: rest => carryOut (r.addLateValue s) rest
  | .unknownOption s :: rest => carryOut (r.addExtra s) rest
  | .shortNames text :: _ => shortHelp text
  | .option .help none :: _ => .help
  | .option .skipErrors none :: rest =>
    carryOut { r.moved with options := { r.options with skipErrors := true } } rest
  | .option o (some s) :: rest =>
    match r.setOption o s with
    | .ok r => carryOut r rest
    | .error e => .error e
  | .option o none :: .value s :: rest =>
    match r.setOption o s with
    | .ok r => carryOut r rest
    | .error e => .error e
  | .option o none :: _ => .error (.missingValue o)

/-- What the arguments as a whole say. -/
def parse (arguments : List String) : Outcome :=
  match classify arguments with
  | .error e => .error e
  | .ok items => carryOut {} items

end SvgDrawing.CommandLine
