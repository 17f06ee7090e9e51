import SvgDrawing.Log
import SvgDrawing.Text.Pieces

/-!
# The options of the command line

What the program can be told, its `Options`, and how it explains itself: by `usage` and
`help`, and by the message of a `UsageError` if something is wrong with the arguments.
-/

namespace SvgDrawing.CommandLine

/-- The options. -/
inductive OptionName where
  | help
  | precision
  | skipErrors
  | logLevel
  deriving DecidableEq

namespace OptionName

/-- The long name of an option, which may be shortened. -/
def long : OptionName → String
  | help => "--help"
  | precision => "--precision"
  | skipErrors => "--skip-errors"
  | logLevel => "--loglevel"

/-- The name of an option in messages. -/
def display : OptionName → String
  | help => "-h/--help"
  | o => o.long

/-- The options in the order of the help text. -/
def all : List OptionName := [help, precision, skipErrors, logLevel]

end OptionName

/-- The values of all options.  An option that was given may have an absent value. -/
structure Options where
  precision : Option Int := some 5
  skipErrors : Bool := false
  logLevel : Option Log.Level := some .warning

/-- The names of the arguments that are not options, in order. -/
def positionalNames : List String := ["icon_folder", "framework_name", "output_dir"]

/-! ## Explanations -/

/-- How the program is called. -/
def usage : String :=
  "usage: quartz-svg [-h] [--precision PRECISION] [--skip-errors]\n" ++
  "                  [--loglevel \x7bDEBUG,INFO,WARNING,ERROR,CRITICAL\x7d]\n" ++
  "                  icon_folder framework_name output_dir\n"

/-- What the program does and what its arguments mean. -/
def help : String :=
  usage ++
  "\nRender a folder of SVG icons as Swift CoreGraphics code.\n" ++
  "\npositional arguments:\n" ++
  "  icon_folder           Folder with *.svg icons.\n" ++
  "  framework_name        Name of the enum listing all icons.\n" ++
  "  output_dir            Folder the Swift files are written to.\n" ++
  "\noptions:\n" ++
  "  -h, --help            show this help message and exit\n" ++
  "  --precision PRECISION\n" ++
  "                        Decimal places of the coordinates (default: 5)\n" ++
  "  --skip-errors         Leave out elements that cannot be converted instead of\n" ++
  "                        failing.\n" ++
  "  --loglevel \x7bDEBUG,INFO,WARNING,ERROR,CRITICAL\x7d\n" ++
  "                        Set the logging level (default: WARNING)\n"

/-! ## Errors -/

/-- What can be wrong with the arguments. -/
inductive UsageError where
  | ambiguous (argument : String) (candidates : List OptionName)
  | missingValue (option : OptionName)
  | unwantedValue (option : OptionName) (value : String)
  | invalidInteger (option : OptionName) (value : String)
  | invalidChoice (option : OptionName) (value : String) (choices : List String)
  | required (names : List String)
  | unrecognized (arguments : List String)
  | notAFolder (path : String)

open Text in
/-- The report of wrong arguments. -/
def UsageError.message : UsageError → String
  | ambiguous argument candidates =>
    "ambiguous option: " ++ argument ++ " could match " ++
      joined ", " (candidates.map OptionName.long)
  | missingValue option => "argument " ++ option.display ++ ": expected one argument"
  | unwantedValue option value =>
    "argument " ++ option.display ++ ": ignored explicit argument " ++ quote value
  | invalidInteger option value =>
    "argument " ++ option.display ++ ": invalid int value: " ++ quote value
  | invalidChoice option value choices =>
    "argument " ++ option.display ++ ": invalid choice: " ++ quote value ++ " (choose from " ++
      joined ", " (choices.map quote) ++ ")"
  | required names => "the following arguments are required: " ++ joined ", " names
  | unrecognized arguments => "unrecognized arguments: " ++ joined " " arguments
  | notAFolder path => path ++ " is not a folder"

/-- The full report, with the usage in front. -/
def UsageError.report (e : UsageError) : String :=
  usage ++ "quartz-svg: error: " ++ e.message ++ "\n"

end SvgDrawing.CommandLine
