import SvgDrawing.Failure

/-!
# The log

Conversion reports what it does and what it leaves out as a list of entries, in the
order of events.  Entries are values, kept beside a result in `Logged`; nothing is
printed.
-/

namespace SvgDrawing.Log

/-- Severities from the least to the most severe. -/
inductive Level where
  | debug
  | info
  | warning
  | error
  | critical
  deriving DecidableEq

namespace Level

/-- The position of a severity in their order. -/
def rank : Level → Nat
  | debug => 0
  | info => 1
  | warning => 2
  | error => 3
  | critical => 4

/-- The name of a severity. -/
def name : Level → String
  | debug => "DEBUG"
  | info => "INFO"
  | warning => "WARNING"
  | error => "ERROR"
  | critical => "CRITICAL"

/-- All severities, in order. -/
def all : List Level := [debug, info, warning, error, critical]

end Level

/-- One line of the log. -/
structure Entry where
  level : Level
  message : String
  deriving DecidableEq

/-- The entries that a log with the given threshold keeps. -/
def atLeast (threshold : Level) (log : List Entry) : List Entry :=
  log.filter fun e => threshold.rank ≤ e.level.rank

/-- Ignored commands are worth a warning. -/
def ofDiagnostic (d : Diagnostic) : Entry :=
  ⟨.warning, d.message ++ " (arguments: " ++ Text.quote d.arguments ++ ")"⟩

end SvgDrawing.Log

namespace SvgDrawing

/-- A result and the log written on the way to it. -/
structure Logged (ε α : Type) where
  log : List Log.Entry
  result : Except ε α

end SvgDrawing
