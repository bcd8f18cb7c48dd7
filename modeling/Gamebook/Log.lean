/-!
# Log

A record has a weight, the area it comes from and a sentence. A log shows the
records that weigh at least as much as a threshold, each on a line of its own.
-/

namespace Gamebook

/-- The name under which the program records and presents itself. -/
def programName : String := "storyforge"

/-- The names of thresholds. Two pairs of names mean the same weight. -/
inductive LogLevel
  | critical
  | fatal
  | error
  | warn
  | warning
  | info
  | debug
  | unset
  deriving DecidableEq, Repr

namespace LogLevel

/-- The levels in order. -/
def all : List LogLevel := [.critical, .fatal, .error, .warn, .warning, .info, .debug, .unset]

/-- The name of a level. -/
def name : LogLevel → String
  | .critical => "CRITICAL"
  | .fatal => "FATAL"
  | .error => "ERROR"
  | .warn => "WARN"
  | .warning => "WARNING"
  | .info => "INFO"
  | .debug => "DEBUG"
  | .unset => "NOTSET"

/-- The level with exactly this name. -/
def ofName? (name : String) : Option LogLevel := all.find? fun level => level.name == name

/-- How much a level weighs. -/
def weight : LogLevel → Nat
  | .critical => 50
  | .fatal => 50
  | .error => 40
  | .warn => 30
  | .warning => 30
  | .info => 20
  | .debug => 10
  | .unset => 0

end LogLevel

/-- One entry of a log. -/
structure LogRecord where
  level : LogLevel
  area : String
  message : String
  deriving DecidableEq, Repr

/-- The line of a record. -/
def LogRecord.line (record : LogRecord) : String :=
  record.level.name ++ " " ++ programName ++ "." ++ record.area ++ ": " ++ record.message ++ "\n"

/-- The lines of the records that reach a threshold. -/
def logText (threshold : LogLevel) (records : List LogRecord) : String :=
  String.join ((records.filter fun record =>
    decide (threshold.weight ≤ record.level.weight)).map LogRecord.line)

end Gamebook
