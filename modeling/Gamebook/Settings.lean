import Gamebook.Disk.Path
import Gamebook.Export.Artifact
import Gamebook.Log
import Gamebook.Number.Numeral

/-!
# Settings

The settings are read from variables. A variable that is missing or blank leaves
its standard. The format is checked first, then the log level, the storage
directory, the indent and the number of attempts; the first one that cannot be
used is the fault.
-/

namespace Gamebook

/-- What surrounds the program: its variables and the home directories. -/
structure Surroundings where
  environment : Entries String := []
  homes : Disk.Path.Homes
  deriving Repr

/-- The settings of the program. -/
structure Settings where
  /-- Where projects are kept; nowhere but in memory when there is none. -/
  storage : Option Disk.Path := none
  format : ExportFormat := .json
  indent : Nat := 2
  logLevel : LogLevel := .info
  attempts : Nat := 3
  deriving DecidableEq, Repr

namespace Settings

/-- The variable of the export format. -/
def formatVariable : String := "STORYFORGE_EXPORT_FORMAT"

/-- The variable of the log level. -/
def levelVariable : String := "STORYFORGE_LOG_LEVEL"

/-- The variable of the storage directory. -/
def storageVariable : String := "STORYFORGE_STORAGE_DIR"

/-- The variable of the indent of documents. -/
def indentVariable : String := "STORYFORGE_JSON_INDENT"

/-- The variable of the number of attempts. -/
def attemptsVariable : String := "STORYFORGE_LLM_MAX_ATTEMPTS"

/-- Why the variables give no settings. -/
inductive Fault
  | format
  | level (name : String)
  | noHome
  | notWhole (key : String)
  | tooSmall (key : String) (least : Nat)
  deriving DecidableEq, Repr

/-- The fault as a sentence. -/
def Fault.message : Fault → String
  | .format => formatVariable ++ " must be one of: " ++ ExportFormat.nameList ++ "."
  | .level name => levelVariable ++ " " ++ Text.quoted name ++ " is not a logging level."
  | .noHome => "Could not determine home directory."
  | .notWhole key => key ++ " must be an integer."
  | .tooSmall key least => key ++ " must be at least " ++ Nat.repr least ++ "."

/-- The trimmed text of a variable, unless it is missing or blank. -/
def filled? (environment : Entries String) (key : String) : Option String :=
  ((environment.get? key).map Text.trim).filter fun text => !text.isEmpty

/-- The export format that the variables name. -/
def readFormat (environment : Entries String) : Except Fault ExportFormat :=
  match filled? environment formatVariable with
  | none => .ok .json
  | some name =>
    match ExportFormat.ofName? (Text.lower name) with
    | some format => .ok format
    | none => .error .format

/-- The log level that the variables name, in any letter case. -/
def readLevel (environment : Entries String) : Except Fault LogLevel :=
  match filled? environment levelVariable with
  | none => .ok .info
  | some name =>
    match LogLevel.ofName? (Text.upper name) with
    | some level => .ok level
    | none => .error (.level (Text.upper name))

/-- The storage directory that the variables name. -/
def readStorage (surroundings : Surroundings) : Except Fault (Option Disk.Path) :=
  match filled? surroundings.environment storageVariable with
  | none => .ok none
  | some text =>
    match (Disk.Path.ofText text).expandHome surroundings.homes with
    | some path => .ok (some path)
    | none => .error .noHome

/-- A whole number that the variables give, not below a least one. -/
def readWhole (environment : Entries String) (key : String) (standard least : Nat) :
    Except Fault Nat :=
  match filled? environment key with
  | none => .ok standard
  | some text =>
    match Numeral.read text with
    | .error _ => .error (.notWhole key)
    | .ok number =>
      if number < least then .error (.tooSmall key least) else .ok number.toNat

/-- The settings that the surroundings give. -/
def read (surroundings : Surroundings) : Except Fault Settings := do
  let environment := surroundings.environment
  let format ← readFormat environment
  let level ← readLevel environment
  let storage ← readStorage surroundings
  let indent ← readWhole environment indentVariable 2 0
  let attempts ← readWhole environment attemptsVariable 3 1
  .ok ⟨storage, format, indent, level, attempts⟩

end Settings

end Gamebook
