import Gamebook.CommandLine.Token
import Gamebook.Disk.Path
import Gamebook.Entries

/-!
# Arguments

The arguments name a command, its project file and its options. Options before the
command belong to the program, those after it to the command. Arguments that
cannot be understood are refused as a whole: a missing or unknown command, a
missing file, an option without its value or with one too many, and anything left
over. Asking for help ends reading at once.
-/

namespace Gamebook.CommandLine

/-- What the program is asked to do. -/
inductive Command
  | validate (project : Disk.Path)
  | export (project : Disk.Path) (format : Option String) (output : Option Disk.Path)
  | analyse (project : Disk.Path)
  | play (project : Disk.Path) (choices : Option String)
  deriving DecidableEq, Repr

/-- The project file of a command. -/
def Command.project : Command → Disk.Path
  | .validate path => path
  | .export path _ _ => path
  | .analyse path => path
  | .play path _ => path

/-- A command and the log level that was asked for. -/
structure Arguments where
  level : Option String
  command : Command
  deriving DecidableEq, Repr

/-- Why arguments name no command. -/
inductive Refusal
  | help
  | unusable
  deriving DecidableEq, Repr

/-! ## Options -/

/-- The option that asks for help. -/
def helpSwitch : Switch := ⟨["-h", "--help"], false⟩

/-- The option of the log level. -/
def levelSwitch : Switch := ⟨["--log-level"], true⟩

/-- The option of the export format. -/
def formatSwitch : Switch := ⟨["-f", "--format"], true⟩

/-- The option of the output file. -/
def outputSwitch : Switch := ⟨["-o", "--output"], true⟩

/-- The option of the choices to replay. -/
def choicesSwitch : Switch := ⟨["--choices"], true⟩

/-- The names of the commands. -/
inductive CommandName
  | validate
  | export
  | analyse
  | play
  deriving DecidableEq, Repr

/-- The command with this name. -/
def CommandName.ofText? : String → Option CommandName
  | "validate" => some .validate
  | "export" => some .export
  | "analyse" => some .analyse
  | "play" => some .play
  | _ => none

/-- The options of a command. -/
def CommandName.switches : CommandName → List Switch
  | .validate => [helpSwitch]
  | .export => [helpSwitch, formatSwitch, outputSwitch]
  | .analyse => [helpSwitch]
  | .play => [helpSwitch, choicesSwitch]

/-! ## Reading -/

/-- What has been read of the arguments of a command. -/
structure Draft where
  file : Option String := none
  values : List (Switch × String) := []
  isClean : Bool := true
  deriving DecidableEq, Repr

/-- The draft with a value for an option. -/
def Draft.set (draft : Draft) (switch : Switch) (value : String) : Draft :=
  { draft with values := draft.values ++ [(switch, value)] }

/-- Reads the tokens of a command. A double dash next to the file belongs to it. -/
def readTokens (draft : Draft) : List Token → Except Refusal Draft
  | [] => .ok draft
  | .unknown :: rest => readTokens { draft with isClean := false } rest
  | .divider :: rest =>
    match draft.file, rest with
    | none, .word text :: rest => readTokens { draft with file := some text } rest
    | _, rest => readTokens { draft with isClean := false } rest
  | .word text :: rest =>
    match draft.file, rest with
    | some _, rest => readTokens { draft with isClean := false } rest
    | none, .divider :: rest => readTokens { draft with file := some text } rest
    | none, rest => readTokens { draft with file := some text } rest
  | .known switch attached :: rest =>
    if !switch.takesValue then .error (if attached.isSome then .unusable else .help)
    else
      match attached, rest with
      | some value, rest => readTokens (draft.set switch value) rest
      | none, .word value :: rest => readTokens (draft.set switch value) rest
      | none, _ => .error .unusable

/-- The last value that was given for an option. -/
def Draft.value? (draft : Draft) (switch : Switch) : Option String :=
  (draft.values.reverse.find? fun given => given.1 == switch).map (·.2)

/-- The command that a name and what was read after it ask for. -/
def Draft.command (draft : Draft) (name : CommandName) (file : String) : Command :=
  let path := Disk.Path.ofText file
  match name with
  | .validate => .validate path
  | .export =>
    .export path (draft.value? formatSwitch) ((draft.value? outputSwitch).map Disk.Path.ofText)
  | .analyse => .analyse path
  | .play => .play path (draft.value? choicesSwitch)

/-- Reads the arguments after the name of a command. -/
def readCommand (name : CommandName) (arguments : List String) : Except Refusal Command :=
  match tokens name.switches arguments with
  | none => .error .unusable
  | some tokens =>
    match readTokens {} tokens with
    | .error refusal => .error refusal
    | .ok draft =>
      match draft.file with
      | none => .error .unusable
      | some file => if draft.isClean then .ok (draft.command name file) else .error .unusable

/-- What has been read of the arguments before the name of the command. -/
structure Prelude where
  level : Option String := none
  isClean : Bool := true
  deriving DecidableEq, Repr

/-- Reads the command that a word begins. -/
def readRest (start : Prelude) (word : String) (arguments : List String) :
    Except Refusal Arguments :=
  match CommandName.ofText? word with
  | none => .error .unusable
  | some name =>
    match readCommand name arguments with
    | .error refusal => .error refusal
    | .ok command => if start.isClean then .ok ⟨start.level, command⟩ else .error .unusable

/-- Reads the tokens up to the name of the command; the arguments stand beside their tokens. -/
def readPrelude (start : Prelude) : List (String × Token) → Except Refusal Arguments
  | [] => .error .unusable
  | (_, .divider) :: _ => .error .unusable
  | (_, .unknown) :: rest => readPrelude { start with isClean := false } rest
  | (_, .word word) :: rest => readRest start word (rest.map (·.1))
  | (_, .known switch attached) :: rest =>
    if !switch.takesValue then .error (if attached.isSome then .unusable else .help)
    else
      match attached, rest with
      | some value, rest => readPrelude { start with level := some value } rest
      | none, (_, .word value) :: rest => readPrelude { start with level := some value } rest
      | none, _ => .error .unusable

/-- The command that arguments ask for. -/
def readArguments (arguments : List String) : Except Refusal Arguments :=
  match tokens [helpSwitch, levelSwitch] arguments with
  | none => .error .unusable
  | some tokens => readPrelude {} (arguments.zip tokens)

end Gamebook.CommandLine
