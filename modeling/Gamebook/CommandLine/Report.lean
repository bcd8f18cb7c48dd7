import Gamebook.Analysis.Metrics
import Gamebook.CommandLine.Arguments
import Gamebook.Console
import Gamebook.Disk
import Gamebook.Settings
import Gamebook.Story.Document
import Gamebook.Text.Line
import Gamebook.Text.Utf8

/-!
# What a command reports

A command reads one project and reports what it shows, what it records and how it
ends: with a status, or broken off by a fault. The status is 0 when all is well, 1
when the project or the replay is refused, and 2 when the input cannot be used. A
command that writes a file gives the text to write; what is shown afterwards
stands apart, because a file that cannot be written ends the command.
-/

namespace Gamebook.CommandLine

/-- Why a command breaks off. -/
inductive Fault
  | noHome
  | unknownLevel (name : String)
  | invalid (issues : List Issue)
  | number (fault : NumberFault)
  | write (fault : Schema.WriteFault)
  | print (fault : Json.PrintFault)
  | disk (fault : Disk.Fault)
  | encoding (fault : Text.HalfFault)
  deriving DecidableEq, Repr

/-- The fault as a sentence. -/
def Fault.message : Fault → String
  | .noHome => Settings.Fault.noHome.message
  | .unknownLevel name => "Unknown level: " ++ Text.quoted name
  | .invalid issues => failureText (issues.map (·.message))
  | .number fault => fault.message
  | .write fault => fault.message
  | .print fault => fault.message
  | .disk fault => fault.message
  | .encoding fault => fault.message

/-- What a command leaves behind. -/
structure Report where
  /-- What is shown. -/
  output : String := ""
  /-- What is recorded. -/
  records : List LogRecord := []
  /-- What is shown as an error after the records. -/
  complaint : String := ""
  /-- The file to write and what is shown once it is written. -/
  file : Option (Disk.Path × String × String) := none
  /-- Whether it ended only because no answer was left. -/
  wantsAnswer : Bool := false
  ending : Except Fault Nat := .ok 0

namespace Report

/-- A report that ends with a status after showing lines. -/
def showing (lines : List String) (status : Nat) : Report :=
  { output := Console.lineText lines, ending := .ok status }

/-- A report that a fault breaks off. -/
def broken (fault : Fault) : Report := { ending := .error fault }

/-- A report of an input that cannot be used. -/
def unusable (sentence : String) : Report := { complaint := sentence ++ "\n", ending := .ok 2 }

/-- A report with records in front of its own. -/
def after (records : List LogRecord) (report : Report) : Report :=
  { report with records := records ++ report.records }

end Report

/-! ## The project -/

/-- The project that the bytes of a file hold, or what is wrong with the file. -/
def projectOf (now : Moment) (path : Disk.Path) (bytes : ByteArray) : Except String Project :=
  match Text.decodeUtf8 bytes with
  | .error fault => .error ("'" ++ path.text ++ "' is not UTF-8 text: " ++ fault.message)
  | .ok text =>
    let source := String.ofList (Text.unifyReturns text.toList)
    (Project.ofText now source).mapError fun mismatch =>
      "'" ++ path.text ++ "' is not a valid project file: " ++ mismatch.message

/-- The record of reading a project. -/
def loadRecord (project : Project) (path : Disk.Path) : LogRecord :=
  ⟨.debug, "cli", "Loaded project " ++ project.id ++ " from " ++ path.text⟩

/-- The record of finding issues; none when there are none. -/
def validationRecords (project : Project) : List LogRecord :=
  let report := Validation.report project
  if report.issues.isEmpty then []
  else
    [⟨.debug, "validation", "Validated project " ++ project.id ++ ": " ++
      Nat.repr report.errors.length ++ " error(s), " ++ Nat.repr report.warnings.length ++
      " warning(s)"⟩]

/-! ## Validating -/

/-- A text filled with blanks at the end up to a width. -/
def padded (width : Nat) (text : String) : String :=
  text ++ String.ofList (List.replicate (width - text.length) ' ')

/-- Where an issue is. -/
def placeText (issue : Issue) : String :=
  (match issue.sceneId with
    | some id => if id.isEmpty then "-" else id
    | none => "-") ++
  match issue.choiceId with
  | some id => if id.isEmpty then "" else "/" ++ id
  | none => ""

/-- The line of an issue. -/
def issueLine (issue : Issue) : String :=
  padded 8 (Text.upper issue.severity.name) ++ " " ++ padded 24 issue.code.name ++ " " ++
    placeText issue ++ ": " ++ issue.message

/-- Reports the issues of a project. -/
def validate (project : Project) : Report :=
  let report := Validation.report project
  let summary := project.name ++ ": " ++ Nat.repr report.errors.length ++ " error(s), " ++
    Nat.repr report.warnings.length ++ " warning(s)"
  let status := if report.isValid then 0 else 1
  (Report.showing (report.issues.map issueLine ++ [summary]) status).after
    (validationRecords project)

/-! ## Exporting -/

/-- The records of writing a project in a format. A document leaves none. -/
def exportRecords (project : Project) (format : ExportFormat) (artifact : String) :
    List LogRecord :=
  let done : LogRecord :=
    ⟨.info, "exporters", "Exported project " ++ project.id ++ " as " ++ format.name ++ " (" ++
      Nat.repr artifact.length ++ " characters)"⟩
  let dropped := Script.droppedRules project
  match format with
  | .json => []
  | .html => [done]
  | .twine =>
    if dropped = 0 then [done]
    else
      [⟨.info, "exporters.twine_format", "Twine export of project " ++ project.id ++ " dropped " ++
        Nat.repr dropped ++ " requirement/consequence rule(s)"⟩, done]

/-- The records of validating before an export. A document is not validated. -/
def checkRecords (project : Project) : ExportFormat → List LogRecord
  | .json => []
  | _ => validationRecords project

/-- Reports an artifact: shown, or as a file to write. -/
def deliver (format : ExportFormat) (artifact : String) : Option Disk.Path → Report
  | none => { output := artifact }
  | some path =>
    { file := some (path, artifact,
        "Wrote " ++ format.name ++ " export to " ++ path.text ++ "\n") }

/-- Reports the refusal of an export. -/
def refuseExport (project : Project) (format : ExportFormat) (issues : List Issue) : Report :=
  Report.showing
    (("Cannot export '" ++ project.name ++ "' as " ++ format.name ++ ":") ::
      issues.map fun issue => "- [" ++ issue.code.name ++ "] " ++ issue.message) 1

/-- Writes a project in a format. -/
def exportAs (settings : Settings) (project : Project) (format : ExportFormat)
    (output : Option Disk.Path) : Report :=
  (match Export.artifactWith settings.indent project format with
    | .error (.write fault) => Report.broken (.write fault)
    | .error (.print fault) => Report.broken (.print fault)
    | .error (.invalid issues) => refuseExport project format issues
    | .ok artifact =>
      (deliver format artifact output).after (exportRecords project format artifact)).after
    (checkRecords project format)

/-- Writes a project in the format that was asked for, or else in that of the settings. -/
def «export» (settings : Settings) (project : Project) (wanted : Option String)
    (output : Option Disk.Path) : Report :=
  match wanted.filter fun name => !name.isEmpty with
  | none => exportAs settings project settings.format output
  | some name =>
    match ExportFormat.ofValue (.text name) with
    | .ok format => exportAs settings project format output
    | .error fault => Report.unusable fault.message

/-! ## Analysing -/

/-- Reports the figures and the reachable scenes of a project. -/
def analyse (project : Project) : Report :=
  Report.showing
    [(Metrics.report project).text, "", (Reachability.report project).text] 0

/-! ## Playing -/

/-- The choices that a list between commas names. -/
def choiceIds (list : String) : List String :=
  ((Text.split ',' list).map Text.trim).filter fun id => !id.isEmpty

/-- The lines of stored values in order of their keys, up to one that cannot be shown. -/
def valueLines (values : Entries Scalar) : List String → List String × Except NumberFault Unit
  | [] => ([], .ok ())
  | key :: rest =>
    match values.get? key with
    | none => valueLines values rest
    | some value =>
      match (Value.ofScalar value).shown with
      | .error fault => ([], .error fault)
      | .ok text =>
        let (lines, result) := valueLines values rest
        (("  " ++ key ++ " = " ++ text) :: lines, result)

/-- Reports the state after a replay. -/
def stateReport (state : PlayerState) : Report :=
  let (lines, result) := valueLines state.values (sortTexts state.values.keys)
  { output := Console.lineText
      (("Scene: " ++ state.sceneId ++ " (" ++ state.status.name ++ ")") :: lines)
    ending :=
      match result with
      | .ok () => .ok 0
      | .error fault => .error (.number fault) }

/-- Replays choices. -/
def replay (project : Project) (ids : List String) : Report :=
  (match project.replay ids with
    | .ok state => stateReport state
    | .error (.number fault) => Report.broken (.number fault)
    | .error fault => Report.showing [fault.message] 1).after (project.trace ids)

/-- Plays a session with the answers that are there. -/
def playOn (session : Session) (answers : List String) : Report :=
  let (result, console) := Console.run session answers
  { output := console.output
    records := console.records
    wantsAnswer := decide (answers.length < console.prompts.length)
    ending :=
      match result with
      | .ok () => .ok 0
      | .error (.number fault) => .error (.number fault)
      | .error (.noStart issue) => .error (.invalid [issue]) }

/-- The id of the session that a command plays. -/
def sessionId : String := "session-1"

/-- Plays a project, or replays choices of it. -/
def play (project : Project) (choices : Option String) (answers : List String) : Report :=
  match Session.start project sessionId none with
  | .error issue => Report.showing [failureText [issue.message]] 1
  | .ok session =>
    match choices with
    | none => playOn session answers
    | some list => replay project (choiceIds list)

/-! ## Running -/

/-- Carries out a command on its project. -/
def perform (settings : Settings) (project : Project) (answers : List String) : Command → Report
  | .validate _ => validate project
  | .export _ format output => «export» settings project format output
  | .analyse _ => analyse project
  | .play _ choices => play project choices answers

/-- Carries out a command with what reading its project file gave. -/
def Command.run (command : Command) (now : Moment) (settings : Settings)
    (reading : Except Disk.Fault ByteArray) (answers : List String) : Report :=
  let path := command.project
  match reading with
  | .error fault =>
    if fault.isUnspeakable then Report.broken (.disk fault)
    else Report.unusable ("Failed to read '" ++ path.text ++ "': " ++ fault.message)
  | .ok bytes =>
    match projectOf now path bytes with
    | .error sentence => Report.unusable sentence
    | .ok project => (perform settings project answers command).after [loadRecord project path]

/-- The level that the arguments ask for, or else that of the settings. -/
def levelOf (wanted : Option String) (settings : Settings) : Except Fault LogLevel :=
  match wanted.filter fun name => !name.isEmpty with
  | none => .ok settings.logLevel
  | some name =>
    match LogLevel.ofName? (Text.upper name) with
    | some level => .ok level
    | none => .error (.unknownLevel (Text.upper name))

/-- A report with the level from which on its records are shown. -/
abbrev Run := LogLevel × Report

/-- Runs arguments that were understood. The project file is read only when the settings and
the level can be used. -/
def Arguments.run (arguments : Arguments) (now : Moment) (surroundings : Surroundings)
    (read : Disk.Path → Except Disk.Fault ByteArray) (answers : List String) : Run :=
  match Settings.read surroundings with
  | .error .noHome => (.info, Report.broken .noHome)
  | .error fault => (.info, Report.unusable ("Invalid configuration: " ++ fault.message))
  | .ok settings =>
    match levelOf arguments.level settings with
    | .error fault => (.info, Report.broken fault)
    | .ok level =>
      let command := arguments.command
      (level, command.run now settings (read command.project) answers)

/-- Writes the file of a report. A file that cannot be written breaks the command off, and a
text that has no encoding leaves it empty. -/
def Report.store (report : Report) (disk : Disk) : Report × Disk :=
  match report.file with
  | none => (report, disk)
  | some (path, text, farewell) =>
    let encoded := Text.encodeUtf8 text
    match disk.write path (encoded.toOption.getD ByteArray.empty), encoded with
    | .error fault, _ => ({ report with ending := .error (.disk fault), file := none }, disk)
    | .ok disk, .error fault =>
      ({ report with ending := .error (.encoding fault), file := none }, disk)
    | .ok disk, .ok _ => ({ report with output := report.output ++ farewell, file := none }, disk)

/-- Runs arguments that were understood on a disk. -/
def Arguments.runOn (arguments : Arguments) (now : Moment) (surroundings : Surroundings)
    (disk : Disk) (answers : List String) : Run × Disk :=
  let (level, report) := arguments.run now surroundings disk.read answers
  let (report, disk) := report.store disk
  ((level, report), disk)

/-- The answers that a text of lines gives. A last line without an end counts unless it is
empty. -/
def answersOf (input : String) : List String :=
  let lines := Text.split '\n' input
  if lines.getLast? == some "" then lines.dropLast else lines

end Gamebook.CommandLine
