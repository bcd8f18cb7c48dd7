import Gamebook.CommandLine.Report

/-!
# The program

The program reads its arguments, its variables and its project file, runs the
command and shows what it reports. While a story is played it asks for one answer
after the other: each answer is added to those before, and what is new in the
report is shown.
-/

namespace Gamebook.CommandLine

/-- How the program is called. -/
def usage : String :=
  "usage: " ++ programName ++ " [--log-level LEVEL] COMMAND FILE [OPTIONS]\n\n" ++
    "  validate FILE                         report structural problems\n" ++
    "  export FILE [-f FORMAT] [-o OUTPUT]   compile to json, html or twine\n" ++
    "  analyse FILE                          print graph metrics\n" ++
    "  play FILE [--choices IDS]             play, or replay choice ids\n"

/-- The refusal that an error of the system means. -/
def refusalOf : IO.Error → Disk.Refusal
  | .noFileOrDirectory _ _ _ => .missing
  | .alreadyExists _ _ _ => .exists
  | .inappropriateType _ number words =>
    if number = 20 then .notDirectory else if number = 21 then .isDirectory
    else .other number.toNat words
  | .permissionDenied _ number words => .other number.toNat words
  | error => .other 5 (toString error)

/-- The bytes of a file of the system. -/
def readFile (path : Disk.Path) : IO (Except Disk.Fault ByteArray) := do
  if path.text.toList.contains '\x00' then return .error .nullByte
  try return .ok (← IO.FS.readBinFile path.text)
  catch error => return .error (.refused (refusalOf error) path)

/-- Writes a file of the system. -/
def writeFile (path : Disk.Path) (text : String) : IO (Except Disk.Fault Unit) := do
  if path.text.toList.contains '\x00' then return .error .nullByte
  try return .ok (← IO.FS.writeBinFile path.text text.toUTF8)
  catch error => return .error (.refused (refusalOf error) path)

/-- The variables that the settings are read from. -/
def readVariables : IO (Entries String) := do
  let keys := [Settings.formatVariable, Settings.levelVariable, Settings.storageVariable,
    Settings.indentVariable, Settings.attemptsVariable]
  keys.filterMapM fun key => do return (← IO.getEnv key).map (key, ·)

/-- The present moment, as the clock of the file system tells it. -/
def readClock : IO Moment := do
  let (_, path) ← IO.FS.createTempFile
  let time := (← path.metadata).modified
  IO.FS.removeFile path
  match Moment.ofSeconds time.sec (time.nsec.toNat / 1000) with
  | .ok moment => return moment
  | .error _ => return { year := 1970, month := 1, day := 1, offset := some 0 }

/-- Shows what a report has beyond what was shown of it before. -/
def showNew (level : LogLevel) (report : Report) (shown logged : Nat) : IO Unit := do
  IO.eprint (logText level (report.records.drop logged))
  IO.print (String.ofList (report.output.toList.drop shown))
  (← IO.getStdout).flush

/-- Runs with more and more answers until none is wanted or none is left. -/
partial def converse (run : List String → Run) (answers : List String) (shown logged : Nat) :
    IO Run := do
  let (level, report) := run answers
  showNew level report shown logged
  if !report.wantsAnswer then return (level, report)
  let line ← (← IO.getStdin).getLine
  if line.isEmpty then return (level, report)
  converse run (answers ++ answersOf line) report.output.length report.records.length

/-- Shows the end of a report and gives the status to exit with. -/
def finish (report : Report) : IO UInt32 := do
  let broken (fault : Fault) : IO UInt32 := do
    IO.eprintln fault.message
    return 1
  match report.file with
  | some (path, text, farewell) =>
    match ← writeFile path text with
    | .error fault => return ← broken (.disk fault)
    | .ok () => IO.print farewell
  | none => IO.eprint report.complaint
  match report.ending with
  | .ok status => return status.toUInt32
  | .error fault => broken fault

end Gamebook.CommandLine

open Gamebook CommandLine in
/-- Runs the program. -/
def main (arguments : List String) : IO UInt32 := do
  match readArguments arguments with
  | .error .help =>
    IO.print usage
    return 0
  | .error .unusable =>
    IO.eprint usage
    return 2
  | .ok arguments =>
    let home := (← IO.getEnv "HOME").getD "/"
    let surroundings : Surroundings := ⟨← readVariables, ⟨home, []⟩⟩
    let now ← readClock
    let bytes ← readFile arguments.command.project
    let (_, report) ←
      converse (arguments.run now surroundings (fun _ => bytes)) [] 0 0
    finish report
