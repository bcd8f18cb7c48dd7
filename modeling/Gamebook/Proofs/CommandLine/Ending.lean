import Gamebook.Proofs.CommandLine.Command
import Gamebook.Proofs.Text.Utf8

/-!
# How the command line ends

Arguments that were understood end in a status of 0, 1 or 2 or are broken off by a fault, and each
of these has its causes. The status is 2 exactly when the settings, the project file or the format
cannot be used, and 1 exactly when the project or the replay is refused. What breaks off instead is
a storage directory below an unknown home, a level that has no name among the levels, a path that
no disk can have, and the faults of the command itself: above all, an output that cannot be written
breaks off, although a project file that cannot be read is reported.
-/

namespace Gamebook.CommandLine

/-! ## Causes -/

namespace Arguments

/-- The arguments ask for a level that there is not. -/
structure AsksForUnknown (arguments : Arguments) (name : String) : Prop where
  asked : arguments.level = some name
  filled : name.isEmpty = false
  unknown : LogLevel.ofName? (Text.upper name) = none

variable (arguments : Arguments) (now : Moment) (surroundings : Surroundings) (disk : Disk)

/-- The surroundings and the arguments can be used, so the project file is read next. -/
structure Begins (settings : Settings) : Prop where
  settings : Settings.read surroundings = .ok settings
  level : ∀ name, ¬arguments.AsksForUnknown name

/-- The project file holds a project. -/
structure Opens (settings : Settings) (project : Project) : Prop extends
    Begins arguments surroundings settings where
  file : ∃ bytes, disk.read arguments.command.project = .ok bytes ∧
    projectOf now arguments.command.project bytes = .ok project

/-- Something that the arguments name, or that surrounds them, cannot be used. -/
inductive Unusable : Prop
  | settings {fault : Settings.Fault} (unread : Settings.read surroundings = .error fault)
      (other : fault ≠ .noHome)
  | file {settings : Settings} {fault : Disk.Fault}
      (begins : Begins arguments surroundings settings)
      (unread : disk.read arguments.command.project = .error fault)
      (speakable : fault.isUnspeakable = false)
  | contents {settings : Settings} {bytes : ByteArray} {sentence : String}
      (begins : Begins arguments surroundings settings)
      (read : disk.read arguments.command.project = .ok bytes)
      (foreign : projectOf now arguments.command.project bytes = .error sentence)
  | command {settings : Settings} {project : Project}
      (opens : Opens arguments now surroundings disk settings project)
      (misused : arguments.command.Misused settings)

/-- The command refuses the project that it was given, or the choices. -/
inductive Refused : Prop
  | command {settings : Settings} {project : Project}
      (opens : Opens arguments now surroundings disk settings project)
      (refuses : arguments.command.Refuses settings project)

/-- A fault breaks off what the arguments ask for. -/
inductive BreaksOff (answers : List String) : Fault → Prop
  | home (unread : Settings.read surroundings = .error .noHome) : BreaksOff answers .noHome
  | level {settings : Settings} {name : String} (read : Settings.read surroundings = .ok settings)
      (asks : arguments.AsksForUnknown name) : BreaksOff answers (.unknownLevel (Text.upper name))
  | path {settings : Settings} {fault : Disk.Fault}
      (begins : Begins arguments surroundings settings)
      (unread : disk.read arguments.command.project = .error fault)
      (unspeakable : fault.isUnspeakable = true) : BreaksOff answers (.disk fault)
  | command {settings : Settings} {project : Project} {fault : Fault}
      (opens : Opens arguments now surroundings disk settings project)
      (breaksOff : arguments.command.BreaksOff settings project disk answers fault) :
      BreaksOff answers fault

/-- How arguments end on a disk: with a status, or broken off by a fault. -/
def ending (answers : List String) : Except Fault Nat :=
  (arguments.runOn now surroundings disk answers).1.2.ending

end Arguments

/-! ## Ending -/

/-- The level is none of the levels, or it is there. -/
theorem levelOf_cases (arguments : Arguments) (settings : Settings) :
    ((∀ name, ¬arguments.AsksForUnknown name) ∧
      ∃ level, levelOf arguments.level settings = .ok level) ∨
    ∃ name, arguments.AsksForUnknown name ∧
      levelOf arguments.level settings = .error (.unknownLevel (Text.upper name)) := by
  unfold levelOf
  cases asked : arguments.level with
  | none =>
    refine .inl ⟨fun name asks => ?_, settings.logLevel, rfl⟩
    nomatch asked.symm.trans asks.asked
  | some name =>
    have named (other : String) (asks : arguments.AsksForUnknown other) : name = other :=
      Option.some.inj (asked.symm.trans asks.asked)
    cases empty : name.isEmpty with
    | true =>
      refine .inl ⟨fun other asks => ?_, settings.logLevel, by simp [Option.filter, empty]⟩
      nomatch (named other asks ▸ asks.filled).symm.trans empty
    | false =>
      simp only [Option.filter, empty, Bool.not_false, if_true]
      cases found : LogLevel.ofName? (Text.upper name) with
      | none => exact .inr ⟨name, ⟨asked, empty, found⟩, rfl⟩
      | some level =>
        refine .inl ⟨fun other asks => ?_, level, rfl⟩
        nomatch (named other asks ▸ asks.unknown).symm.trans found

/-- What was recorded before does not change how a report ends. -/
theorem store_after (report : Report) (records : List LogRecord) (disk : Disk) :
    ((report.after records).store disk).1.ending = (report.store disk).1.ending := by
  unfold Report.store Report.after
  cases report.file with
  | none => rfl
  | some file =>
    obtain ⟨path, text, farewell⟩ := file
    simp only
    cases disk.write path _ with
    | error fault => rfl
    | ok after => cases Text.encodeUtf8 text <;> rfl

theorem spelt_of_projectOf {now : Moment} {path : Disk.Path} {bytes : ByteArray}
    {project : Project} (isProject : projectOf now path bytes = .ok project) : project.Spelt := by
  unfold projectOf at isProject
  split at isProject
  next => nomatch isProject
  next text _ =>
    simp only at isProject
    cases read : Project.ofText now (String.ofList (Text.unifyReturns text.toList)) with
    | error mismatch => simp [read, Except.mapError] at isProject
    | ok same =>
      rw [read] at isProject
      exact Except.ok.inj isProject ▸ Project.spelt_of_text read

namespace Arguments

variable {arguments : Arguments} {now : Moment} {surroundings : Surroundings} {disk : Disk}
  {answers : List String} {settings : Settings}

theorem ending_of_settings {fault : Settings.Fault}
    (unread : Settings.read surroundings = .error fault) :
    arguments.ending now surroundings disk answers =
      if fault = .noHome then .error .noHome else .ok 2 := by
  unfold ending runOn run
  rw [unread]
  cases fault <;> rfl

theorem ending_of_level {name : String} (read : Settings.read surroundings = .ok settings)
    (asks : arguments.AsksForUnknown name) :
    arguments.ending now surroundings disk answers =
      .error (.unknownLevel (Text.upper name)) := by
  have unknown : levelOf arguments.level settings = .error (.unknownLevel (Text.upper name)) := by
    simp [levelOf, asks.asked, Option.filter, asks.filled, asks.unknown]
  unfold ending runOn run
  simp only [read, unknown]
  rfl

/-- Arguments that can be used end as their command does with what reading the file gave. -/
theorem Begins.ending (begins : Begins arguments surroundings settings) :
    arguments.ending now surroundings disk answers =
      ((arguments.command.run now settings (disk.read arguments.command.project)
        answers).store disk).1.ending := by
  rcases levelOf_cases arguments settings with ⟨_, level, known⟩ | ⟨name, asks, _⟩
  · unfold Arguments.ending runOn run
    simp only [begins.settings, known]
  · exact absurd asks (begins.level name)

theorem Begins.ending_of_fault (begins : Begins arguments surroundings settings)
    {fault : Disk.Fault} (unread : disk.read arguments.command.project = .error fault) :
    arguments.ending now surroundings disk answers =
      if fault.isUnspeakable then .error (.disk fault) else .ok 2 := by
  rw [begins.ending, unread, Command.run]
  cases fault.isUnspeakable <;> rfl

theorem Begins.ending_of_contents (begins : Begins arguments surroundings settings)
    {bytes : ByteArray} {sentence : String}
    (read : disk.read arguments.command.project = .ok bytes)
    (foreign : projectOf now arguments.command.project bytes = .error sentence) :
    arguments.ending now surroundings disk answers = .ok 2 := by
  rw [begins.ending, read, Command.run]
  simp only [foreign]
  rfl

/-- Arguments that open a project end as their command does. -/
theorem Opens.ending {project : Project}
    (opens : Opens arguments now surroundings disk settings project) :
    arguments.ending now surroundings disk answers =
      arguments.command.ending settings project disk answers := by
  obtain ⟨bytes, read, isProject⟩ := opens.file
  rw [opens.toBegins.ending, read, Command.run]
  simp only [isProject]
  exact store_after _ _ _

theorem Opens.spelt {project : Project}
    (opens : Opens arguments now surroundings disk settings project) : project.Spelt := by
  obtain ⟨bytes, _, isProject⟩ := opens.file
  exact spelt_of_projectOf isProject

/-! ## What an ending means -/

theorem Unusable.ending (unusable : Unusable arguments now surroundings disk) :
    arguments.ending now surroundings disk answers = .ok 2 := by
  cases unusable with
  | settings unread other => rw [ending_of_settings unread, if_neg other]
  | file begins unread speakable => simp [begins.ending_of_fault unread, speakable]
  | contents begins read foreign => exact begins.ending_of_contents read foreign
  | command opens misused => rw [opens.ending, misused.ending]

theorem Refused.ending (refused : Refused arguments now surroundings disk) :
    arguments.ending now surroundings disk answers = .ok 1 := by
  cases refused with
  | command opens refuses => rw [opens.ending, refuses.ending opens.spelt]

theorem BreaksOff.ending {fault : Fault}
    (breaksOff : BreaksOff arguments now surroundings disk answers fault) :
    arguments.ending now surroundings disk answers = .error fault := by
  cases breaksOff with
  | home unread => rw [ending_of_settings unread, if_pos rfl]
  | level read asks => exact ending_of_level read asks
  | path begins unread unspeakable => simp [begins.ending_of_fault unread, unspeakable]
  | command opens breaksOff => rw [opens.ending, breaksOff.ending]

end Arguments

end Gamebook.CommandLine
