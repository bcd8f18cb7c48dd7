import Gamebook.CommandLine.Report
import Gamebook.Proofs.Console
import Gamebook.Proofs.Disk
import Gamebook.Proofs.Export.Artifact
import Gamebook.Proofs.Play.Replay

/-!
# How a command ends

A command that has its project ends in one of four ways. It is misused when the format that is
asked for is none. It refuses a project that it judges: one that breaks the rules of what is asked
for, one without a start, or choices of which one is refused. A fault breaks it off: a file that
cannot be written, or a number in play. Otherwise it serves. Nothing else ends a command, because
all that a project that was read holds can be written.
-/

namespace Gamebook.CommandLine

/-! ## Four ways to end -/

/-- The format of an export: what was asked for, or else that of the settings; none when what was
asked for names no format. -/
def formatFor? (settings : Settings) (wanted : Option String) : Option ExportFormat :=
  match wanted.filter fun name => !name.isEmpty with
  | none => some settings.format
  | some name => ExportFormat.ofName? (Text.lower (Text.trim name))

/-- A command is asked for something that it cannot do. -/
inductive Command.Misused (settings : Settings) : Command → Prop
  | format {path : Disk.Path} {wanted : Option String} {output : Option Disk.Path}
      (unknown : formatFor? settings wanted = none) : Misused settings (.export path wanted output)

/-- A command refuses a project, or the choices that it replays. -/
inductive Command.Refuses (settings : Settings) (project : Project) : Command → Prop
  | unsound {path : Disk.Path} (unsound : ¬project.WellStructured) :
      Refuses settings project (.validate path)
  | inadmissible {path : Disk.Path} {wanted : Option String} {output : Option Disk.Path}
      {format : ExportFormat} (asked : formatFor? settings wanted = some format)
      (inadmissible : ¬format.Admits project) :
      Refuses settings project (.export path wanted output)
  | startless {path : Disk.Path} {choices : Option String}
      (startless : project.startScene? = none) : Refuses settings project (.play path choices)
  | choice {path : Disk.Path} {list : String} {state left : PlayerState} {choiceId : String}
      {refusal : Gamebook.Refusal} (comes : project.ComesTo (choiceIds list) state choiceId)
      (refused : project.select state choiceId = .ok (.rejected choiceId refusal left)) :
      Refuses settings project (.play path (some list))

/-- A fault breaks a command off. -/
inductive Command.BreaksOff (settings : Settings) (project : Project) (disk : Disk)
    (answers : List String) : Command → Fault → Prop
  /-- A name with half a character cannot stand in a document. -/
  | name {path : Disk.Path} {wanted : Option String} {output : Option Disk.Path}
      {half : Text.HalfFault} (asked : formatFor? settings wanted = some .json)
      (unwritten : project.write = .error (.name half)) :
      BreaksOff settings project disk answers (.export path wanted output) (.write (.name half))
  /-- The output cannot be written. -/
  | output {path output : Disk.Path} {wanted : Option String} {format : ExportFormat}
      {artifact : String} {fault : Disk.Fault} (asked : formatFor? settings wanted = some format)
      (written : Export.artifactWith settings.indent project format = .ok artifact)
      (rejected : disk.Rejects output fault) :
      BreaksOff settings project disk answers (.export path wanted (some output)) (.disk fault)
  /-- The output could be written, but the artifact has no encoding. -/
  | encoding {path output : Disk.Path} {wanted : Option String} {format : ExportFormat}
      {artifact : String} {half : Text.HalfFault} (asked : formatFor? settings wanted = some format)
      (written : Export.artifactWith settings.indent project format = .ok artifact)
      (unencoded : Text.encodeUtf8 artifact = .error half)
      (writable : ∀ fault, ¬disk.Rejects output fault) :
      BreaksOff settings project disk answers (.export path wanted (some output)) (.encoding half)
  /-- A number stops a choice of a replay. -/
  | choice {path : Disk.Path} {list : String} {state : PlayerState} {choiceId : String}
      {fault : NumberFault} (comes : project.ComesTo (choiceIds list) state choiceId)
      (stopped : project.select state choiceId = .error fault) :
      BreaksOff settings project disk answers (.play path (some list)) (.number fault)
  /-- A value that a replay ends with is too long to be shown. -/
  | value {path : Disk.Path} {list : String} {state : PlayerState} {key : String} {value : Scalar}
      (replayed : project.replay (choiceIds list) = .ok state)
      (held : state.values.get? key = some value) (long : ¬value.Quotable) :
      BreaksOff settings project disk answers (.play path (some list)) (.number .digitsToWrite)
  /-- A number stops a playthrough. -/
  | console {path : Disk.Path} {session : Session} {fault : NumberFault}
      (started : Session.start project sessionId none = .ok session)
      (breaksOff : Console.BreaksOff session answers fault) :
      BreaksOff settings project disk answers (.play path none) (.number fault)

/-- How a command ends on a disk. -/
def Command.ending (command : Command) (settings : Settings) (project : Project) (disk : Disk)
    (answers : List String) : Except Fault Nat :=
  ((perform settings project answers command).store disk).1.ending

variable {settings : Settings} {project : Project} {disk : Disk} {answers : List String}
  {path : Disk.Path}

/-! ## Validating -/

theorem validate_ending : (Command.validate path).ending settings project disk answers =
    .ok (if (Validation.report project).isValid then 0 else 1) := rfl

/-! ## Exporting -/

section Exporting

variable {wanted : Option String} {output : Option Disk.Path} {format : ExportFormat}

theorem export_unknown (unknown : formatFor? settings wanted = none) :
    (Command.export path wanted output).ending settings project disk answers = .ok 2 := by
  have unusable : ∃ sentence, «export» settings project wanted output = .unusable sentence := by
    revert unknown
    unfold formatFor? «export»
    cases wanted.filter fun name => !name.isEmpty with
    | none => exact nofun
    | some name =>
      intro unknown
      have unnamed : ExportFormat.ofName? (Text.lower (Text.trim name)) = none := unknown
      simp only [ExportFormat.ofValue, Value.text?, Option.bind_some, unnamed, Value.shown]
      exact ⟨_, rfl⟩
  obtain ⟨sentence, same⟩ := unusable
  rw [Command.ending, perform, same]
  rfl

theorem export_known (asked : formatFor? settings wanted = some format) :
    (Command.export path wanted output).ending settings project disk answers =
      ((exportAs settings project format output).store disk).1.ending := by
  have same : «export» settings project wanted output =
      exportAs settings project format output := by
    revert asked
    unfold formatFor? «export»
    cases wanted.filter fun name => !name.isEmpty with
    | none =>
      exact fun asked => congrArg (exportAs settings project · output) (Option.some.inj asked)
    | some name =>
      intro asked
      have named : ExportFormat.ofName? (Text.lower (Text.trim name)) = some format := asked
      simp only [ExportFormat.ofValue, Value.text?, Option.bind_some, named]
  rw [Command.ending, perform, same]

/-- An artifact that is shown ends well, and so does one that is written. -/
theorem deliver_ending (disk : Disk) (output : Option Disk.Path) {artifact : String}
    (written : Export.artifactWith settings.indent project format = .ok artifact) :
    ((exportAs settings project format output).store disk).1.ending =
      match output with
      | none => .ok 0
      | some output =>
        match disk.write output ((Text.encodeUtf8 artifact).toOption.getD ByteArray.empty) with
        | .error fault => .error (.disk fault)
        | .ok _ =>
          match Text.encodeUtf8 artifact with
          | .error half => .error (.encoding half)
          | .ok _ => .ok 0 := by
  unfold exportAs
  rw [written]
  cases output with
  | none => rfl
  | some output =>
    simp only [deliver, Report.after, Report.store]
    cases disk.write output _ with
    | error fault => rfl
    | ok after => cases Text.encodeUtf8 artifact <;> rfl

end Exporting

/-! ## Playing -/

theorem shown_ofScalar (x : Scalar) : (Value.ofScalar x).shown = x.text := by
  cases x <;> rfl

/-- Lines of values are shown up to the first value that is too long, if there is one. -/
theorem valueLines_cases (values : Entries Scalar) (keys : List String) :
    ((valueLines values keys).2 = .ok () ∧
      ∀ key ∈ keys, ∀ value, values.get? key = some value → value.Quotable) ∨
    ((valueLines values keys).2 = .error .digitsToWrite ∧
      ∃ key ∈ keys, ∃ value, values.get? key = some value ∧ ¬value.Quotable) := by
  induction keys with
  | nil => exact .inl ⟨rfl, List.forall_mem_nil _⟩
  | cons key rest inductionHypothesis =>
    cases held : values.get? key with
    | none =>
      have same : valueLines values (key :: rest) = valueLines values rest := by
        simp only [valueLines, held]
      rw [same]
      rcases inductionHypothesis with ⟨shown, each⟩ | ⟨stopped, later, member, long⟩
      · exact .inl ⟨shown, List.forall_mem_cons.mpr ⟨by simp [held], each⟩⟩
      · exact .inr ⟨stopped, later, List.mem_cons_of_mem _ member, long⟩
    | some value =>
      rcases value.text_cases with ⟨quotable, text, isText⟩ | ⟨long, isFault⟩
      · have same : (valueLines values (key :: rest)).2 = (valueLines values rest).2 := by
          simp only [valueLines, held, shown_ofScalar, isText]
        rw [same]
        rcases inductionHypothesis with ⟨shown, each⟩ | ⟨stopped, later, member, long⟩
        · refine .inl ⟨shown, List.forall_mem_cons.mpr ⟨?_, each⟩⟩
          intro other same
          rw [held] at same
          exact Option.some.inj same ▸ quotable
        · exact .inr ⟨stopped, later, List.mem_cons_of_mem _ member, long⟩
      · refine .inr ⟨?_, key, List.mem_cons_self, value, held, long⟩
        simp only [valueLines, held, shown_ofScalar, isFault]

theorem startScene?_of_started {session : Session}
    (started : Session.start project sessionId none = .ok session) :
    session.project = project ∧ project.startScene?.isSome = true := by
  obtain ⟨state, begun, rfl⟩ := Except.map_ok_iff.mp started
  exact ⟨rfl, (Project.startScene?_isSome_iff project).mpr ⟨state, begun⟩⟩

theorem exists_started (starts : project.startScene?.isSome = true) :
    ∃ session, Session.start project sessionId none = .ok session := by
  obtain ⟨state, begun⟩ := (Project.startScene?_isSome_iff project).mp starts
  exact ⟨_, by rw [Session.start, begun]; rfl⟩

theorem play_startless (startless : project.startScene? = none) (choices : Option String) :
    (Command.play path choices).ending settings project disk answers = .ok 1 := by
  unfold Command.ending perform play Session.start Project.reset
  rw [startless]
  rfl

/-- A playthrough ends with what the console ends with. -/
theorem playOn_ending {session : Session}
    (started : Session.start project sessionId none = .ok session) :
    (Command.play path none).ending settings project disk answers =
      match (Console.run session answers).1 with
      | .ok () => .ok 0
      | .error (.number fault) => .error (.number fault)
      | .error (.noStart issue) => .error (.invalid [issue]) := by
  unfold Command.ending perform play
  rw [started]
  rfl

/-- A replay of a story that can be started ends with what it comes to. -/
theorem replay_ending (starts : project.startScene?.isSome = true) (list : String) :
    (Command.play path (some list)).ending settings project disk answers =
      match project.replay (choiceIds list) with
      | .ok state =>
        match (valueLines state.values (sortTexts state.values.keys)).2 with
        | .ok () => .ok 0
        | .error fault => .error (.number fault)
      | .error (.number fault) => .error (.number fault)
      | .error (.rejected _ _) => .ok 1
      | .error (.invalid _) => .ok 1 := by
  obtain ⟨session, started⟩ := exists_started starts
  unfold Command.ending perform play
  rw [started]
  simp only [replay]
  cases project.replay (choiceIds list) with
  | ok state => rfl
  | error fault => cases fault <;> rfl

/-! ## All commands -/

theorem Command.Misused.ending {command : Command} (misused : command.Misused settings) :
    command.ending settings project disk answers = .ok 2 := by
  cases misused with
  | format unknown => exact export_unknown unknown

theorem Command.Refuses.ending {command : Command} (spelt : project.Spelt)
    (refuses : command.Refuses settings project) :
    command.ending settings project disk answers = .ok 1 := by
  cases refuses with
  | unsound unsound =>
    have invalid := mt (Validation.isValid_iff_wellStructured project).mp unsound
    rw [validate_ending, if_neg invalid]
  | inadmissible asked inadmissible =>
    obtain ⟨issues, refused⟩ := Export.artifactWith_refused spelt inadmissible settings.indent
    rw [export_known asked, exportAs, refused]
    rfl
  | startless startless => exact play_startless startless _
  | choice comes refused =>
    rw [replay_ending comes.starts, comes.replay_of_rejected refused]

theorem Command.BreaksOff.ending {command : Command} {fault : Fault}
    (breaksOff : command.BreaksOff settings project disk answers fault) :
    command.ending settings project disk answers = .error fault := by
  cases breaksOff with
  | name asked unwritten =>
    rw [export_known asked, exportAs, Export.artifactWith, Export.json, unwritten]
    rfl
  | output asked written rejected =>
    rw [export_known asked, deliver_ending _ _ written]
    simp only [rejected _]
  | encoding asked written unencoded writable =>
    rw [export_known asked, deliver_ending _ _ written]
    simp only [unencoded]
    split
    next fault refused => exact absurd (Disk.rejects_of_write refused) (writable fault)
    next => rfl
  | choice comes stopped =>
    rw [replay_ending comes.starts, comes.replay_of_error stopped]
  | @value _ _ state key _ replayed held long =>
    rw [replay_ending (Project.starts_of_replay replayed), replayed]
    have listed : key ∈ sortTexts state.values.keys := by
      rw [mem_sortTexts, ← Entries.get?_isSome_iff, held]
      rfl
    rcases valueLines_cases state.values (sortTexts state.values.keys) with ⟨_, each⟩ | ⟨stopped, _⟩
    · exact absurd (each key listed _ held) long
    · simp only [stopped]
  | console started breaksOff =>
    rw [playOn_ending started, breaksOff.run_eq]

/-! ## No other way to end -/

/-- A command serves, or it ends in one of the three other ways. -/
def Command.Accounted (command : Command) (settings : Settings) (project : Project) (disk : Disk)
    (answers : List String) : Prop :=
  command.ending settings project disk answers = .ok 0 ∨ command.Misused settings ∨
    command.Refuses settings project ∨
      ∃ fault, command.BreaksOff settings project disk answers fault

theorem validate_accounted : (Command.validate path).Accounted settings project disk answers := by
  by_cases sound : project.WellStructured
  · have valid := (Validation.isValid_iff_wellStructured project).mpr sound
    exact .inl (by rw [validate_ending, if_pos valid])
  · exact .inr (.inr (.inl (.unsound sound)))

/-- An artifact that was made is printed, or it is written unless the disk or its text refuses. -/
theorem deliver_accounted {wanted : Option String} {format : ExportFormat} {artifact : String}
    (asked : formatFor? settings wanted = some format)
    (written : Export.artifactWith settings.indent project format = .ok artifact)
    (output : Option Disk.Path) :
    (Command.export path wanted output).Accounted settings project disk answers := by
  unfold Command.Accounted
  rw [export_known asked, deliver_ending disk output written]
  cases output with
  | none => exact .inl rfl
  | some output =>
    simp only
    cases stored : disk.write output _ with
    | error fault =>
      exact .inr (.inr (.inr ⟨_, .output asked written (Disk.rejects_of_write stored)⟩))
    | ok after =>
      cases encoded : Text.encodeUtf8 artifact with
      | ok bytes => exact .inl rfl
      | error half =>
        refine .inr (.inr (.inr ⟨_, .encoding asked written encoded fun fault rejects => ?_⟩))
        nomatch (rejects _).symm.trans stored

theorem export_accounted (spelt : project.Spelt) (wanted : Option String)
    (output : Option Disk.Path) :
    (Command.export path wanted output).Accounted settings project disk answers := by
  cases asked : formatFor? settings wanted with
  | none => exact .inr (.inl (.format asked))
  | some format =>
    have writes := Export.artifactWith_writes spelt settings.indent format
    cases written : Export.artifactWith settings.indent project format with
    | ok artifact => exact deliver_accounted asked written output
    | error fault =>
      rw [written] at writes
      cases writes with
      | refused inadmissible => exact .inr (.inr (.inl (.inadmissible asked inadmissible)))
      | halved isDocument unwritten =>
        subst isDocument
        exact .inr (.inr (.inr ⟨_, .name asked unwritten⟩))

section Playing

variable (starts : project.startScene?.isSome = true)
include starts

theorem playOn_accounted :
    (Command.play path none).Accounted settings project disk answers := by
  obtain ⟨session, started⟩ := exists_started starts
  have same := (startScene?_of_started started).1
  rcases Console.run_cases (same ▸ starts) answers with ended | ⟨fault, breaksOff⟩
  · exact .inl (by rw [playOn_ending started, ended])
  · exact .inr (.inr (.inr ⟨_, .console started breaksOff⟩))

theorem replay_accounted (list : String) :
    (Command.play path (some list)).Accounted settings project disk answers := by
  rcases Project.replay_cases starts (choiceIds list) with
    ⟨state, replayed⟩ | ⟨state, choiceId, comes, ⟨refusal, left, refused⟩ | ⟨fault, stopped⟩⟩
  · rcases valueLines_cases state.values (sortTexts state.values.keys) with
      ⟨shown, _⟩ | ⟨_, key, _, value, held, long⟩
    · exact .inl (by rw [replay_ending starts, replayed]; simp only [shown])
    · exact .inr (.inr (.inr ⟨_, .value replayed held long⟩))
  · exact .inr (.inr (.inl (.choice comes refused)))
  · exact .inr (.inr (.inr ⟨_, .choice comes stopped⟩))

end Playing

/-- Every command on a project that was read is accounted for. -/
theorem Command.accounted (command : Command) (settings : Settings) (spelt : project.Spelt)
    (disk : Disk) (answers : List String) :
    command.Accounted settings project disk answers := by
  cases command with
  | validate path => exact validate_accounted
  | «export» path wanted output => exact export_accounted spelt wanted output
  | analyse path => exact .inl rfl
  | play path choices =>
    cases isStart : project.startScene? with
    | none => exact .inr (.inr (.inl (.startless isStart)))
    | some start =>
      have starts : project.startScene?.isSome = true := by rw [isStart]; rfl
      cases choices with
      | none => exact playOn_accounted starts
      | some list => exact replay_accounted starts list

end Gamebook.CommandLine
