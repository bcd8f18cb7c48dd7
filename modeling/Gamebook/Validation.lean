import Gamebook.Analysis.Reachability
import Gamebook.Text.Blank

/-!
# Structural rules of a project

Validation collects every broken rule and repairs nothing. A project needs a scene,
a start that exists, ids without repetition, targets that exist, rules that can be
judged and applied, and one kind for each key. A scene that cannot be reached is
only worth a warning. The passage script needs more: titles that differ and leave
the title of the generated ending free.
-/

namespace Gamebook

/-- How serious an issue is. -/
inductive Severity
  | error
  | warning
  deriving DecidableEq, Repr

/-- The name of a severity. -/
def Severity.name : Severity → String
  | .error => "error"
  | .warning => "warning"

/-- The structural rules. -/
inductive IssueCode
  | noScenes
  | missingStart
  | duplicateScene
  | duplicateChoice
  | danglingTarget
  | flagOperator
  | invalidValue
  | kindCollision
  | unreachableScene
  | reservedTitle
  | duplicateTitle
  deriving DecidableEq, Repr

/-- The short name of a rule. -/
def IssueCode.name : IssueCode → String
  | .noScenes => "no-scenes"
  | .missingStart => "missing-start-scene"
  | .duplicateScene => "duplicate-scene-id"
  | .duplicateChoice => "duplicate-choice-id"
  | .danglingTarget => "dangling-target"
  | .flagOperator => "flag-operator"
  | .invalidValue => "invalid-value"
  | .kindCollision => "variable-kind-collision"
  | .unreachableScene => "unreachable-scene"
  | .reservedTitle => "reserved-title"
  | .duplicateTitle => "duplicate-title"

/-- A scene that cannot be reached is a warning, all else an error. -/
def IssueCode.severity : IssueCode → Severity
  | .unreachableScene => .warning
  | _ => .error

/-- A broken rule, where it is broken, and a sentence about it. -/
structure Issue where
  code : IssueCode
  message : String
  sceneId : Option String := none
  choiceId : Option String := none
  deriving DecidableEq, Repr

/-- How serious an issue is. -/
def Issue.severity (issue : Issue) : Severity := issue.code.severity

/-- An issue as a document. -/
def Issue.toValue (issue : Issue) : Value :=
  .object [("code", .text issue.code.name), ("severity", .text issue.severity.name),
    ("message", .text issue.message), ("sceneId", .ofText? issue.sceneId),
    ("choiceId", .ofText? issue.choiceId)]

/-- A sentence about a failed validation: the first three messages, and how many more. -/
def failureText (messages : List String) : String :=
  if messages.isEmpty then "Project failed validation."
  else
    let more := messages.length - 3
    "Project failed validation: " ++ String.intercalate "; " (messages.take 3) ++
      (if more = 0 then "" else " (and " ++ Nat.repr more ++ " more)")

/-- The rule that a condition breaks: one of its own when a flag is compared otherwise than for
equality. -/
def ConditionProblem.code : ConditionProblem → IssueCode
  | .flagOperator .. => .flagOperator
  | _ => .invalidValue

/-- The kind a declared variable is used as: a truth value is a flag, a number an attribute. -/
def VariableValue.kind? : VariableValue → Option Kind
  | .scalar x => some (if x.isBool then .flag else .attribute)
  | .text _ => none

namespace Validation

/-- What validation found, in order. -/
structure Report where
  issues : List Issue
  deriving DecidableEq, Repr

/-- The errors of a report. -/
def Report.errors (report : Report) : List Issue :=
  report.issues.filter (·.severity = .error)

/-- The warnings of a report. -/
def Report.warnings (report : Report) : List Issue :=
  report.issues.filter (·.severity = .warning)

/-- Whether there is no error. -/
def Report.isValid (report : Report) : Bool := report.errors.isEmpty

/-- The worst that was found, in a word. -/
def Report.status (report : Report) : String :=
  if !report.errors.isEmpty then "errors"
  else if !report.warnings.isEmpty then "warnings"
  else "valid"

/-- The errors, when there are any, stand against going on. -/
def Report.require (report : Report) : Except (List Issue) Unit :=
  if report.isValid then .ok () else .error report.errors

/-! ## The rules -/

/-- The issue of an id that no scene has although the story starts there. -/
def missingStartMessage (id : String) : String := "Start scene '" ++ id ++ "' does not exist."

/-- The issue of a project without scenes. -/
def noScenesIssue : Issue := { code := .noScenes, message := "Project has no scenes." }

/-- A project has a scene, and a named start exists. -/
def startIssues (project : Project) : List Issue :=
  if project.scenes.isEmpty then [noScenesIssue]
  else
    match project.startSceneId with
    | none => []
    | some id =>
      if (project.scene? id).isSome then []
      else [{ code := .missingStart, message := missingStartMessage id, sceneId := some id }]

/-- Choice ids of a scene differ; an id that was seen before is an issue. -/
def choiceIdentityIssues (scene : Scene) (seen : List String) : List Choice → List Issue
  | [] => []
  | choice :: rest =>
    (if seen.contains choice.id then
      [{ code := .duplicateChoice
         message := "Choice id '" ++ choice.id ++ "' appears more than once in scene '" ++
           scene.id ++ "'."
         sceneId := some scene.id, choiceId := some choice.id }]
    else []) ++ choiceIdentityIssues scene (choice.id :: seen) rest

/-- Scene ids differ, and so do the choice ids of each scene. -/
def identityIssues (seen : List String) : List Scene → List Issue
  | [] => []
  | scene :: rest =>
    (if seen.contains scene.id then
      [{ code := .duplicateScene
         message := "Scene id '" ++ scene.id ++ "' is used more than once."
         sceneId := some scene.id }]
    else []) ++ choiceIdentityIssues scene [] scene.choices ++
      identityIssues (scene.id :: seen) rest

/-- Whether a choice ends the story or leads to a scene of the project. -/
def hasTarget (project : Project) (choice : Choice) : Bool :=
  choice.isTerminal || project.sceneIds.contains choice.target

/-- The issue of a choice that leads nowhere. -/
def targetIssue (scene : Scene) (choice : Choice) : Issue :=
  { code := .danglingTarget
    message :=
      if Text.isAllBlank choice.target then
        "Choice '" ++ choice.id ++ "' in scene '" ++ scene.id ++ "' has no target scene."
      else
        "Choice '" ++ choice.id ++ "' in scene '" ++ scene.id ++ "' points to unknown scene '" ++
          choice.target ++ "'."
    sceneId := some scene.id, choiceId := some choice.id }

/-- Every choice ends the story or leads to a scene of the project. -/
def targetIssues (project : Project) : List Issue :=
  project.scenes.flatMap fun scene =>
    (scene.choices.filter fun choice => !hasTarget project choice).map (targetIssue scene)

/-- An issue of a rule of a choice. -/
def ruleIssue (scene : Scene) (choice : Choice) (code : IssueCode) (problem : String) : Issue :=
  { code := code, message := "Choice '" ++ choice.id ++ "': " ++ problem ++ "."
    sceneId := some scene.id, choiceId := some choice.id }

/-- The issues of the rules of a choice: conditions first, then consequences. -/
def choiceRuleIssues (scene : Scene) (choice : Choice) : List Issue :=
  (choice.requirements.filterMap fun condition =>
    condition.problem?.map fun problem =>
      ruleIssue scene choice problem.code problem.text) ++
  choice.consequences.filterMap fun consequence =>
    consequence.problem?.map fun problem =>
      ruleIssue scene choice .invalidValue problem.text

/-- Every use of a key with a kind, in the variables and in the rules of the choices. -/
def keyUses (project : Project) : List (String × Kind) :=
  (project.declared.filterMap fun (key, value) =>
    value.kind?.map (key, ·)) ++
  (project.scenes.flatMap (·.choices)).flatMap fun choice =>
    choice.requirements.map (fun condition => (condition.key, condition.kind)) ++
      choice.consequences.map fun consequence => (consequence.key, consequence.kind)

/-- The kinds a key is used with, by name. -/
def kindNames (project : Project) (key : String) : List String :=
  sortedSet (((keyUses project).filter (·.1 == key)).map (·.2.name))

/-- A key is used with one kind only. -/
def collisionIssues (project : Project) : List Issue :=
  (sortedSet ((keyUses project).map (·.1))).filterMap fun key =>
    let kinds := kindNames project key
    if 1 < kinds.length then
      some
        { code := .kindCollision
          message := "Variable '" ++ key ++ "' is used as more than one kind (" ++
            String.intercalate ", " kinds ++ ")." }
    else none

/-- Rules can be judged and applied, and no key changes its kind. -/
def ruleIssues (project : Project) : List Issue :=
  (project.scenes.flatMap fun scene => scene.choices.flatMap (choiceRuleIssues scene)) ++
    collisionIssues project

/-- Every scene can be reached, as long as the story has a start. -/
def reachabilityIssues (project : Project) : List Issue :=
  let report := Reachability.report project
  if report.start.isNone then []
  else
    report.unreachable.map fun id =>
      { code := .unreachableScene
        message := "Scene '" ++ id ++ "' cannot be reached from the start scene."
        sceneId := some id }

/-- Everything wrong with the structure of a project. -/
def report (project : Project) : Report :=
  ⟨startIssues project ++ identityIssues [] project.scenes ++ targetIssues project ++
    ruleIssues project ++ reachabilityIssues project⟩

/-! ## Titles of passages -/

/-- The title of the generated ending passage. -/
def endTitle : String := "End"

/-- A title on one line, its words with single spaces between them. -/
def passageTitle (title : String) : String := Text.collapse title

/-- Titles differ and none is that of the ending. The scenes seen before are given by title. -/
def titleIssues (seen : Entries String) : List Scene → List Issue
  | [] => []
  | scene :: rest =>
    let title := passageTitle scene.title
    let reserved : List Issue :=
      if title = endTitle then
        [{ code := .reservedTitle
           message := "Scene '" ++ scene.id ++ "' is titled '" ++ endTitle ++
             "', which is reserved for the generated ending passage."
           sceneId := some scene.id }]
      else []
    match seen.get? title with
    | some other =>
      reserved ++
        [{ code := .duplicateTitle
           message := "Scenes '" ++ other ++ "' and '" ++ scene.id ++ "' share the title '" ++
             title ++ "'; Twine links need unique titles."
           sceneId := some scene.id }] ++ titleIssues seen rest
    | none => reserved ++ titleIssues (seen.put title scene.id) rest

/-- Everything that stands against writing a project as a passage script. -/
def scriptReport (project : Project) : Report :=
  ⟨(report project).issues ++ titleIssues [] project.scenes⟩

end Validation

end Gamebook
