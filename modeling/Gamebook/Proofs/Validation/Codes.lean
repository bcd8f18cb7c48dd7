import Gamebook.Proofs.Analysis.Reachability
import Gamebook.Proofs.Story.Rule
import Gamebook.Proofs.Validation

/-!
# What each code of a report says

The structural rules are stated here of the project alone: of its scenes and their ids, of where
choices lead, of conditions and consequences that can be used, and of the kinds that keys are used
as. A report has a code exactly when the rule of the code is broken, and it has no error exactly
when no rule is. Its warnings are the scenes that the start does not lead to, each of them once;
without a start there are none.
-/

namespace Gamebook

/-- What a declared variable is: a truth value is a flag, a number an attribute, a text nothing. -/
inductive VariableValue.Declares : VariableValue → Kind → Prop
  | flag (isSet : Bool) : Declares (.scalar (.bool isSet)) .flag
  | attribute {x : Scalar} (isNumber : x.OfKind .attribute) : Declares (.scalar x) .attribute

theorem VariableValue.declares_iff (value : VariableValue) (kind : Kind) :
    value.Declares kind ↔ value.kind? = some kind := by
  constructor
  · rintro (⟨isSet⟩ | ⟨⟨n, rfl⟩ | ⟨number, rfl⟩⟩) <;> rfl
  · intro declared
    match value, declared with
    | .scalar (.bool isSet), rfl => exact .flag isSet
    | .scalar (.int n), rfl => exact .attribute (.inl ⟨n, rfl⟩)
    | .scalar (.float number), rfl => exact .attribute (.inr ⟨number, rfl⟩)

/-! ## The rules -/

namespace Project

/-- Some scene has the choice. -/
def HasChoice (project : Project) (choice : Choice) : Prop :=
  ∃ scene ∈ project.scenes, choice ∈ scene.choices

/-- Some choice asks for the condition. -/
def HasCondition (project : Project) (condition : Condition) : Prop :=
  ∃ choice, project.HasChoice choice ∧ condition ∈ choice.requirements

/-- Some choice has the consequence. -/
def HasConsequence (project : Project) (consequence : Consequence) : Prop :=
  ∃ choice, project.HasChoice choice ∧ consequence ∈ choice.consequences

/-- A choice leads somewhere when it ends the story or names a scene. -/
def LeadsSomewhere (project : Project) (choice : Choice) : Prop :=
  choice.target = terminalTarget ∨ choice.target ∈ project.sceneIds

/-- A key is used as a kind by a variable that is declared, a condition or a consequence. -/
inductive Uses (project : Project) : String → Kind → Prop
  | declared {key : String} {value : VariableValue} {kind : Kind}
      (member : (key, value) ∈ project.declared) (declares : value.Declares kind) :
      Uses project key kind
  | condition {condition : Condition} (has : project.HasCondition condition) :
      Uses project condition.key condition.kind
  | consequence {consequence : Consequence} (has : project.HasConsequence consequence) :
      Uses project consequence.key consequence.kind

/-- The story has a start and a scene that the start does not lead to. -/
def LeavesOut (project : Project) (id : String) : Prop :=
  ∃ start, project.startScene? = some start ∧
    id ∈ project.sceneIds ∧ ¬project.LeadsTo start.id id

/-- The structural rules. -/
structure WellStructured (project : Project) : Prop where
  scenes : project.scenes ≠ []
  start : ∀ id, project.startSceneId = some id → id ∈ project.sceneIds
  sceneIds : project.sceneIds.Nodup
  choiceIds : ∀ scene ∈ project.scenes, (scene.choices.map (·.id)).Nodup
  targets : ∀ choice, project.HasChoice choice → project.LeadsSomewhere choice
  conditions : ∀ condition, project.HasCondition condition → condition.WellFormed
  consequences : ∀ consequence, project.HasConsequence consequence → consequence.WellFormed
  kinds : ∀ key kind other, project.Uses key kind → project.Uses key other → kind = other

/-- How a project breaks the rule of a code. The two codes of titles are for scripts only. -/
def Breaks (project : Project) : IssueCode → Prop
  | .noScenes => project.scenes = []
  | .missingStart =>
      project.scenes ≠ [] ∧ ∃ id, project.startSceneId = some id ∧ id ∉ project.sceneIds
  | .duplicateScene => ¬project.sceneIds.Nodup
  | .duplicateChoice => ∃ scene ∈ project.scenes, ¬(scene.choices.map (·.id)).Nodup
  | .danglingTarget => ∃ choice, project.HasChoice choice ∧ ¬project.LeadsSomewhere choice
  | .flagOperator => ∃ condition, project.HasCondition condition ∧ condition.ComparesFlag
  | .invalidValue =>
      (∃ condition, project.HasCondition condition ∧
        ¬condition.WellFormed ∧ ¬condition.ComparesFlag) ∨
      ∃ consequence, project.HasConsequence consequence ∧ ¬consequence.WellFormed
  | .kindCollision => ∃ key kind other,
      project.Uses key kind ∧ project.Uses key other ∧ kind ≠ other
  | .unreachableScene => ∃ id, project.LeavesOut id
  | .reservedTitle => False
  | .duplicateTitle => False

end Project

namespace Validation

variable {project : Project}

/-- Validation asks the same of targets. -/
theorem hasTarget_iff (project : Project) (choice : Choice) :
    hasTarget project choice = true ↔ project.LeadsSomewhere choice := by
  simp [hasTarget, Choice.isTerminal, Project.LeadsSomewhere]

/-- Validation collects exactly the uses of keys. -/
theorem mem_keyUses_iff (project : Project) (key : String) (kind : Kind) :
    (key, kind) ∈ keyUses project ↔ project.Uses key kind := by
  simp only [keyUses, List.mem_append, List.mem_filterMap, List.mem_flatMap, List.mem_map]
  constructor
  · rintro (⟨⟨_, value⟩, member, kinds⟩ | ⟨choice, has, ⟨condition, asked, same⟩ |
      ⟨consequence, caused, same⟩⟩)
    · obtain ⟨_, isKind, same⟩ := Option.map_eq_some_iff.mp kinds
      cases same
      exact .declared member ((value.declares_iff kind).mpr isKind)
    · cases same
      exact .condition ⟨choice, has, asked⟩
    · cases same
      exact .consequence ⟨choice, has, caused⟩
  · rintro (⟨member, declares⟩ | @⟨condition, choice, has, asked⟩ |
      @⟨consequence, choice, has, caused⟩)
    · exact .inl ⟨_, member, by rw [(VariableValue.declares_iff _ _).mp declares, Option.map_some]⟩
    · exact .inr ⟨choice, has, .inl ⟨condition, asked, rfl⟩⟩
    · exact .inr ⟨choice, has, .inr ⟨consequence, caused, rfl⟩⟩

/-- A report without errors is about a project that keeps all rules. -/
theorem structured_iff (project : Project) : Structured project ↔ project.WellStructured := by
  constructor
  · intro structured
    refine ⟨structured.scenes, ?_, structured.sceneIds, structured.choiceIds, ?_, ?_, ?_, ?_⟩
    · exact fun id named => (project.scene?_isSome_iff id).mp (structured.start id named)
    · rintro choice ⟨scene, inProject, inScene⟩
      exact (hasTarget_iff project choice).mp (structured.targets scene inProject choice inScene)
    · rintro condition ⟨choice, ⟨scene, inProject, inScene⟩, asked⟩
      exact condition.problem?_eq_none_iff.mp
        (structured.conditions scene inProject choice inScene condition asked)
    · rintro consequence ⟨choice, ⟨scene, inProject, inScene⟩, caused⟩
      exact consequence.problem?_eq_none_iff.mp
        (structured.consequences scene inProject choice inScene consequence caused)
    · intro key kind other used usedOther
      exact structured.kinds _ ((mem_keyUses_iff project key kind).mpr used) _
        ((mem_keyUses_iff project key other).mpr usedOther) rfl
  · intro rules
    refine ⟨rules.scenes, ?_, rules.sceneIds, rules.choiceIds, ?_, ?_, ?_, ?_⟩
    · exact fun id named => (project.scene?_isSome_iff id).mpr (rules.start id named)
    · intro scene inProject choice inScene
      exact (hasTarget_iff project choice).mpr (rules.targets choice ⟨scene, inProject, inScene⟩)
    · intro scene inProject choice inScene condition asked
      exact condition.problem?_eq_none_iff.mpr
        (rules.conditions condition ⟨choice, ⟨scene, inProject, inScene⟩, asked⟩)
    · intro scene inProject choice inScene consequence caused
      exact consequence.problem?_eq_none_iff.mpr
        (rules.consequences consequence ⟨choice, ⟨scene, inProject, inScene⟩, caused⟩)
    · rintro ⟨key, kind⟩ used ⟨_, other⟩ usedOther rfl
      exact rules.kinds key kind other ((mem_keyUses_iff project key kind).mp used)
        ((mem_keyUses_iff project key other).mp usedOther)

/-! ## Codes -/

/-- Some of the issues has the code. -/
def Reports (issues : List Issue) (code : IssueCode) : Prop :=
  ∃ issue ∈ issues, issue.code = code

theorem reports_append (first second : List Issue) (code : IssueCode) :
    Reports (first ++ second) code ↔ Reports first code ∨ Reports second code := by
  simp [Reports, or_and_right, exists_or]

/-- Issues that all have one code report this code, when there are any, and no other. -/
theorem reports_of_uniform {issues : List Issue} {own : IssueCode}
    (uniform : ∀ issue ∈ issues, issue.code = own) (code : IssueCode) :
    Reports issues code ↔ code = own ∧ issues ≠ [] := by
  constructor
  · rintro ⟨issue, member, rfl⟩
    exact ⟨uniform issue member, List.ne_nil_of_mem member⟩
  · rintro ⟨rfl, some⟩
    obtain ⟨issue, member⟩ := List.exists_mem_of_ne_nil issues some
    exact ⟨issue, member, uniform issue member⟩

theorem reports_flatMap {α : Type} (items : List α) (issues : α → List Issue) (code : IssueCode) :
    Reports (items.flatMap issues) code ↔ ∃ item ∈ items, Reports (issues item) code := by
  simp only [Reports, List.mem_flatMap]
  exact ⟨fun ⟨issue, ⟨item, member, found⟩, same⟩ => ⟨item, member, issue, found, same⟩,
    fun ⟨item, member, issue, found, same⟩ => ⟨issue, ⟨item, member, found⟩, same⟩⟩

theorem reports_startIssues_iff (project : Project) (code : IssueCode) :
    Reports (startIssues project) code ↔
      code = .noScenes ∧ project.Breaks .noScenes ∨
        code = .missingStart ∧ project.Breaks .missingStart := by
  simp only [Project.Breaks]
  unfold startIssues
  cases scenes : project.scenes with
  | nil => simp [Reports, noScenesIssue, eq_comm]
  | cons scene rest =>
    cases project.startSceneId with
    | none => simp [Reports]
    | some id =>
      have known := project.scene?_isSome_iff id
      by_cases member : id ∈ project.sceneIds
      · simp [Reports, known.mpr member, member]
      · simp [Reports, Bool.eq_false_iff.mpr (mt known.mp member), member, @eq_comm _ code]

theorem reports_choiceIdentityIssues_iff (scene : Scene) (code : IssueCode) :
    Reports (choiceIdentityIssues scene [] scene.choices) code ↔
      code = .duplicateChoice ∧ ¬(scene.choices.map (·.id)).Nodup := by
  have uniform (seen : List String) (choices : List Choice) :
      ∀ issue ∈ choiceIdentityIssues scene seen choices, issue.code = .duplicateChoice := by
    induction choices generalizing seen with
    | nil => simp [choiceIdentityIssues]
    | cons choice rest inductionHypothesis =>
      intro issue member
      simp only [choiceIdentityIssues, List.mem_append, List.mem_ite_nil_right,
        List.mem_singleton] at member
      rcases member with ⟨_, rfl⟩ | later
      · rfl
      · exact inductionHypothesis _ issue later
  rw [reports_of_uniform (uniform [] scene.choices), Ne, choiceIdentityIssues_eq_nil_iff]
  simp

/-- Ids that were seen before count as repeated. -/
theorem reports_identityIssues_iff (seen : List String) (scenes : List Scene) (code : IssueCode) :
    Reports (identityIssues seen scenes) code ↔
      code = .duplicateScene ∧
          ¬((scenes.map (·.id)).Nodup ∧ ∀ scene ∈ scenes, scene.id ∉ seen) ∨
        code = .duplicateChoice ∧ ∃ scene ∈ scenes, ¬(scene.choices.map (·.id)).Nodup := by
  induction scenes generalizing seen with
  | nil => simp [identityIssues, Reports]
  | cons scene rest inductionHypothesis =>
    have repeated : Reports (if seen.contains scene.id then
        [{ code := .duplicateScene
           message := "Scene id '" ++ scene.id ++ "' is used more than once."
           sceneId := some scene.id }] else []) code ↔
        code = .duplicateScene ∧ scene.id ∈ seen := by
      by_cases isSeen : scene.id ∈ seen <;> simp [isSeen, Reports, eq_comm]
    rw [identityIssues, reports_append, reports_append, repeated,
      reports_choiceIdentityIssues_iff, inductionHypothesis]
    simp only [List.map_cons, List.nodup_cons, List.mem_map, List.mem_cons, not_or]
    grind

theorem reports_targetIssues_iff (project : Project) (code : IssueCode) :
    Reports (targetIssues project) code ↔
      code = .danglingTarget ∧ project.Breaks .danglingTarget := by
  have uniform : ∀ issue ∈ targetIssues project, issue.code = .danglingTarget := by
    intro issue member
    obtain ⟨scene, _, inScene⟩ := List.mem_flatMap.mp member
    obtain ⟨choice, _, rfl⟩ := List.mem_map.mp inScene
    rfl
  rw [reports_of_uniform uniform, Ne, targetIssues_eq_nil_iff]
  simp only [hasTarget_iff, Project.Breaks, Project.HasChoice]
  grind

theorem reports_choiceRuleIssues_iff (scene : Scene) (choice : Choice) (code : IssueCode) :
    Reports (choiceRuleIssues scene choice) code ↔
      (∃ condition ∈ choice.requirements, ∃ problem,
        condition.problem? = some problem ∧ problem.code = code) ∨
      code = .invalidValue ∧ ∃ consequence ∈ choice.consequences, ¬consequence.WellFormed := by
  have ofConsequences : Reports (choice.consequences.filterMap fun consequence =>
        consequence.problem?.map fun problem =>
          ruleIssue scene choice .invalidValue problem.text) code ↔
      code = .invalidValue ∧ ∃ consequence ∈ choice.consequences, ¬consequence.WellFormed := by
    have uniform : ∀ issue ∈ choice.consequences.filterMap fun consequence =>
        consequence.problem?.map fun problem =>
          ruleIssue scene choice .invalidValue problem.text, issue.code = .invalidValue := by
      intro issue member
      obtain ⟨_, _, found⟩ := List.mem_filterMap.mp member
      obtain ⟨_, _, rfl⟩ := Option.map_eq_some_iff.mp found
      rfl
    rw [reports_of_uniform uniform, Ne, List.filterMap_eq_nil_iff]
    simp [Option.map_eq_none_iff, Consequence.problem?_eq_none_iff]
  rw [choiceRuleIssues, reports_append, ofConsequences]
  refine or_congr ?_ Iff.rfl
  simp only [Reports, List.mem_filterMap, Option.map_eq_some_iff]
  constructor
  · rintro ⟨_, ⟨condition, asked, problem, found, rfl⟩, same⟩
    exact ⟨condition, asked, problem, found, same⟩
  · rintro ⟨condition, asked, problem, found, same⟩
    exact ⟨_, ⟨condition, asked, problem, found, rfl⟩, same⟩

theorem reports_collisionIssues_iff (project : Project) (code : IssueCode) :
    Reports (collisionIssues project) code ↔
      code = .kindCollision ∧ project.Breaks .kindCollision := by
  have uniform : ∀ issue ∈ collisionIssues project, issue.code = .kindCollision := by
    intro issue member
    obtain ⟨key, _, found⟩ := List.mem_filterMap.mp member
    simp only [Option.ite_none_right_eq_some, Option.some.injEq] at found
    obtain ⟨_, rfl⟩ := found
    rfl
  rw [reports_of_uniform uniform, Ne, collisionIssues_eq_nil_iff]
  simp only [Prod.forall, mem_keyUses_iff, Project.Breaks]
  grind

/-- What is wrong with a condition has one of two codes: the operator of a flag one of its own. -/
theorem problem_code_iff (condition : Condition) (code : IssueCode) :
    (∃ problem, condition.problem? = some problem ∧ problem.code = code) ↔
      code = .flagOperator ∧ condition.ComparesFlag ∨
        code = .invalidValue ∧ ¬condition.WellFormed ∧ ¬condition.ComparesFlag := by
  rw [← condition.invalidValue_iff, ← condition.flagOperator_iff]
  constructor
  · rintro ⟨problem, found, rfl⟩
    cases problem with
    | flagOperator => exact .inl ⟨rfl, _, found, rfl⟩
    | flagValue => exact .inr ⟨rfl, _, found, rfl⟩
    | numberValue => exact .inr ⟨rfl, _, found, rfl⟩
  · rintro (⟨rfl, reported⟩ | ⟨rfl, reported⟩) <;> exact reported

theorem reports_rules_iff (project : Project) (code : IssueCode) :
    Reports (project.scenes.flatMap fun scene => scene.choices.flatMap (choiceRuleIssues scene))
      code ↔ code = .flagOperator ∧ project.Breaks .flagOperator ∨
        code = .invalidValue ∧ project.Breaks .invalidValue := by
  simp only [reports_flatMap, reports_choiceRuleIssues_iff, problem_code_iff]
  constructor
  · rintro ⟨scene, inProject, choice, inScene, ⟨condition, asked, wrong⟩ |
      ⟨isValue, consequence, caused, wrong⟩⟩
    · have has : project.HasCondition condition := ⟨choice, ⟨scene, inProject, inScene⟩, asked⟩
      rcases wrong with ⟨isOperator, wrong⟩ | ⟨isValue, wrong⟩
      · exact .inl ⟨isOperator, condition, has, wrong⟩
      · exact .inr ⟨isValue, .inl ⟨condition, has, wrong⟩⟩
    · exact .inr ⟨isValue, .inr ⟨consequence, ⟨choice, ⟨scene, inProject, inScene⟩, caused⟩, wrong⟩⟩
  · rintro (⟨isOperator, condition, ⟨choice, ⟨scene, inProject, inScene⟩, asked⟩, wrong⟩ |
      ⟨isValue, ⟨condition, ⟨choice, ⟨scene, inProject, inScene⟩, asked⟩, wrong⟩ |
        ⟨consequence, ⟨choice, ⟨scene, inProject, inScene⟩, caused⟩, wrong⟩⟩)
    · exact ⟨scene, inProject, choice, inScene, .inl ⟨condition, asked, .inl ⟨isOperator, wrong⟩⟩⟩
    · exact ⟨scene, inProject, choice, inScene, .inl ⟨condition, asked, .inr ⟨isValue, wrong⟩⟩⟩
    · exact ⟨scene, inProject, choice, inScene, .inr ⟨isValue, consequence, caused, wrong⟩⟩

/-! ## Warnings -/

theorem reachabilityIssues_code (project : Project) :
    ∀ issue ∈ reachabilityIssues project, issue.code = .unreachableScene := by
  intro issue member
  simp only [reachabilityIssues] at member
  split at member
  · exact absurd member List.not_mem_nil
  · obtain ⟨id, _, rfl⟩ := List.mem_map.mp member
    rfl

/-- Each of these issues is about a scene that the start does not lead to, and each such scene has
one of them. -/
theorem reachabilityIssues_sceneIds (project : Project) :
    ∃ ids : List String, (reachabilityIssues project).map (·.sceneId) = ids.map some ∧
      ids.Nodup ∧ ∀ id, id ∈ ids ↔ project.LeavesOut id := by
  cases started : project.startScene? with
  | none =>
    have nothing : reachabilityIssues project = [] := by
      simp [reachabilityIssues, Reachability.report, started]
    exact ⟨[], by rw [nothing]; rfl, List.nodup_nil, by simp [Project.LeavesOut, started]⟩
  | some start =>
    have hasStart : (Reachability.report project).start = some start.id := by
      simp [Reachability.report, started]
    refine ⟨(Reachability.report project).unreachable, by simp [reachabilityIssues, hasStart],
      Reachability.unreachable_nodup project, fun id => ?_⟩
    rw [Reachability.mem_unreachable_iff started]
    simp [Project.LeavesOut, started]

theorem reports_reachabilityIssues_iff (project : Project) (code : IssueCode) :
    Reports (reachabilityIssues project) code ↔
      code = .unreachableScene ∧ project.Breaks .unreachableScene := by
  rw [reports_of_uniform (reachabilityIssues_code project)]
  obtain ⟨ids, same, _, leftOut⟩ := reachabilityIssues_sceneIds project
  have nothing_iff : reachabilityIssues project = [] ↔ ids = [] := by
    rw [← List.map_eq_nil_iff, same, List.map_eq_nil_iff]
  simp only [Ne, nothing_iff, Project.Breaks, ← leftOut, List.eq_nil_iff_forall_not_mem,
    not_forall, not_not]

/-- The warnings of a report are those issues, in order. -/
theorem report_warnings (project : Project) :
    (report project).warnings = reachabilityIssues project := by
  have dropped : (errorIssues project).filter (·.severity = .warning) = [] :=
    List.filter_eq_nil_iff.mpr fun issue member => by simp [errorIssues_errors project issue member]
  have kept : (reachabilityIssues project).filter (·.severity = .warning) =
      reachabilityIssues project :=
    List.filter_eq_self.mpr fun issue member => by
      simp [reachabilityIssues_warnings project issue member]
  change (errorIssues project ++ reachabilityIssues project).filter (·.severity = .warning) = _
  rw [List.filter_append, dropped, kept, List.nil_append]

/-! ## The whole report -/

/-- A report has a code exactly when its rule is broken. -/
theorem reports_iff (project : Project) (code : IssueCode) :
    Reports (report project).issues code ↔ project.Breaks code := by
  simp only [report, ruleIssues, reports_append, reports_startIssues_iff,
    reports_identityIssues_iff, reports_targetIssues_iff, reports_rules_iff,
    reports_collisionIssues_iff, reports_reachabilityIssues_iff]
  cases code <;> simp [Project.Breaks, Project.sceneIds]

/-- A project is valid exactly when it keeps all rules. -/
theorem isValid_iff_wellStructured (project : Project) :
    (report project).isValid = true ↔ project.WellStructured :=
  (isValid_iff project).trans (structured_iff project)

/-- Validation decides the structural rules: a project is valid exactly when it keeps them all, and
each code is reported exactly when its own rule is broken. The warnings are the scenes that the
start does not lead to, each of them once. -/
theorem report_decides_rules (project : Project) :
    ((report project).isValid = true ↔ project.WellStructured) ∧
      (∀ code, Reports (report project).issues code ↔ project.Breaks code) ∧
      (∀ warning ∈ (report project).warnings, warning.code = .unreachableScene) ∧
      ∃ ids : List String, (report project).warnings.map (·.sceneId) = ids.map some ∧
        ids.Nodup ∧ ∀ id, id ∈ ids ↔ project.LeavesOut id := by
  rw [report_warnings]
  exact ⟨isValid_iff_wellStructured project, reports_iff project,
    reachabilityIssues_code project, reachabilityIssues_sceneIds project⟩

end Validation

end Gamebook
