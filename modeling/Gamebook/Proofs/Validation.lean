import Gamebook.Proofs.Entries
import Gamebook.Proofs.Story.Schema
import Gamebook.Proofs.Text.Order
import Gamebook.Validation

/-!
# What a report without errors says

Each rule of validation finds nothing exactly when its own condition holds, stated
here without the scan that looks for it. Everything but unreachable scenes is an error,
so a project is valid exactly when all the conditions hold together. Warnings say
nothing about validity.
-/

namespace Gamebook

/-! ## Sorted sets -/

/-- A sorted set has at most one member exactly when all texts of the list are the same. -/
theorem sortedSet_length_le_one_iff (texts : List String) :
    (sortedSet texts).length ≤ 1 ↔ ∀ a ∈ texts, ∀ b ∈ texts, a = b := by
  rw [(sortedSet_perm texts).length_eq]
  constructor
  · intro atMostOne a aMember b bMember
    rw [← List.mem_eraseDups] at aMember bMember
    match texts.eraseDups, atMostOne, aMember, bMember with
    | [only], _, aMember, bMember =>
      rw [List.mem_singleton.mp aMember, List.mem_singleton.mp bMember]
  · intro same
    cases texts with
    | nil => simp
    | cons first rest =>
      have noOther : rest.filter (fun text => !text == first) = [] := by
        rw [List.filter_eq_nil_iff]
        intro text member
        have equal : text = first :=
          same text (List.mem_cons_of_mem _ member) first List.mem_cons_self
        simp [equal]
      simp [List.eraseDups_cons, noOther]

namespace Validation

variable {project : Project}

/-! ## The rules, one by one -/

theorem startIssues_eq_nil_iff (project : Project) :
    startIssues project = [] ↔ project.scenes ≠ [] ∧
      ∀ id, project.startSceneId = some id → (project.scene? id).isSome = true := by
  unfold startIssues
  cases scenes : project.scenes with
  | nil => simp
  | cons scene rest =>
    cases project.startSceneId with
    | none => simp
    | some id => cases found : project.scene? id <;> simp [found]

theorem choiceIdentityIssues_eq_nil_iff (scene : Scene) (seen : List String)
    (choices : List Choice) :
    choiceIdentityIssues scene seen choices = [] ↔
      (choices.map (·.id)).Nodup ∧ ∀ choice ∈ choices, choice.id ∉ seen := by
  induction choices generalizing seen with
  | nil => simp [choiceIdentityIssues]
  | cons choice rest inductionHypothesis =>
    by_cases repeated : choice.id ∈ seen
    · simp [choiceIdentityIssues, repeated]
    · simp only [choiceIdentityIssues, List.contains_eq_mem, repeated, decide_false,
        Bool.false_eq_true, if_false, List.nil_append, inductionHypothesis, List.map_cons,
        List.nodup_cons, List.mem_map, List.mem_cons, not_or]
      grind

theorem identityIssues_eq_nil_iff (seen : List String) (scenes : List Scene) :
    identityIssues seen scenes = [] ↔ (scenes.map (·.id)).Nodup ∧
      (∀ scene ∈ scenes, scene.id ∉ seen) ∧
      ∀ scene ∈ scenes, (scene.choices.map (·.id)).Nodup := by
  induction scenes generalizing seen with
  | nil => simp [identityIssues]
  | cons scene rest inductionHypothesis =>
    by_cases repeated : scene.id ∈ seen
    · simp [identityIssues, repeated]
    · simp only [identityIssues, List.contains_eq_mem, repeated, decide_false,
        Bool.false_eq_true, if_false, List.nil_append, List.append_eq_nil_iff,
        choiceIdentityIssues_eq_nil_iff, inductionHypothesis, List.map_cons, List.nodup_cons,
        List.mem_map, List.mem_cons, not_or]
      grind

theorem targetIssues_eq_nil_iff (project : Project) :
    targetIssues project = [] ↔
      ∀ scene ∈ project.scenes, ∀ choice ∈ scene.choices, hasTarget project choice = true := by
  simp [targetIssues, List.flatMap_eq_nil_iff, List.filter_eq_nil_iff]

theorem choiceRuleIssues_eq_nil_iff (scene : Scene) (choice : Choice) :
    choiceRuleIssues scene choice = [] ↔
      (∀ condition ∈ choice.requirements, condition.problem? = none) ∧
        ∀ consequence ∈ choice.consequences, consequence.problem? = none := by
  simp [choiceRuleIssues, List.filterMap_eq_nil_iff]

theorem kind_name_injective {a b : Kind} (same : a.name = b.name) : a = b := by
  cases a <;> cases b <;> first | rfl | exact absurd same (by decide)

/-- A key has at most one kind name exactly when its uses agree on the kind. -/
theorem kindNames_length_le_one_iff (project : Project) (key : String) :
    (kindNames project key).length ≤ 1 ↔
      ∀ a b, (key, a) ∈ keyUses project → (key, b) ∈ keyUses project → a = b := by
  rw [kindNames, sortedSet_length_le_one_iff]
  simp only [List.mem_map, List.mem_filter, beq_iff_eq, forall_exists_index, and_imp, Prod.forall]
  constructor
  · intro sameNames a b usedAsA usedAsB
    exact kind_name_injective
      (sameNames a.name key a usedAsA rfl rfl b.name key b usedAsB rfl rfl)
  · rintro sameKinds _ _ a usedAsA rfl rfl _ _ b usedAsB rfl rfl
    exact congrArg Kind.name (sameKinds a b usedAsA usedAsB)

/-- No key collides exactly when any two uses of a key agree on the kind. -/
theorem collisionIssues_eq_nil_iff (project : Project) :
    collisionIssues project = [] ↔
      ∀ use ∈ keyUses project, ∀ other ∈ keyUses project, use.1 = other.1 → use.2 = other.2 := by
  constructor
  · rintro none ⟨key, a⟩ usedAsA ⟨_, b⟩ usedAsB rfl
    have listed : key ∈ sortedSet ((keyUses project).map (·.1)) :=
      (mem_sortedSet _ _).mpr (List.mem_map.mpr ⟨(key, a), usedAsA, rfl⟩)
    have few := List.filterMap_eq_nil_iff.mp none key listed
    have atMostOne : (kindNames project key).length ≤ 1 :=
      Nat.not_lt.mp fun many => by simp [many] at few
    exact (kindNames_length_le_one_iff project key).mp atMostOne a b usedAsA usedAsB
  · intro same
    refine List.filterMap_eq_nil_iff.mpr fun key _ => ?_
    have atMostOne := (kindNames_length_le_one_iff project key).mpr fun a b usedAsA usedAsB =>
      same (key, a) usedAsA (key, b) usedAsB rfl
    simp [Nat.not_lt.mpr atMostOne]

/-! ## All rules together -/

/-- What a project without structural errors is like. -/
structure Structured (project : Project) : Prop where
  scenes : project.scenes ≠ []
  start : ∀ id, project.startSceneId = some id → (project.scene? id).isSome = true
  sceneIds : (project.scenes.map (·.id)).Nodup
  choiceIds : ∀ scene ∈ project.scenes, (scene.choices.map (·.id)).Nodup
  targets : ∀ scene ∈ project.scenes, ∀ choice ∈ scene.choices, hasTarget project choice = true
  conditions : ∀ scene ∈ project.scenes, ∀ choice ∈ scene.choices,
    ∀ condition ∈ choice.requirements, condition.problem? = none
  consequences : ∀ scene ∈ project.scenes, ∀ choice ∈ scene.choices,
    ∀ consequence ∈ choice.consequences, consequence.problem? = none
  kinds : ∀ use ∈ keyUses project, ∀ other ∈ keyUses project, use.1 = other.1 → use.2 = other.2

/-- The issues that are errors, rule by rule. -/
def errorIssues (project : Project) : List Issue :=
  startIssues project ++ identityIssues [] project.scenes ++ targetIssues project ++
    ruleIssues project

theorem errorIssues_eq_nil_iff (project : Project) :
    errorIssues project = [] ↔ Structured project := by
  simp only [errorIssues, ruleIssues, List.append_eq_nil_iff, startIssues_eq_nil_iff,
    identityIssues_eq_nil_iff, targetIssues_eq_nil_iff, List.flatMap_eq_nil_iff,
    choiceRuleIssues_eq_nil_iff, collisionIssues_eq_nil_iff]
  constructor
  · rintro ⟨⟨⟨⟨scenes, start⟩, sceneIds, _, choiceIds⟩, targets⟩, rules, kinds⟩
    exact ⟨scenes, start, sceneIds, choiceIds, targets,
      fun scene sceneMember choice choiceMember =>
        (rules scene sceneMember choice choiceMember).1,
      fun scene sceneMember choice choiceMember =>
        (rules scene sceneMember choice choiceMember).2, kinds⟩
  · intro structured
    exact ⟨⟨⟨⟨structured.scenes, structured.start⟩, structured.sceneIds, by simp,
      structured.choiceIds⟩, structured.targets⟩,
      fun scene sceneMember choice choiceMember =>
        ⟨structured.conditions scene sceneMember choice choiceMember,
          structured.consequences scene sceneMember choice choiceMember⟩, structured.kinds⟩

theorem choiceIdentityIssues_errors (scene : Scene) (seen : List String) (choices : List Choice) :
    ∀ issue ∈ choiceIdentityIssues scene seen choices, issue.severity = .error := by
  induction choices generalizing seen with
  | nil => simp [choiceIdentityIssues]
  | cons choice rest inductionHypothesis =>
    intro issue member
    rcases List.mem_append.mp member with here | later
    · split at here
      · rw [List.mem_singleton.mp here]
        rfl
      · exact absurd here List.not_mem_nil
    · exact inductionHypothesis _ issue later

theorem identityIssues_errors (seen : List String) (scenes : List Scene) :
    ∀ issue ∈ identityIssues seen scenes, issue.severity = .error := by
  induction scenes generalizing seen with
  | nil => simp [identityIssues]
  | cons scene rest inductionHypothesis =>
    intro issue member
    rcases List.mem_append.mp member with here | later
    · rcases List.mem_append.mp here with here | inChoices
      · split at here
        · rw [List.mem_singleton.mp here]
          rfl
        · exact absurd here List.not_mem_nil
      · exact choiceIdentityIssues_errors scene [] scene.choices issue inChoices
    · exact inductionHypothesis _ issue later

theorem startIssues_errors (project : Project) :
    ∀ issue ∈ startIssues project, issue.severity = .error := by
  intro issue member
  unfold startIssues at member
  split at member
  · rw [List.mem_singleton.mp member]
    rfl
  · split at member
    · exact absurd member List.not_mem_nil
    · split at member
      · exact absurd member List.not_mem_nil
      · rw [List.mem_singleton.mp member]
        rfl

theorem targetIssues_errors (project : Project) :
    ∀ issue ∈ targetIssues project, issue.severity = .error := by
  intro issue member
  obtain ⟨scene, _, inScene⟩ := List.mem_flatMap.mp member
  obtain ⟨choice, _, rfl⟩ := List.mem_map.mp inScene
  rfl

theorem choiceRuleIssues_errors (scene : Scene) (choice : Choice) :
    ∀ issue ∈ choiceRuleIssues scene choice, issue.severity = .error := by
  intro issue member
  rcases List.mem_append.mp member with ofCondition | ofConsequence
  · obtain ⟨condition, _, found⟩ := List.mem_filterMap.mp ofCondition
    obtain ⟨problem, _, rfl⟩ := Option.map_eq_some_iff.mp found
    cases problem <;> rfl
  · obtain ⟨consequence, _, found⟩ := List.mem_filterMap.mp ofConsequence
    obtain ⟨problem, _, rfl⟩ := Option.map_eq_some_iff.mp found
    rfl

theorem collisionIssues_errors (project : Project) :
    ∀ issue ∈ collisionIssues project, issue.severity = .error := by
  intro issue member
  obtain ⟨key, _, found⟩ := List.mem_filterMap.mp member
  simp only at found
  split at found
  · rw [← Option.some.inj found]
    rfl
  · nomatch found

/-- Every one of these issues is an error. -/
theorem errorIssues_errors (project : Project) :
    ∀ issue ∈ errorIssues project, issue.severity = .error := by
  intro issue member
  simp only [errorIssues, ruleIssues, List.mem_append, List.mem_flatMap] at member
  rcases member with ((atStart | atIdentity) | atTarget) | ⟨scene, _, choice, _, atRule⟩ | atKey
  · exact startIssues_errors project issue atStart
  · exact identityIssues_errors [] project.scenes issue atIdentity
  · exact targetIssues_errors project issue atTarget
  · exact choiceRuleIssues_errors scene choice issue atRule
  · exact collisionIssues_errors project issue atKey

/-- Unreachable scenes are warnings. -/
theorem reachabilityIssues_warnings (project : Project) :
    ∀ issue ∈ reachabilityIssues project, issue.severity = .warning := by
  intro issue member
  simp only [reachabilityIssues] at member
  split at member
  · exact absurd member List.not_mem_nil
  · obtain ⟨id, _, rfl⟩ := List.mem_map.mp member
    rfl

/-- The errors of a report are those issues, in order. -/
theorem report_errors (project : Project) : (report project).errors = errorIssues project := by
  have kept : (errorIssues project).filter (·.severity = .error) = errorIssues project :=
    List.filter_eq_self.mpr fun issue member => by simp [errorIssues_errors project issue member]
  have dropped : (reachabilityIssues project).filter (·.severity = .error) = [] :=
    List.filter_eq_nil_iff.mpr fun issue member => by
      simp [reachabilityIssues_warnings project issue member]
  change (errorIssues project ++ reachabilityIssues project).filter (·.severity = .error) = _
  rw [List.filter_append, kept, dropped, List.append_nil]

/-- A project is valid exactly when it is structured. -/
theorem isValid_iff (project : Project) :
    (report project).isValid = true ↔ Structured project := by
  rw [Report.isValid, report_errors, List.isEmpty_iff, errorIssues_eq_nil_iff]

theorem lampStory_structured : Structured lampStory where
  scenes := by decide
  start := by decide
  sceneIds := by decide
  choiceIds := by decide
  targets := by decide
  conditions := by decide
  consequences := by decide
  kinds := by decide

/-! ## Titles of passages -/

/-- Titles raise no issue exactly when they differ, none is that of the ending and none was
seen before. -/
theorem titleIssues_eq_nil_iff (seen : Entries String) (scenes : List Scene) :
    titleIssues seen scenes = [] ↔ (scenes.map fun scene => passageTitle scene.title).Nodup ∧
      (∀ scene ∈ scenes, passageTitle scene.title ≠ endTitle) ∧
      ∀ scene ∈ scenes, seen.get? (passageTitle scene.title) = none := by
  induction scenes generalizing seen with
  | nil => simp [titleIssues]
  | cons scene rest inductionHypothesis =>
    cases found : seen.get? (passageTitle scene.title) with
    | some other => simp [titleIssues, found]
    | none =>
      simp only [titleIssues, found, List.append_eq_nil_iff, ite_eq_right_iff, List.cons_ne_nil,
        imp_false, inductionHypothesis, Entries.get?_put, List.map_cons, List.nodup_cons,
        List.mem_map, List.mem_cons]
      grind

theorem titleIssues_errors (seen : Entries String) (scenes : List Scene) :
    ∀ issue ∈ titleIssues seen scenes, issue.severity = .error := by
  induction scenes generalizing seen with
  | nil => simp [titleIssues]
  | cons scene rest inductionHypothesis =>
    intro issue member
    simp only [titleIssues] at member
    split at member <;>
      simp only [List.mem_append, List.mem_ite_nil_right, List.mem_singleton] at member
    next =>
      rcases member with (⟨_, rfl⟩ | rfl) | later
      · rfl
      · rfl
      · exact inductionHypothesis _ issue later
    next =>
      rcases member with ⟨_, rfl⟩ | later
      · rfl
      · exact inductionHypothesis _ issue later

/-- A project can be written as a script exactly when it is structured and the titles of its
passages differ from each other and from that of the ending. -/
theorem scriptReport_isValid_iff (project : Project) :
    (scriptReport project).isValid = true ↔ Structured project ∧
      (project.scenes.map fun scene => passageTitle scene.title).Nodup ∧
      ∀ scene ∈ project.scenes, passageTitle scene.title ≠ endTitle := by
  have errors : (scriptReport project).errors =
      errorIssues project ++ titleIssues [] project.scenes := by
    have kept : (titleIssues [] project.scenes).filter (·.severity = .error) =
        titleIssues [] project.scenes :=
      List.filter_eq_self.mpr fun issue member => by
        simp [titleIssues_errors [] project.scenes issue member]
    rw [← report_errors, ← kept]
    exact List.filter_append _ _
  rw [Report.isValid, errors, List.isEmpty_iff, List.append_eq_nil_iff, errorIssues_eq_nil_iff,
    titleIssues_eq_nil_iff]
  simp

end Validation

end Gamebook
