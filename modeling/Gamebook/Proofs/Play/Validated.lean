import Gamebook.Proofs.Play.Kinds
import Gamebook.Proofs.Play.SavedState
import Gamebook.Proofs.Validation

/-!
# Playing a valid project

Validation looks at all rules of a project at once, while play meets them one by one
with a table of kinds that grows. The link is that every kind in the table is a use of
its key somewhere in the project, and in a valid project any two uses of a key agree. So
a choice is only ever locked by a comparison that is not met, and an open choice is
taken: its target is there and its consequences fit the table.
-/

namespace Gamebook

/-! ## Why a condition does not hold -/

/-- The comparison that a usable condition makes is false of what the player has. -/
def Condition.Unmet (condition : Condition) (state : PlayerState) : Prop :=
  condition.problem? = none ∧ conflict? state.kinds condition.key condition.kind = none ∧
    match condition.kind with
    | .item => ∃ count, state.itemCount condition.key = .ok count ∧
        condition.operator.holds (.int count) condition.value = false
    | .attribute =>
        condition.operator.holds (state.attributeValue condition.key) condition.value = false
    | .flag => state.flag condition.key ≠ condition.value.isTrue

theorem Condition.compare_some {condition : Condition} {current : Scalar} {reason : Reason}
    (compared : condition.compare current = .ok (some reason)) :
    condition.operator.holds current condition.value = false := by
  unfold compare at compared
  cases held : condition.operator.holds current condition.value with
  | true => simp [held] at compared
  | false => rfl

/-- A well-formed condition whose key has no other kind fails only by its comparison. -/
theorem Condition.unmet_of_reason {condition : Condition} {state : PlayerState}
    {reason : Reason} (wellFormed : condition.problem? = none)
    (free : conflict? state.kinds condition.key condition.kind = none)
    (failed : condition.reason? state = .ok (some reason)) : condition.Unmet state := by
  refine ⟨wellFormed, free, ?_⟩
  simp only [reason?, wellFormed, free, judge] at failed
  match kind : condition.kind with
  | .item =>
    rw [kind] at failed
    obtain ⟨count, counted, failed⟩ := Except.bind_ok_iff.mp failed
    exact ⟨count, counted, compare_some failed⟩
  | .attribute =>
    simp only [kind] at failed
    exact compare_some failed
  | .flag =>
    simp only [kind] at failed
    intro same
    simp [same] at failed

/-- A reason that some conditions fail is the reason of one of them. -/
theorem firstReason?_some {state : PlayerState} {conditions : List Condition} {reason : Reason}
    (failed : firstReason? state conditions = .ok (some reason)) :
    ∃ condition ∈ conditions, condition.reason? state = .ok (some reason) := by
  induction conditions with
  | nil => simp [firstReason?] at failed
  | cons condition rest inductionHypothesis =>
    unfold firstReason? at failed
    split at failed
    · nomatch failed
    next other first =>
      obtain rfl : other = reason := by simpa using failed
      exact ⟨condition, List.mem_cons_self, first⟩
    next =>
      obtain ⟨later, member, failsLater⟩ := inductionHypothesis failed
      exact ⟨later, List.mem_cons_of_mem _ member, failsLater⟩

namespace Project

/-! ## The table of kinds -/

/-- Every kind of a table is a use of its key in the project. -/
def Declares (project : Project) (kinds : Entries Kind) : Prop :=
  ∀ key kind, kinds.get? key = some kind → (key, kind) ∈ Validation.keyUses project

/-- Every rule of a choice of the project is a use of its key. -/
theorem rules_used {project : Project} {scene : Scene} (inProject : scene ∈ project.scenes)
    {choice : Choice} (inScene : choice ∈ scene.choices) :
    (∀ condition ∈ choice.requirements,
      (condition.key, condition.kind) ∈ Validation.keyUses project) ∧
    ∀ consequence ∈ choice.consequences,
      (consequence.key, consequence.kind) ∈ Validation.keyUses project := by
  have listed : choice ∈ project.scenes.flatMap (·.choices) :=
    List.mem_flatMap.mpr ⟨scene, inProject, inScene⟩
  constructor
  · intro condition member
    exact List.mem_append_right _ (List.mem_flatMap.mpr ⟨choice, listed,
      List.mem_append_left _ (List.mem_map.mpr ⟨condition, member, rfl⟩)⟩)
  · intro consequence member
    exact List.mem_append_right _ (List.mem_flatMap.mpr ⟨choice, listed,
      List.mem_append_right _ (List.mem_map.mpr ⟨consequence, member, rfl⟩)⟩)

variable {project : Project}

/-- In a structured project a used key conflicts with no table of declared kinds. -/
theorem Declares.free (structured : Validation.Structured project) {kinds : Entries Kind}
    (declares : project.Declares kinds) {key : String} {kind : Kind}
    (used : (key, kind) ∈ Validation.keyUses project) :
    Condition.conflict? kinds key kind = none := by
  rw [Condition.conflict?_eq_none_iff]
  cases bound : kinds.get? key with
  | none => exact .inl rfl
  | some held =>
    have same : held = kind :=
      structured.kinds (key, held) (declares key held bound) (key, kind) used rfl
    exact .inr (same ▸ rfl)

/-- Consequences of the project that can be applied at all are applied without a refusal, and
leave a table of declared kinds. -/
theorem applyAll_not_refused (structured : Validation.Structured project) {store : Store}
    (declares : project.Declares store.kinds) {consequences : List Consequence}
    (used : ∀ consequence ∈ consequences,
      (consequence.key, consequence.kind) ∈ Validation.keyUses project)
    (wellFormed : ∀ consequence ∈ consequences, consequence.problem? = none)
    {applied : Applied} (done : applyAll store consequences = .ok applied) :
    ∃ next, applied = .store next ∧ project.Declares next.kinds := by
  induction consequences generalizing store with
  | nil => exact ⟨store, (Except.ok.inj done).symm, declares⟩
  | cons consequence rest inductionHypothesis =>
    have free := declares.free structured (used consequence List.mem_cons_self)
    have usable := wellFormed consequence List.mem_cons_self
    cases result : consequence.result store.values with
    | error fault =>
      simp [applyAll, Consequence.apply, usable, free, result, Except.map] at done
    | ok value =>
      have first := (Consequence.apply_store_iff consequence store _).mpr
        ⟨usable, free, value, result, rfl⟩
      simp only [applyAll, first] at done
      refine inductionHypothesis ?_ (fun later member => used later (List.mem_cons_of_mem _ member))
        (fun later member => wellFormed later (List.mem_cons_of_mem _ member)) done
      intro key kind bound
      rw [Entries.get?_put] at bound
      split at bound
      next same =>
        exact same ▸ Option.some.inj bound ▸ used consequence List.mem_cons_self
      next => exact declares key kind bound

/-- A structured project has a start scene. -/
theorem startScene?_of_structured (structured : Validation.Structured project) :
    ∃ start, project.startScene? = some start := by
  unfold startScene?
  split
  next id named => exact Option.isSome_iff_exists.mp (structured.start id named)
  next => exact ⟨_, List.head?_eq_some_head structured.scenes⟩

/-- Every run from the start of a structured project keeps a table of declared kinds. -/
theorem Run.declares (structured : Validation.Structured project) {start state : PlayerState}
    {attempts : List Attempt} (started : project.reset = .ok start)
    (run : Run project start attempts state) : project.Declares state.kinds := by
  refine run.keeps (fun state => project.Declares state.kinds) ?_ ?_
  · obtain ⟨scene, _, rfl⟩ := (reset_ok_iff project start).mp started
    exact fun _ _ bound => nomatch bound
  · intro before choiceId choice next declares selected
    obtain ⟨scene, store, here, inScene, _, _, applied, rfl⟩ := taken_of_accepted selected
    have inProject : scene ∈ project.scenes := mem_of_scene? here
    obtain ⟨left, same, leftDeclares⟩ := applyAll_not_refused structured declares
      (rules_used inProject inScene).2
      (structured.consequences scene inProject choice inScene) applied
    obtain rfl := Applied.store.inj same
    exact leftDeclares

/-! ## The displayed choices -/

/-- Choices are displayed one by one, each with the reason its requirements give. -/
theorem displayFrom_cons_iff (state : PlayerState) (index : Nat) (choice : Choice)
    (rest : List Choice) (entries : List Availability) :
    displayFrom state index (choice :: rest) = .ok entries ↔
      ∃ reason others, firstReason? state choice.requirements = .ok reason ∧
        displayFrom state (index + 1) rest = .ok others ∧
        entries = ⟨choice, index, reason⟩ :: others := by
  simp [displayFrom, Except.bind_ok_iff, @eq_comm _ entries]

/-- A displayed choice is a choice of the scene with the reason its requirements give. -/
theorem mem_displayFrom {state : PlayerState} {index : Nat} {choices : List Choice}
    {entries : List Availability} (displayed : displayFrom state index choices = .ok entries)
    {entry : Availability} (member : entry ∈ entries) :
    entry.choice ∈ choices ∧
      firstReason? state entry.choice.requirements = .ok entry.reason := by
  induction choices generalizing index entries with
  | nil =>
    obtain rfl := Except.ok.inj displayed
    exact absurd member List.not_mem_nil
  | cons choice rest inductionHypothesis =>
    obtain ⟨reason, others, judged, later, rfl⟩ :=
      (displayFrom_cons_iff state index choice rest entries).mp displayed
    rcases List.mem_cons.mp member with rfl | inLater
    · exact ⟨List.mem_cons_self, judged⟩
    · obtain ⟨listed, reasoned⟩ := inductionHypothesis later inLater
      exact ⟨List.mem_cons_of_mem _ listed, reasoned⟩

/-- A target that validation finds is one that play reaches. -/
theorem reaches_of_hasTarget {choice : Choice}
    (found : Validation.hasTarget project choice = true) : project.reaches choice = true := by
  simp only [Validation.hasTarget, Bool.or_eq_true, List.contains_iff_mem] at found
  simp only [reaches, Bool.or_eq_true, scene?_isSome_iff]
  exact found

/-- What taking a displayed choice of a structured project comes to: an open one is taken, a
locked one is refused with the reason it is displayed with. -/
theorem take_of_displayed (structured : Validation.Structured project) {state : PlayerState}
    (declares : project.Declares state.kinds) {scene : Scene}
    (inProject : scene ∈ project.scenes) {choice : Choice} (inScene : choice ∈ scene.choices)
    {reason : Option Reason} (judged : firstReason? state choice.requirements = .ok reason)
    {result : Refusal ⊕ PlayerState} (taken : project.take state choice = .ok result) :
    (∃ next, result = .inr next ∧ reason = none) ∨
      ∃ unmet, result = .inl (.unmet unmet) ∧ reason = some unmet := by
  unfold take at taken
  rw [judged] at taken
  cases reason with
  | some unmet => exact .inr ⟨unmet, (Except.ok.inj taken).symm, rfl⟩
  | none =>
    have reached : project.reaches choice = true :=
      reaches_of_hasTarget (structured.targets scene inProject choice inScene)
    simp only [reached, Bool.not_true, Bool.false_eq_true, if_false] at taken
    cases applied : applyAll state.store choice.consequences with
    | error fault => simp [applied] at taken
    | ok left =>
      obtain ⟨next, rfl, _⟩ := applyAll_not_refused structured declares
        (rules_used inProject inScene).2
        (structured.consequences scene inProject choice inScene) applied
      simp only [applied, Except.ok.injEq] at taken
      exact .inl ⟨advance state choice next, taken.symm, rfl⟩

/-- An entry that is displayed belongs to the current scene. -/
theorem scene_of_displayed {project : Project} {state : PlayerState} {entries : List Availability}
    (displayed : project.display state none = .ok entries) {entry : Availability}
    (member : entry ∈ entries) : ∃ scene, project.currentScene? state = some scene ∧
      displayFrom state 0 scene.choices = .ok entries := by
  unfold display at displayed
  split at displayed
  next scene here => exact ⟨scene, by simpa using here, displayed⟩
  next =>
    obtain rfl := Except.ok.inj displayed
    exact absurd member List.not_mem_nil

/-- A valid project can be started, and wherever play leads, a choice is locked only by a
comparison that is not met; while the story goes on, exactly the open choices are taken, and a
locked one is refused with the reason it is displayed with. -/
theorem valid_project_plays (project : Project)
    (valid : (Validation.report project).isValid = true) :
    (∃ start, project.reset = .ok start) ∧
    ∀ start attempts state entries, project.reset = .ok start →
      Run project start attempts state → project.display state none = .ok entries →
      ∀ entry ∈ entries,
        (∀ reason, entry.reason = some reason → ∃ condition ∈ entry.choice.requirements,
          condition.reason? state = .ok (some reason) ∧ condition.Unmet state) ∧
        (state.isEnded = false → ∀ outcome,
          project.select state entry.choice.id = .ok outcome →
          (outcome.isAccepted = true ↔ entry.isAllowed = true) ∧
          ∀ id refusal left, outcome = .rejected id refusal left →
            ∃ reason, entry.reason = some reason ∧ refusal = .unmet reason) := by
  have structured := (Validation.isValid_iff project).mp valid
  constructor
  · obtain ⟨start, found⟩ := startScene?_of_structured structured
    exact ⟨_, (reset_ok_iff project _).mpr ⟨start, found, rfl⟩⟩
  intro start attempts state entries started run displayed entry member
  have declares := run.declares structured started
  obtain ⟨scene, here, shown⟩ := scene_of_displayed displayed member
  have inProject : scene ∈ project.scenes := mem_of_scene? here
  obtain ⟨inScene, judged⟩ := mem_displayFrom shown member
  constructor
  · intro reason locked
    rw [locked] at judged
    obtain ⟨condition, required, failed⟩ := firstReason?_some judged
    exact ⟨condition, required, failed, Condition.unmet_of_reason
      (structured.conditions scene inProject entry.choice inScene condition required)
      (declares.free structured ((rules_used inProject inScene).1 condition required)) failed⟩
  · intro active outcome selected
    have current : project.currentChoice? state entry.choice.id = some entry.choice := by
      simp [currentChoice?, here, Scene.choice?_of_mem (structured.choiceIds scene inProject) inScene]
    rcases select_cases selected with ⟨choice, next, rfl, _, found, taken⟩ |
      ⟨refusal, rfl, ⟨ended, _⟩ | ⟨_, none, _⟩ | ⟨_, choice, found, taken⟩⟩
    · obtain rfl := Option.some.inj (current.symm.trans found)
      rcases take_of_displayed structured declares inProject inScene judged taken with
        ⟨_, _, isOpen⟩ | ⟨_, same, _⟩
      · simp [Outcome.isAccepted, Availability.isAllowed, isOpen]
      · cases same
    · simp [active] at ended
    · simp [current] at none
    · obtain rfl := Option.some.inj (current.symm.trans found)
      rcases take_of_displayed structured declares inProject inScene judged taken with
        ⟨_, same, _⟩ | ⟨reason, same, locked⟩
      · cases same
      · obtain rfl := Sum.inl.inj same
        simp [Outcome.isAccepted, Availability.isAllowed, locked]

/-- Without the lamp the way down is locked by the light; with it, it is open and taken. -/
theorem valid_project_plays_lamp : (Validation.report lampStory).isValid = true ∧
    lampStory.reset = .ok { sceneId := "hall" } ∧
    Run lampStory { sceneId := "hall" } lampAttempts lampTaken ∧
    (∃ condition ∈ lampStory.scenes[0].choices[1].requirements,
      condition.Unmet { sceneId := "hall" }) ∧
    ∃ outcome, lampStory.select lampTaken "down" = .ok outcome ∧ outcome.isAccepted = true := by
  have valid := (Validation.isValid_iff lampStory).mpr Validation.lampStory_structured
  have started : lampStory.reset = .ok { sceneId := "hall" } := rfl
  let take : Choice := lampStory.scenes[0].choices[0]
  let down : Choice := lampStory.scenes[0].choices[1]
  have locked : lampStory.display { sceneId := "hall" } none = .ok [⟨take, 0, none⟩,
      ⟨down, 1, some (.flagDiffers "lit" true)⟩] := rfl
  have unlocked : lampStory.display lampTaken none = .ok [⟨take, 0, none⟩, ⟨down, 1, none⟩] := rfl
  have plays := (valid_project_plays lampStory valid).2 { sceneId := "hall" }
  obtain ⟨condition, required, _, unmet⟩ := (plays [] _ _ started .begin locked _
    (List.mem_cons_of_mem _ List.mem_cons_self)).1 _ rfl
  obtain ⟨outcome, selected⟩ : ∃ outcome, lampStory.select lampTaken "down" = .ok outcome :=
    ⟨_, rfl⟩
  have taken := (plays lampAttempts lampTaken _ started lamp_run unlocked _
    (List.mem_cons_of_mem _ List.mem_cons_self)).2 rfl outcome selected
  exact ⟨valid, started, lamp_run, ⟨condition, required, unmet⟩, outcome, selected,
    taken.1.mpr rfl⟩

end Project

end Gamebook
