import Gamebook.Generation
import Gamebook.Proofs.Reply.Scene

/-!
# Generated scenes

A generated scene is added to a project under an id that no scene of it has. Whatever the
provider replies, the scene is detached as long as the texts that were drawn from the source
give its choices different ids, so it breaks no rule of a valid project and is the only scene
that becomes unreachable. What is asked of the source is asked of the drawn texts alone, since
twelve hexadecimal digits run out.
-/

namespace Gamebook

namespace IdSource

/-- No two texts that were drawn between two states of a source give choices one id. -/
def NeverRepeats (source final : IdSource) : Prop :=
  ∀ hexes, source.Draws hexes final → (hexes.map (idOf "choice")).Nodup

/-- Every text that is drawn takes one of the given texts or raises the counter. -/
theorem Draws.count {source final : IdSource} {hexes : List String}
    (draws : source.Draws hexes final) :
    final.counter + source.given.length =
      source.counter + final.given.length + hexes.length := by
  induction draws with
  | done source => rfl
  | next source later inductionHypothesis =>
    obtain ⟨given, counter⟩ := source
    cases given with
    | nil =>
      simp only [IdSource.next, List.length_nil, List.length_cons] at inductionHypothesis ⊢
      omega
    | cons hex rest =>
      simp only [IdSource.next, List.length_cons] at inductionHypothesis ⊢
      omega

/-- Texts that are drawn from one source are the same as far as both rows go. -/
theorem Draws.eq_of_length {source final other : IdSource} {hexes others : List String}
    (draws : source.Draws hexes final) (draws' : source.Draws others other)
    (same : hexes.length = others.length) : hexes = others := by
  induction draws generalizing others with
  | done => exact (List.eq_nil_of_length_eq_zero same.symm).symm
  | next source later inductionHypothesis =>
    cases draws' with
    | done => nomatch same
    | next _ later' => rw [inductionHypothesis later' (Nat.succ.inj same)]

/-- A source never comes back to a state, so the ids that must differ are those of one row. -/
theorem neverRepeats_iff {source final : IdSource} {hexes : List String}
    (draws : source.Draws hexes final) :
    source.NeverRepeats final ↔ (hexes.map (idOf "choice")).Nodup := by
  refine ⟨fun never => never hexes draws, fun distinct others draws' => ?_⟩
  have count := draws.count
  have count' := draws'.count
  rw [← draws.eq_of_length draws' (by omega)]
  exact distinct

/-- A made scene is detached when the source never repeated an id. -/
theorem Makes.detached {source final : IdSource} {scene : Scene} (makes : source.Makes scene final)
    (neverRepeats : source.NeverRepeats final) : scene.Detached := by
  obtain ⟨hexes, draws, made⟩ := makes
  exact ⟨made.choiceIds.nodup (neverRepeats hexes draws), made.plain⟩

/-- The id of a made scene is not the terminal target. -/
theorem Makes.named {source final : IdSource} {scene : Scene} (makes : source.Makes scene final) :
    scene.id ≠ terminalTarget := by
  obtain ⟨_, _, made⟩ := makes
  exact made.named

/-- A made scene that gets a new id is made with one more text. -/
theorem Makes.renamed {source middle : IdSource} {scene : Scene} (makes : source.Makes scene middle) :
    source.Makes { scene with id := (middle.draw "scene").1 } (middle.draw "scene").2 := by
  obtain ⟨hexes, draws, made⟩ := makes
  refine ⟨hexes ++ [_], draws.append (.one middle), Reply.sceneId_ne_terminal _, ?_, made.plain⟩
  rw [List.map_append]
  exact made.choiceIds.trans (List.sublist_append_left _ _)

end IdSource

namespace Generation

variable {project : Project} {ids source : IdSource}

/-- New ids are drawn and nothing else of a scene changes. -/
theorem freshScene_makes {scene : Scene} (makes : source.Makes scene ids) (tries : Nat) :
    source.Makes (freshScene project scene ids tries).1
      (freshScene project scene ids tries).2 := by
  induction tries generalizing scene ids with
  | zero => exact makes
  | succ tries inductionHypothesis =>
    unfold freshScene
    split
    · exact inductionHypothesis makes.renamed
    · exact makes

/-- A scene that is added has an id that no scene had, and it comes last. -/
theorem addContent_scene {now : Moment} {content given : Content} {changed : Project}
    {scene : Scene} (isScene : content.entity = .scene scene) (makes : source.Makes scene ids)
    (added : (addContent project now content ids).1 = .ok (given, changed)) :
    ∃ other, given.entity = .scene other ∧
      source.Makes other (addContent project now content ids).2 ∧
      other.id ∉ project.sceneIds ∧ changed = project.withScene now other := by
  have made : source.Makes (freshScene project scene ids _).1 (freshScene project scene ids _).2 :=
    freshScene_makes makes (ids.given.length + project.scenes.length + 1)
  unfold addContent at added ⊢
  simp only [isScene] at added ⊢
  generalize freshScene project scene ids (ids.given.length + project.scenes.length + 1) = fresh
    at added made ⊢
  obtain ⟨other, left⟩ := fresh
  cases known : (project.scene? other.id).isSome with
  | true =>
    simp only [Project.addScene, known, if_true, Except.map] at added
    nomatch added
  | false =>
    simp only [Project.addScene, known, Bool.false_eq_true, if_false, Except.map] at added
    obtain ⟨rfl, rfl⟩ := Prod.mk.inj (Except.ok.inj added)
    refine ⟨other, rfl, made, fun isKnown => ?_, rfl⟩
    rw [(project.scene?_isSome_iff other.id).mpr isKnown] at known
    nomatch known

section Generated

variable {σ : Type} {generator : Generator} {provider : Provider σ} {description : String}
  {state : σ}

/-- What is generated when a scene is asked for is a scene. -/
theorem generate_scene {content : Content}
    (generated : (generate generator provider .scene description ids state).result = .ok content) :
    ∃ scene, content.entity = .scene scene ∧
      ids.Makes scene (generate generator provider .scene description ids state).ids := by
  unfold generate at generated ⊢
  dsimp only at generated ⊢
  split at generated
  next => nomatch generated
  next text replied =>
    obtain rfl := Except.ok.inj generated
    exact Reply.read_scene [] text ids

/-- A scene that is generated into a project is made from drawn texts, has a new id and comes
last. -/
theorem generateInto_scene {now : Moment} {content : Content} {changed : Project}
    (generated : (generateInto generator provider project now .scene description ids state).result =
      .ok (content, changed)) :
    ∃ scene, content.entity = .scene scene ∧
      ids.Makes scene
        (generateInto generator provider project now .scene description ids state).ids ∧
      scene.id ∉ project.sceneIds ∧ changed = project.withScene now scene := by
  unfold generateInto at generated ⊢
  dsimp only at generated ⊢
  split at generated
  next => nomatch generated
  next given replied =>
    obtain ⟨scene, isScene, makes⟩ := generate_scene replied
    simp only at generated
    cases added : (addContent project now given
        (generate generator provider .scene description ids state).ids).1 with
    | error refusal =>
      rw [added] at generated
      nomatch generated
    | ok pair =>
      rw [added] at generated
      obtain rfl := Except.ok.inj generated
      exact addContent_scene isScene makes added

/-- A scene that is generated into a valid project leaves it valid and raises one warning, that
the new scene is not reached, as long as the drawn ids never repeat. -/
theorem generated_scene_keeps_valid {now : Moment} {content : Content} {changed : Project}
    (valid : (Validation.report project).isValid = true)
    (generated : (generateInto generator provider project now .scene description ids state).result =
      .ok (content, changed))
    (neverRepeats : ids.NeverRepeats
      (generateInto generator provider project now .scene description ids state).ids) :
    ∃ scene, content.entity = .scene scene ∧ changed = project.withScene now scene ∧
      (Validation.report changed).isValid = true ∧
      (Validation.report changed).issues.Perm
        (Validation.unreachableIssue scene.id :: (Validation.report project).issues) := by
  have structured := (Validation.isValid_iff project).mp valid
  obtain ⟨scene, isScene, makes, fresh, rfl⟩ := generateInto_scene generated
  have detached := makes.detached neverRepeats
  have kept : Validation.Structured (project.withScene now scene) :=
    structured.withScene detached fresh
  exact ⟨scene, isScene, rfl, (Validation.isValid_iff _).mpr kept,
    Validation.issues_withScene structured detached fresh makes.named⟩

/-- A provider that writes an attic whatever it is asked. -/
def scribe : Provider Unit where
  complete _ state := (.ok { message := ⟨.assistant, "Attic\n- Climb down\n- Wait" ⟩ }, state)

theorem generated_scene_keeps_valid_attic :
    let step := generateInto {} scribe lampStory lampStory.created .scene "an attic" {} ()
    (Validation.report lampStory).isValid = true ∧ IdSource.NeverRepeats {} step.ids ∧
      ∃ content changed, step.result = .ok (content, changed) ∧
        ∃ scene, content.entity = .scene scene ∧
          (Validation.report changed).isValid = true ∧
          (Validation.report changed).issues.Perm
            (Validation.unreachableIssue scene.id :: (Validation.report lampStory).issues) := by
  intro step
  have valid := (Validation.isValid_iff lampStory).mpr Validation.lampStory_structured
  have ids : step.ids = { counter := 3 } := by decide +kernel
  have draws : IdSource.Draws {} ["000000000000", "000000000001", "000000000002"] step.ids := by
    rw [ids]
    exact .next {} (.next _ (.next _ (.done _)))
  have neverRepeats := (IdSource.neverRepeats_iff draws).mpr (by decide +kernel)
  have answered : step.result.isOk = true := by decide +kernel
  cases generated : step.result with
  | error fault =>
    rw [generated] at answered
    nomatch answered
  | ok pair =>
    obtain ⟨content, changed⟩ := pair
    obtain ⟨scene, isScene, _, stays, issues⟩ :=
      generated_scene_keeps_valid valid generated neverRepeats
    exact ⟨valid, neverRepeats, content, changed, rfl, scene, isScene, stays, issues⟩

end Generated

end Generation

end Gamebook
