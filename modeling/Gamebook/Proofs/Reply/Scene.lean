import Gamebook.Proofs.Analysis.Detached
import Gamebook.Proofs.Archive.Key
import Gamebook.Proofs.Reply.Reading

/-!
# Scenes from replies

Whatever a reply says, the scene that is read from it has plain choices, and its ids are made of
texts that were drawn from the source, each choice from one of its own. The order in which the
texts are drawn differs: an object draws for its choices first, lines for the scene.
-/

namespace Gamebook

namespace IdSource

/-- The id that a drawn text gives a scene or a choice. -/
def idOf (label hex : String) : String :=
  Text.trim (label ++ "_" ++ String.ofList (hex.toList.take 12))

/-- Some texts were drawn one after the other from a source, and another source is left. -/
inductive Draws : IdSource → List String → IdSource → Prop
  | done (source : IdSource) : Draws source [] source
  | next (source : IdSource) {hexes : List String} {final : IdSource}
      (later : Draws source.next.2 hexes final) : Draws source (source.next.1 :: hexes) final

theorem Draws.one (source : IdSource) : source.Draws [source.next.1] source.next.2 :=
  .next source (.done _)

theorem Draws.append {source middle final : IdSource} {hexes more : List String}
    (first : source.Draws hexes middle) (later : middle.Draws more final) :
    source.Draws (hexes ++ more) final := by
  induction first with
  | done => exact later
  | next source _ inductionHypothesis => exact .next source (inductionHypothesis later)

/-- The choices for some texts are plain and have an id for each text that is drawn. -/
theorem drawChoices_draws (source : IdSource) (texts : List String) :
    ∃ hexes, source.Draws hexes (source.drawChoices texts).2 ∧
      (source.drawChoices texts).1.map (·.id) = hexes.map (idOf "choice") ∧
      ∀ choice ∈ (source.drawChoices texts).1, choice.Plain := by
  induction texts generalizing source with
  | nil => exact ⟨[], .done source, rfl, List.forall_mem_nil _⟩
  | cons text texts inductionHypothesis =>
    obtain ⟨hexes, draws, ids, plain⟩ := inductionHypothesis source.next.2
    refine ⟨source.next.1 :: hexes, .next source draws, congrArg (_ :: ·) ids, ?_⟩
    exact List.forall_mem_cons.mpr ⟨⟨rfl, rfl, rfl⟩, plain⟩

end IdSource

open IdSource

/-- A scene is made with ids from drawn texts: its choices are plain and have ids of some of the
texts in their order, and its own id is not the terminal target. -/
structure Scene.MadeFrom (scene : Scene) (hexes : List String) : Prop where
  named : scene.id ≠ terminalTarget
  choiceIds : (scene.choices.map (·.id)).Sublist (hexes.map (idOf "choice"))
  plain : ∀ choice ∈ scene.choices, choice.Plain

/-- A source makes a scene when it is made with ids from the texts that are drawn. -/
def IdSource.Makes (source : IdSource) (scene : Scene) (final : IdSource) : Prop :=
  ∃ hexes, source.Draws hexes final ∧ scene.MadeFrom hexes

namespace Reply

/-- An id that begins as the ids of scenes do is not the terminal target. -/
theorem sceneId_ne_terminal (rest : String) : "scene_" ++ rest ≠ terminalTarget := by
  intro same
  have first := congrArg (fun text => text.toList.head?) same
  simp [terminalTarget] at first

theorem idOf_scene_ne_terminal (hex : String) : idOf "scene" hex ≠ terminalTarget := by
  have noBlank : "scene_".toList.any Text.isBlank = false := by decide +kernel
  have trimmed := @Text.trim_append "scene_" (by decide +kernel) (Text.noBlank_of_any noBlank)
    (String.ofList (hex.toList.take 12))
  have same : idOf "scene" hex = _ := trimmed
  rw [same]
  exact sceneId_ne_terminal _

theorem sceneOfObject_makes (members : Entries Value) (ids : IdSource) :
    ids.Makes (sceneOfObject members ids).1 (sceneOfObject members ids).2.2 := by
  let texts := (((members.get? "choices").bind (·.list?)).getD []).filterMap choiceText?
  obtain ⟨hexes, draws, choiceIds, plain⟩ := ids.drawChoices_draws texts
  refine ⟨hexes ++ [_], draws.append (.one _), idOf_scene_ne_terminal _, ?_, plain⟩
  rw [List.map_append, ← choiceIds]
  exact List.sublist_append_left _ _

theorem sceneOfLines_makes (lines : List String) (ids : IdSource) :
    ids.Makes (sceneOfLines lines ids).1 (sceneOfLines lines ids).2.2 := by
  let parts := lines.foldl SceneParts.take {}
  obtain ⟨hexes, draws, choiceIds, plain⟩ := ids.next.2.drawChoices_draws parts.choices
  refine ⟨_ :: hexes, .next ids draws, idOf_scene_ne_terminal _, ?_, plain⟩
  rw [List.map_cons, ← choiceIds]
  exact List.sublist_cons_self _ _

/-- The scene that replaces a reply has no choices. -/
theorem defaultEntity_makes (ids : IdSource) :
    ∃ scene, (defaultEntity .scene ids).1 = .scene scene ∧
      ids.Makes scene (defaultEntity .scene ids).2 :=
  ⟨_, rfl, [_], .one ids, idOf_scene_ne_terminal _, List.nil_sublist _, List.forall_mem_nil _⟩

/-- Every reply gives a scene when one is asked for. -/
theorem read_scene (earlier : List String) (text : String) (ids : IdSource) :
    ∃ scene, (read .scene earlier text ids).1.entity = .scene scene ∧
      ids.Makes scene (read .scene earlier text ids).2 := by
  have reads := reads_read .scene earlier text ids
  generalize read .scene earlier text ids = result at reads ⊢
  cases reads with
  | byDefault => exact defaultEntity_makes ids
  | fromObject => exact ⟨_, rfl, sceneOfObject_makes _ ids⟩
  | fromLines _ made =>
    obtain ⟨rfl, _, rfl⟩ := Except.ok.inj made
    exact ⟨_, rfl, sceneOfLines_makes _ ids⟩

end Reply

end Gamebook
