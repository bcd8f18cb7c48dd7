import Gamebook.Proofs.Entries
import Gamebook.Proofs.Story.Editing

/-!
# What an edit leaves alone

An edit touches what stands under one id. The others keep their content and their order, the
others of every kind and in every list, and nothing is repaired: the start and the targets of
choices stay what they are, whether or not a scene with such an id is left. This is said of a
change of one list first, then of an edit, for which the list of choices lies within one scene of
the list of scenes, and then of what a whole row of edits leaves alone.
-/

namespace Gamebook

/-! ## Lists of items with ids -/

section Items

variable {α : Type} {idOf : α → String} {items changed : List α} {change : Change α}

/-- The id that a change is about. -/
def Change.id (idOf : α → String) : Change α → String
  | .add x | .replace x => idOf x
  | .remove id => id

/-- The item that stands under the id after a change. -/
def Change.new? : Change α → Option α
  | .add x | .replace x => some x
  | .remove _ => none

/-- The ids in order after a change: a new one comes last, one that is replaced keeps its place
and one that is removed leaves no gap. -/
def Change.place (idOf : α → String) (ids : List String) : Change α → List String
  | .add x => ids ++ [idOf x]
  | .replace _ => ids
  | .remove id => ids.filter (· != id)

/-- A change of a list has touched nothing but what stands under its id. -/
structure ChangesOnly (idOf : α → String) (change : Change α) (items changed : List α) :
    Prop where
  found : changed.find? (idOf · == change.id idOf) = change.new?
  places : changed.map idOf = change.place idOf (items.map idOf)
  others : changed.filter (idOf · != change.id idOf) = items.filter (idOf · != change.id idOf)

/-- Under another id the same item is found as before. -/
theorem ChangesOnly.find?_other (only : ChangesOnly idOf change items changed) {id : String}
    (other : id ≠ change.id idOf) :
    changed.find? (idOf · == id) = items.find? (idOf · == id) := by
  have among (list : List α) : list.find? (idOf · == id) =
      (list.filter (idOf · != change.id idOf)).find? (idOf · == id) := by
    rw [List.find?_filter]
    congr 1
    funext item
    by_cases same : idOf item = id
    · simp [same, other]
    · simp [same]
  rw [among changed, only.others, ← among items]

/-- Where ids differ, a change touches nothing but what stands under its id. -/
theorem Changes.changesOnly (changes : Changes idOf change items changed)
    (distinct : (items.map idOf).Nodup) : ChangesOnly idOf change items changed := by
  cases changes with
  | @add x items fresh =>
    have missed : items.find? (idOf · == idOf x) = none := by
      rw [List.find?_eq_none]
      intro other member same
      exact fresh (eq_of_beq same ▸ List.mem_map_of_mem member)
    refine ⟨?_, List.map_append, ?_⟩
    · simp [Change.id, Change.new?, missed]
    · simp [Change.id]
  | @replace x old items before after at' =>
    have now : FirstAt idOf (idOf x) (before ++ x :: after) before x after :=
      ⟨rfl, rfl, at'.first⟩
    refine ⟨now.find?, ?_, ?_⟩
    · simp [Change.place, at'.split, at'.named]
    · simp [Change.id, at'.split, at'.named]
  | @remove id old items before after at' =>
    have later := at'.only distinct
    have left : ∀ other ∈ before ++ after, idOf other ≠ id := fun other member =>
      (List.mem_append.mp member).elim (at'.first other) (later other)
    have rest := filter_eq_self_of_unknown left
    refine ⟨?_, ?_, ?_⟩
    · refine List.find?_eq_none.mpr fun other member same => left other member (eq_of_beq same)
    · rw [Change.place, List.filter_map, ← at'.filter_removed distinct]
      rfl
    · rw [Change.id, rest, at'.filter_removed distinct]

end Items

/-! ## Edits -/

/-- The choice with an id of the scene with an id. -/
def Project.choiceAt? (project : Project) (sceneId choiceId : String) : Option Choice :=
  (project.scene? sceneId).bind (·.choice? choiceId)

/-- The edit is about the choice with an id of the scene with an id, or about the whole scene. -/
def Edit.Concerns (sceneId choiceId : String) : Edit → Prop
  | .scene change => sceneId = change.id Scene.id
  | .choice id change => sceneId = id ∧ choiceId = change.id Choice.id
  | _ => False

/-- An edit has touched nothing but what it is about: in the list that it is about nothing but
what stands under its id, and none of the rest of the project. An edit of choices has touched
nothing of its scene but the choices. -/
def Edit.TouchesOnly (project changed : Project) : Edit → Prop
  | .scene change =>
    ChangesOnly Scene.id change project.scenes changed.scenes ∧
      changed = { project with scenes := changed.scenes }
  | .choice sceneId change =>
    ∃ scene choices, project.scene? sceneId = some scene ∧
      ChangesOnly Choice.id change scene.choices choices ∧
      ChangesOnly Scene.id (.replace { scene with choices := choices }) project.scenes
        changed.scenes ∧
      changed = { project with scenes := changed.scenes }
  | .character change =>
    ChangesOnly Character.id change project.characters changed.characters ∧
      changed = { project with characters := changed.characters }
  | .item change =>
    ChangesOnly Item.id change project.items changed.items ∧
      changed = { project with items := changed.items }
  | .setVariable key value =>
    changed.declared.get? (Text.trim key) = some value ∧
      changed.declared.keys =
        (if Text.trim key ∈ project.declared.keys then project.declared.keys
          else project.declared.keys ++ [Text.trim key]) ∧
      changed.declared.outside [Text.trim key] = project.declared.outside [Text.trim key] ∧
      changed = { project with declared := changed.declared }
  | .removeVariable key =>
    changed.declared.get? key = none ∧
      changed.declared.keys = project.declared.keys.filter (· != key) ∧
      changed.declared.outside [key] = project.declared.outside [key] ∧
      changed = { project with declared := changed.declared }

variable {project changed : Project} {edit : Edit}

theorem Edits.touchesOnly (edits : Edits project edit changed) (distinct : project.Distinct) :
    edit.TouchesOnly project changed := by
  cases edits with
  | scene changes => exact ⟨changes.changesOnly distinct.scenes, rfl⟩
  | @choice sceneId change before after scene choices at' changes =>
    -- for the scenes it is a replacement: the scene with other choices has the id it had
    have rebuilt : Changes Scene.id (.replace { scene with choices := choices }) project.scenes
        (before ++ { scene with choices := choices } :: after) := .replace (at'.again rfl)
    exact ⟨scene, choices, at'.find?,
      changes.changesOnly (distinct.choices scene at'.old_mem),
      rebuilt.changesOnly distinct.scenes, rfl⟩
  | character changes => exact ⟨changes.changesOnly distinct.characters, rfl⟩
  | item changes => exact ⟨changes.changesOnly distinct.items, rfl⟩
  | @setVariable key value visible =>
    exact ⟨Entries.get?_put_self .., Entries.keys_put ..,
      Entries.outside_put List.mem_cons_self .., rfl⟩
  | @removeVariable key known =>
    refine ⟨?_, ?_, Entries.outside_erase List.mem_cons_self _, rfl⟩
    · rw [Entries.get?_erase, if_pos rfl]
    · rw [Entries.keys, Entries.keys, List.filter_map]
      rfl

/-- Two projects have the same start, time of the last change and settings, and the same choices,
but for those of which the two ids are among some. -/
structure Project.AgreeOutside (among : String → String → Prop) (project changed : Project) :
    Prop where
  start : changed.startSceneId = project.startSceneId
  updated : changed.updated = project.updated
  settings : changed.settings = project.settings
  choices : ∀ sceneId choiceId, ¬among sceneId choiceId →
    changed.choiceAt? sceneId choiceId = project.choiceAt? sceneId choiceId

namespace Project.AgreeOutside

variable {among wider : String → String → Prop} {last : Project}

theorem refl (among : String → String → Prop) (project : Project) :
    AgreeOutside among project project :=
  ⟨rfl, rfl, rfl, fun _ _ _ => rfl⟩

theorem mono (agree : AgreeOutside among project changed)
    (within : ∀ sceneId choiceId, among sceneId choiceId → wider sceneId choiceId) :
    AgreeOutside wider project changed :=
  { agree with choices := fun sceneId choiceId apart =>
      agree.choices sceneId choiceId (mt (within sceneId choiceId) apart) }

theorem trans (first : AgreeOutside among project changed)
    (second : AgreeOutside among changed last) : AgreeOutside among project last where
  start := second.start.trans first.start
  updated := second.updated.trans first.updated
  settings := second.settings.trans first.settings
  choices sceneId choiceId apart :=
    (second.choices sceneId choiceId apart).trans (first.choices sceneId choiceId apart)

/-- Projects that differ in parts that no choice is in agree in the others. -/
theorem of_scenes (start : changed.startSceneId = project.startSceneId)
    (updated : changed.updated = project.updated) (settings : changed.settings = project.settings)
    (scenes : changed.scenes = project.scenes) : AgreeOutside among project changed where
  start := start
  updated := updated
  settings := settings
  choices sceneId choiceId _ := by
    rw [choiceAt?, choiceAt?, scene?, scene?, scenes]

end Project.AgreeOutside

/-- An edit leaves the start, the time of the last change and the settings alone, and every choice
that it is not about. -/
theorem Edit.TouchesOnly.agreeOutside (only : edit.TouchesOnly project changed) :
    project.AgreeOutside (fun sceneId choiceId => edit.Concerns sceneId choiceId) changed := by
  cases edit with
  | scene change =>
    obtain ⟨inScenes, same⟩ := only
    rw [same] at inScenes ⊢
    refine ⟨rfl, rfl, rfl, fun sceneId choiceId apart => ?_⟩
    rw [Project.choiceAt?, Project.choiceAt?]
    exact congrArg (·.bind (·.choice? choiceId)) (inScenes.find?_other apart)
  | choice id change =>
    obtain ⟨scene, choices, isScene, inScene, inScenes, same⟩ := only
    have sceneNamed : scene.id = id := Project.id_of_scene? isScene
    rw [same] at inScenes ⊢
    refine ⟨rfl, rfl, rfl, fun sceneId choiceId apart => ?_⟩
    rw [Project.choiceAt?, Project.choiceAt?]
    by_cases here : sceneId = id
    · subst here
      have now : Project.scene? { project with scenes := changed.scenes } sceneId =
          some { scene with choices := choices } := sceneNamed ▸ inScenes.found
      rw [now, isScene]
      exact inScene.find?_other fun named => apart ⟨rfl, named⟩
    · exact congrArg (·.bind (·.choice? choiceId))
        (inScenes.find?_other fun named => here (named.trans sceneNamed))
  | character change =>
    rw [only.2]
    exact .of_scenes rfl rfl rfl rfl
  | item change =>
    rw [only.2]
    exact .of_scenes rfl rfl rfl rfl
  | setVariable key value =>
    rw [only.2.2.2]
    exact .of_scenes rfl rfl rfl rfl
  | removeVariable key =>
    rw [only.2.2.2]
    exact .of_scenes rfl rfl rfl rfl

namespace Project

/-- An edit that is made changes what it is about and nothing else. Its id is answered with the
new entity, or no longer; a new entity or variable comes last and another one keeps its place;
all others keep their content and their order. The start, the time of the last change and the
settings stay, and so does every choice that the edit is not about, with its target. -/
theorem edit_touches_one (distinct : project.Distinct)
    (made : edit.apply project = .ok changed) :
    edit.TouchesOnly project changed ∧
      project.AgreeOutside (fun sceneId choiceId => edit.Concerns sceneId choiceId) changed := by
  have only := ((apply_ok_iff distinct edit).mp made).touchesOnly distinct
  exact ⟨only, only.agreeOutside⟩

/-- When the cellar of the lamp story is removed, the choice that leads there and the start keep
their targets. -/
theorem lampStory_touches_one :
    ∃ changed, (Edit.scene (.remove "cellar")).apply lampStory = .ok changed ∧
      changed.scene? "cellar" = none ∧ changed.sceneIds = ["hall"] ∧
      changed.startSceneId = lampStory.startSceneId ∧
      changed.choiceAt? "hall" "down" = lampStory.choiceAt? "hall" "down" := by
  have distinct : lampStory.Distinct := ⟨by decide, by decide, by decide, by decide⟩
  have apart : ¬(Edit.scene (.remove "cellar")).Concerns "hall" "down" := by
    simp [Edit.Concerns, Change.id]
  have made : (Edit.scene (.remove "cellar")).apply lampStory =
      .ok { lampStory with scenes := lampStory.scenes.take 1 } := rfl
  obtain ⟨⟨only, -⟩, agree⟩ := edit_touches_one distinct made
  exact ⟨_, made, only.found, only.places, agree.start, agree.choices "hall" "down" apart⟩

theorem edit_agreeOutside (distinct : project.Distinct) (next : Edit) :
    project.AgreeOutside (fun sceneId choiceId => next.Concerns sceneId choiceId)
      (project.edit next).2 := by
  obtain ⟨changed, made, after⟩ | ⟨error, -, after⟩ := project.edit_cases next
  · rw [after]
    exact (((apply_ok_iff distinct next).mp made).touchesOnly distinct).agreeOutside
  · rw [after]
    exact .refl _ project

/-- A whole row of edits, made and refused ones, leaves the start, the time of the last change and
the settings alone, and every choice that none of the edits is about. -/
theorem editAll_agreeOutside {edits : List Edit} (distinct : project.Distinct)
    (fits : ∀ edit ∈ edits, edit.Fits) :
    project.AgreeOutside
      (fun sceneId choiceId => ∃ edit ∈ edits, edit.Concerns sceneId choiceId)
      (project.editAll edits) := by
  induction edits generalizing project with
  | nil => exact .refl _ project
  | cons next rest inductionHypothesis =>
    obtain ⟨nextFits, restFit⟩ := List.forall_mem_cons.mp fits
    have first := project.edit_agreeOutside distinct next
    have later := inductionHypothesis (distinct.edit nextFits) restFit
    refine (first.mono fun _ _ concerned => ?_).trans (later.mono fun _ _ concerned => ?_)
    · exact ⟨next, List.mem_cons_self, concerned⟩
    · obtain ⟨edit, among, concerned⟩ := concerned
      exact ⟨edit, List.mem_cons_of_mem next among, concerned⟩

end Project

end Gamebook
