import Gamebook.Proofs.Story.Change
import Gamebook.Proofs.Story.Lookup
import Gamebook.Proofs.Story.Schema

/-!
# Edits keep identities

What an edit does is said once, by a relation between the project before and after it: one list
of the project is changed, or one variable. An edit is made as a whole exactly when it is
possible, and otherwise the project stays as it was. From the relation it follows that ids which
differ before an edit differ after it, and so after every sequence of edits.
-/

namespace Gamebook

/-! ## Edits of a project -/

/-- A call that edits a project. -/
inductive Edit
  | scene (change : Change Scene)
  | choice (sceneId : String) (change : Change Choice)
  | character (change : Change Character)
  | item (change : Change Item)
  | setVariable (key : String) (value : VariableValue)
  | removeVariable (key : String)

/-- What a call gives. -/
def Edit.apply (project : Project) : Edit → Except EditError Project
  | .scene (.add new) => project.addScene new
  | .scene (.replace new) => project.replaceScene new
  | .scene (.remove id) => (project.removeScene id).map (·.2)
  | .choice sceneId (.add new) => (project.addChoice sceneId new).map (·.2)
  | .choice sceneId (.replace new) => (project.replaceChoice sceneId new).map (·.2)
  | .choice sceneId (.remove id) => (project.removeChoice sceneId id).map (·.2)
  | .character (.add new) => project.addCharacter new
  | .character (.replace new) => project.replaceCharacter new
  | .character (.remove id) => project.removeCharacter id
  | .item (.add new) => project.addItem new
  | .item (.replace new) => project.replaceItem new
  | .item (.remove id) => project.removeItem id
  | .setVariable key value => project.setVariable key value
  | .removeVariable key => project.removeVariable key

/-- The choices of a scene that an edit brings in differ in their ids. -/
def Edit.Fits : Edit → Prop
  | .scene (.add new) | .scene (.replace new) => (new.choices.map (·.id)).Nodup
  | _ => True

namespace Project

/-- Makes an edit: why it is refused, if it is, and the project after it. -/
def edit (project : Project) (edit : Edit) : Option EditError × Project :=
  match edit.apply project with
  | .ok changed => (none, changed)
  | .error error => (some error, project)

/-- The project after edits, made and refused ones. -/
def editAll (project : Project) (edits : List Edit) : Project :=
  edits.foldl (fun reached next => (reached.edit next).2) project

/-- Entities of one kind differ in their ids. -/
structure Distinct (project : Project) : Prop where
  scenes : (project.scenes.map (·.id)).Nodup
  choices : ∀ scene ∈ project.scenes, (scene.choices.map (·.id)).Nodup
  characters : (project.characters.map (·.id)).Nodup
  items : (project.items.map (·.id)).Nodup

end Project

/-- What an edit makes of a project: one list is changed, that of a kind of entities or that of
the choices of the first scene with an id, or one variable is set or removed. -/
inductive Edits (project : Project) : Edit → Project → Prop
  | scene {change : Change Scene} {scenes : List Scene}
      (changes : Changes Scene.id change project.scenes scenes) :
      Edits project (.scene change) { project with scenes := scenes }
  | choice {sceneId : String} {change : Change Choice} {before after : List Scene}
      {scene : Scene} {choices : List Choice}
      (at' : FirstAt Scene.id sceneId project.scenes before scene after)
      (changes : Changes Choice.id change scene.choices choices) :
      Edits project (.choice sceneId change)
        { project with scenes := before ++ { scene with choices := choices } :: after }
  | character {change : Change Character} {characters : List Character}
      (changes : Changes Character.id change project.characters characters) :
      Edits project (.character change) { project with characters := characters }
  | item {change : Change Item} {items : List Item}
      (changes : Changes Item.id change project.items items) :
      Edits project (.item change) { project with items := items }
  | setVariable {key : String} {value : VariableValue} (visible : Text.trim key ≠ "") :
      Edits project (.setVariable key value)
        { project with declared := project.declared.put (Text.trim key) value }
  | removeVariable {key : String} (known : project.declared.has key = true) :
      Edits project (.removeVariable key)
        { project with declared := project.declared.erase key }

/-! ### An edit is made exactly when it is possible -/

section Operations

variable {α : Type} {idOf : α → String} {id : String} {items : List α} {x : α}
  {project changed : Project} {error : EditError} (rebuild : List α → Project)

theorem any_id_iff (items : List α) (id : String) :
    items.any (idOf · == id) = true ↔ id ∈ items.map idOf := by simp

theorem added_ok_iff :
    (if items.any (idOf · == idOf x) then .error error else .ok (rebuild (items ++ [x])) :
        Except EditError Project) = .ok changed ↔
      ∃ list, Changes idOf (.add x) items list ∧ rebuild list = changed := by
  simp only [changes_add_iff, ← any_id_iff, and_assoc, exists_and_left, exists_eq_left']
  split <;> simp_all

theorem filtered_ok_iff (distinct : (items.map idOf).Nodup) :
    (if items.any (idOf · == id) then .ok (rebuild (items.filter (idOf · != id)))
      else .error error : Except EditError Project) = .ok changed ↔
      ∃ list, Changes idOf (.remove id) items list ∧ rebuild list = changed := by
  simp only [changes_remove_iff_filter distinct, ← any_id_iff, and_assoc, exists_and_left,
    exists_eq_left']
  split <;> simp_all

theorem mapped_ok_iff (distinct : (items.map idOf).Nodup) :
    (if items.any (idOf · == idOf x) then
        .ok (rebuild (items.map fun other => if idOf other = idOf x then x else other))
      else .error error : Except EditError Project) = .ok changed ↔
      ∃ list, Changes idOf (.replace x) items list ∧ rebuild list = changed := by
  simp only [changes_replace_iff_map distinct, ← any_id_iff, and_assoc, exists_and_left,
    exists_eq_left']
  split <;> simp_all

theorem scene_ok_iff {change : Change Scene} :
    (Edit.scene change).apply project = .ok changed ↔
      ∃ scenes, Changes Scene.id change project.scenes scenes ∧
        { project with scenes := scenes } = changed := by
  let rebuild (scenes : List Scene) : Project := { project with scenes := scenes }
  cases change with
  | add new =>
    have listed : (project.scene? new.id).isSome = project.scenes.any (·.id == new.id) :=
      List.isSome_find?
    simp only [Edit.apply, Project.addScene, listed]
    exact added_ok_iff rebuild
  | replace new =>
    simp only [Edit.apply, Project.replaceScene, changes_replace_iff]
    split <;> simp_all
  | remove id =>
    simp only [Edit.apply, Project.removeScene, changes_remove_iff]
    split <;> simp_all [Except.map]

/-- An edit of the choices of a scene puts the scene back where it stood. -/
theorem withChoices_eq {before after : List Scene} {scene : Scene}
    (at' : FirstAt Scene.id id project.scenes before scene after) (choices : List Choice) :
    (project.withChoices scene choices).map (·.2) =
      .ok { project with scenes := before ++ { scene with choices := choices } :: after } := by
  have back := @FirstAt.again _ _ _ _ _ _ _ { scene with choices := choices } at' rfl
  simp [Project.withChoices, Project.replaceScene, back.replaceFirst?, Except.map]

theorem requireScene_eq {before after : List Scene} {scene : Scene}
    (at' : FirstAt Scene.id id project.scenes before scene after) :
    project.requireScene id = .ok scene := by
  have found : project.scene? id = some scene := at'.find?
  rw [Project.requireScene, found]

theorem requireScene_error (unknown : id ∉ project.sceneIds) :
    project.requireScene id = .error (.absent .scene id) := by
  have missing : project.scene? id = none :=
    Option.not_isSome_iff_eq_none.mp (mt (project.scene?_isSome_iff id).mp unknown)
  rw [Project.requireScene, missing]

/-- A choice is added to the choices of the first scene with the id. -/
theorem addChoice_ok_iff {before after : List Scene} {scene : Scene} {new : Choice}
    (at' : FirstAt Scene.id id project.scenes before scene after) :
    (Edit.choice id (.add new)).apply project = .ok changed ↔
      ∃ choices, Changes Choice.id (.add new) scene.choices choices ∧
        { project with scenes := before ++ { scene with choices := choices } :: after } =
          changed := by
  have listed : (scene.choice? new.id).isSome = scene.choices.any (·.id == new.id) :=
    List.isSome_find?
  let rebuild (choices : List Choice) : Project :=
    { project with scenes := before ++ { scene with choices := choices } :: after }
  simp only [Edit.apply, Project.addChoice, requireScene_eq at', listed, apply_ite (Except.map _),
    withChoices_eq at']
  exact added_ok_iff rebuild

/-- An edit of choices is an edit of the choices of the first scene with the id. -/
theorem choice_ok_iff {before after : List Scene} {scene : Scene} {change : Change Choice}
    (distinct : (scene.choices.map (·.id)).Nodup)
    (at' : FirstAt Scene.id id project.scenes before scene after) :
    (Edit.choice id change).apply project = .ok changed ↔
      ∃ choices, Changes Choice.id change scene.choices choices ∧
        { project with scenes := before ++ { scene with choices := choices } :: after } =
          changed := by
  have listed (choiceId : String) :
      (scene.choice? choiceId).isSome = scene.choices.any (·.id == choiceId) := List.isSome_find?
  let rebuild (choices : List Choice) : Project :=
    { project with scenes := before ++ { scene with choices := choices } :: after }
  have flip (choices : List Choice) (choiceId : String) (made refused : Except EditError Project) :
      (if !choices.any (·.id == choiceId) then refused else made) =
        if choices.any (·.id == choiceId) then made else refused := by
    cases choices.any (·.id == choiceId) <;> rfl
  cases change with
  | add new => exact addChoice_ok_iff at'
  | replace new =>
    simp only [Edit.apply, Project.replaceChoice, requireScene_eq at', ← Option.not_isSome, listed,
      apply_ite (Except.map _), withChoices_eq at', flip]
    exact mapped_ok_iff rebuild distinct
  | remove choiceId =>
    simp only [Edit.apply, Project.removeChoice, requireScene_eq at', ← Option.not_isSome, listed,
      apply_ite (Except.map _), withChoices_eq at', flip]
    exact filtered_ok_iff rebuild distinct

/-- No edit of choices is made where no scene has the id. -/
theorem choice_error {change : Change Choice} (unknown : id ∉ project.sceneIds) :
    (Edit.choice id change).apply project = .error (.absent .scene id) := by
  cases change <;>
    simp [Edit.apply, Project.addChoice, Project.replaceChoice, Project.removeChoice,
      requireScene_error unknown, Except.map]

theorem character_ok_iff {change : Change Character}
    (distinct : (project.characters.map (·.id)).Nodup) :
    (Edit.character change).apply project = .ok changed ↔
      ∃ characters, Changes Character.id change project.characters characters ∧
        { project with characters := characters } = changed := by
  let rebuild (characters : List Character) : Project := { project with characters := characters }
  cases change with
  | add new => exact added_ok_iff rebuild
  | replace new =>
    simp only [Edit.apply, Project.replaceCharacter, changes_replace_iff]
    split <;> simp_all
  | remove id => exact filtered_ok_iff rebuild distinct

theorem item_ok_iff {change : Change Item} (distinct : (project.items.map (·.id)).Nodup) :
    (Edit.item change).apply project = .ok changed ↔
      ∃ items, Changes Item.id change project.items items ∧
        { project with items := items } = changed := by
  let rebuild (items : List Item) : Project := { project with items := items }
  cases change with
  | add new => exact added_ok_iff rebuild
  | replace new =>
    simp only [Edit.apply, Project.replaceItem, changes_replace_iff]
    split <;> simp_all
  | remove id => exact filtered_ok_iff rebuild distinct

theorem setVariable_ok_iff {key : String} {value : VariableValue} :
    (Edit.setVariable key value).apply project = .ok changed ↔ Text.trim key ≠ "" ∧
      { project with declared := project.declared.put (Text.trim key) value } = changed := by
  simp only [Edit.apply, Project.setVariable, requireText]
  split <;> simp_all [Except.map]

/-- An edit is made exactly when it is possible, and then it is made as a whole. -/
theorem apply_ok_iff (distinct : project.Distinct) (edit : Edit) :
    edit.apply project = .ok changed ↔ Edits project edit changed := by
  cases edit with
  | scene change =>
    rw [scene_ok_iff]
    constructor
    · rintro ⟨scenes, changes, rfl⟩
      exact .scene changes
    · rintro ⟨⟩
      next changes => exact ⟨_, changes, rfl⟩
  | choice sceneId change =>
    constructor
    · intro made
      by_cases known : sceneId ∈ project.sceneIds
      · obtain ⟨before, scene, after, at'⟩ := exists_firstAt known
        -- Replacing and removing go over all choices with the id: only one is changed because
        -- the ids of the choices differ.
        obtain ⟨choices, changes, rfl⟩ :=
          (choice_ok_iff (distinct.choices scene at'.old_mem) at').mp made
        exact .choice at' changes
      · exact nomatch (choice_error known).symm.trans made
    · rintro ⟨⟩
      next scene choices at' changes =>
        exact (choice_ok_iff (distinct.choices scene at'.old_mem) at').mpr ⟨choices, changes, rfl⟩
  | character change =>
    rw [character_ok_iff distinct.characters]
    constructor
    · rintro ⟨characters, changes, rfl⟩
      exact .character changes
    · rintro ⟨⟩
      next changes => exact ⟨_, changes, rfl⟩
  | item change =>
    rw [item_ok_iff distinct.items]
    constructor
    · rintro ⟨items, changes, rfl⟩
      exact .item changes
    · rintro ⟨⟩
      next changes => exact ⟨_, changes, rfl⟩
  | setVariable key value =>
    rw [setVariable_ok_iff]
    constructor
    · rintro ⟨visible, rfl⟩
      exact .setVariable visible
    · rintro ⟨⟩
      next visible => exact ⟨visible, rfl⟩
  | removeVariable key =>
    simp only [Edit.apply, Project.removeVariable]
    constructor
    · intro made
      split at made
      next known =>
        obtain rfl := Except.ok.inj made
        exact .removeVariable known
      next => exact nomatch made
    · rintro ⟨⟩
      next known => exact if_pos known

end Operations

/-! ## Ids differ after every edit -/

variable {project changed : Project}

/-- Entities that differ in their ids do so after an edit too. -/
theorem Edits.distinct {edit : Edit} (edits : Edits project edit changed) (fits : edit.Fits)
    (distinct : project.Distinct) : changed.Distinct := by
  cases edits with
  | @scene change scenes changes =>
    refine ⟨changes.nodup distinct.scenes, ?_, distinct.characters, distinct.items⟩
    refine changes.forall_mem distinct.choices fun new isNew => ?_
    rcases isNew with rfl | rfl <;> exact fits
  | @choice sceneId change before after scene choices at' changes =>
    -- For the scenes it is a replacement: the scene with other choices has the id it had.
    have rebuilt : Changes Scene.id (.replace { scene with choices := choices }) project.scenes
        (before ++ { scene with choices := choices } :: after) := .replace (at'.again rfl)
    refine ⟨rebuilt.nodup distinct.scenes, ?_, distinct.characters, distinct.items⟩
    refine rebuilt.forall_mem distinct.choices fun new isNew => ?_
    rcases isNew with isAdded | isReplaced
    · exact nomatch isAdded
    · obtain rfl := Change.replace.inj isReplaced
      exact changes.nodup (distinct.choices scene at'.old_mem)
  | character changes =>
    exact ⟨distinct.scenes, distinct.choices, changes.nodup distinct.characters, distinct.items⟩
  | item changes =>
    exact ⟨distinct.scenes, distinct.choices, distinct.characters, changes.nodup distinct.items⟩
  | setVariable visible =>
    exact ⟨distinct.scenes, distinct.choices, distinct.characters, distinct.items⟩
  | removeVariable known =>
    exact ⟨distinct.scenes, distinct.choices, distinct.characters, distinct.items⟩

namespace Project

/-- An edit that is made makes the project what it becomes, a refused one leaves it as it was. -/
theorem edit_cases (project : Project) (next : Edit) :
    (∃ changed, next.apply project = .ok changed ∧ project.edit next = (none, changed)) ∨
      ∃ error, next.apply project = .error error ∧ project.edit next = (some error, project) := by
  rw [edit]
  cases applied : next.apply project with
  | ok changed => exact .inl ⟨changed, rfl, rfl⟩
  | error error => exact .inr ⟨error, rfl, rfl⟩

theorem Distinct.edit {next : Edit} (distinct : project.Distinct) (fits : next.Fits) :
    (project.edit next).2.Distinct := by
  obtain ⟨changed, made, after⟩ | ⟨error, -, after⟩ := project.edit_cases next
  · rw [after]
    exact ((apply_ok_iff distinct next).mp made).distinct fits distinct
  · rw [after]
    exact distinct

theorem Distinct.editAll {edits : List Edit} (distinct : project.Distinct)
    (fits : ∀ edit ∈ edits, edit.Fits) : (project.editAll edits).Distinct := by
  induction edits generalizing project with
  | nil => exact distinct
  | cons next rest inductionHypothesis =>
    obtain ⟨nextFits, restFit⟩ := List.forall_mem_cons.mp fits
    exact inductionHypothesis (distinct.edit nextFits) restFit

/-- Whatever edits are tried on a project whose entities differ in their ids, made and refused
ones, the entities still differ in their ids. The edit that is tried next is made as a whole when
it is possible, and otherwise it is refused and the whole project is as it was. -/
theorem edits_keep_identities {project : Project} (distinct : project.Distinct)
    {edits : List Edit} (fits : ∀ edit ∈ edits, edit.Fits) :
    (project.editAll edits).Distinct ∧ ∀ next : Edit,
      (∃ changed, (project.editAll edits).edit next = (none, changed) ∧
        Edits (project.editAll edits) next changed) ∨
      ∃ error, (project.editAll edits).edit next = (some error, project.editAll edits) ∧
        ∀ changed, ¬Edits (project.editAll edits) next changed := by
  have reached := distinct.editAll fits
  refine ⟨reached, fun next => ?_⟩
  obtain ⟨changed, made, after⟩ | ⟨error, refused, after⟩ :=
    (project.editAll edits).edit_cases next
  · exact .inl ⟨changed, after, (apply_ok_iff reached next).mp made⟩
  · refine .inr ⟨error, after, fun changed possible => ?_⟩
    exact nomatch refused.symm.trans ((apply_ok_iff reached next).mpr possible)

/-- Edits of the lamp story, of which the second and the fifth are refused. -/
def lampEdits : List Edit :=
  [.scene (.add { id := "attic", title := "Attic" }),
    .choice "cellar" (.replace { id := "down", text := "Climb" }),
    .choice "attic" (.add { id := "down", text := "Climb", target := "hall" }),
    .scene (.remove "hall"),
    .setVariable " " (.text "nameless"),
    .item (.remove "lamp")]

theorem lampStory_keeps_identities :
    (lampStory.editAll lampEdits).sceneIds = ["cellar", "attic"] ∧
    (lampStory.editAll lampEdits).Distinct ∧
    ∃ error, (lampStory.editAll lampEdits).edit (.scene (.add { id := "attic", title := "" })) =
      (some error, lampStory.editAll lampEdits) := by
  have distinct : lampStory.Distinct := ⟨by decide, by decide, by decide, by decide⟩
  have fits : ∀ edit ∈ lampEdits, edit.Fits := by
    simp [lampEdits, Edit.Fits]
  have sceneIds : (lampStory.editAll lampEdits).sceneIds = ["cellar", "attic"] := by
    decide +kernel
  obtain ⟨stillDistinct, madeOrRefused⟩ := edits_keep_identities distinct fits
  refine ⟨sceneIds, stillDistinct, ?_⟩
  obtain ⟨changed, -, made⟩ | ⟨error, refused, -⟩ :=
    madeOrRefused (.scene (.add { id := "attic", title := "" }))
  · obtain ⟨⟨fresh⟩⟩ := made
    have known : "attic" ∈ (lampStory.editAll lampEdits).sceneIds := by
      rw [sceneIds]
      decide
    exact absurd known fresh
  · exact ⟨error, refused⟩

end Project

end Gamebook
