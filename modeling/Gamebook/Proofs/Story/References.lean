import Gamebook.Proofs.Archive.Key
import Gamebook.Proofs.Story.Written
import Gamebook.Proofs.Text.Blank
import Gamebook.Proofs.Validation.Codes
import Mathlib.Data.List.Forall2

/-!
# What reading makes of references

Reading drops the outer blanks of an id and takes a reference as it is. So a reference to a scene
that is in the document is kept exactly when it has no outer blanks itself: then it is answered by
the first scene whose id is the reference once its blanks are dropped, which is the scene that the
document names unless an earlier id differs from it in nothing but blanks. A reference with outer
blanks is answered by no scene, although the document has a scene under that very id.
-/

namespace Gamebook

/-! ## Parts of a record -/

/-- The text that a record has in a field, if it is a text. -/
def Value.textAt? (field : Schema.Field) (record : Value) : Option String :=
  (record.object?.bind field.find?).bind (·.2.text?)

/-- The parts of the list that a record has in a field; none when it is no list. -/
def Value.partsAt (field : Schema.Field) (record : Value) : List Value :=
  ((record.object?.bind field.find?).bind (·.2.list?)).getD []

namespace Schema

section Fields

variable {α : Type} {members : Entries Value} {field : Field} {read : Value → Checked α}
  {value record : Value} {x standard : α}

theorem required_ok_iff : required members field read = .ok x ↔
    ∃ name value, field.find? members = some (name, value) ∧ read value = .ok x := by
  unfold required
  split
  next name value isFound => simp [isFound, Checked.under_ok_iff]
  next missing => simp [missing, Checked.under_ok_iff, Checked.fail]

theorem optional_ok_iff : optional members field standard read = .ok x ↔
    (∃ name value, field.find? members = some (name, value) ∧ read value = .ok x) ∨
      field.find? members = none ∧ standard = x := by
  unfold optional
  split
  next name value isFound => simp [isFound, Checked.under_ok_iff]
  next missing => simp [missing]

theorem text_ok_iff {s : String} : text value = .ok s ↔ value.text? = some s := by
  unfold text
  cases value.text? <;> simp [Checked.fail]

theorem text?_of_ok {s : Option String} (isRead : Schema.text? value = .ok s) :
    value.text? = s := by
  cases value with
  | null => exact Except.ok.inj isRead
  | text s => exact Except.ok.inj isRead
  | _ => cases isRead

theorem trim_of_label {what s : String} (isRead : label what value = .ok s) :
    ∃ given, value.text? = some given ∧ Text.trim given = s := by
  unfold label at isRead
  split at isRead
  next => cases isRead
  next given isText =>
    dsimp only at isRead
    split at isRead
    next => cases isRead
    next => exact ⟨given, text_ok_iff.mp isText, Except.ok.inj isRead⟩

/-- Parts that are read side by side are read one by one. -/
theorem eachFrom_ok {index : Nat} {items : List Value} {xs : List α}
    (isRead : Checked.eachFrom read index items = .ok xs) :
    List.Forall₂ (fun item x => read item = .ok x) items xs := by
  induction items generalizing index xs with
  | nil =>
    cases isRead
    exact .nil
  | cons item rest inductionHypothesis =>
    obtain ⟨_, others, here, there, rfl⟩ := Checked.and_ok_iff.mp isRead
    obtain ⟨x, isX, rfl⟩ := Except.map_ok_iff.mp here
    exact .cons (Checked.under_ok_iff.mp isX) (inductionHypothesis there)

/-- A list that may be missing is read part by part. -/
theorem partsAt_read (isObject : record.object? = some members) {xs : List α}
    (isRead : optional members field [] (list read) = .ok xs) :
    List.Forall₂ (fun item x => read item = .ok x) (record.partsAt field) xs := by
  unfold Value.partsAt
  rw [isObject, Option.bind_some]
  obtain ⟨name, value, isFound, good⟩ | ⟨missing, rfl⟩ := optional_ok_iff.mp isRead
  · unfold list at good
    split at good
    next items isList =>
      simp only [isFound, Option.bind_some, isList, Option.getD_some]
      exact eachFrom_ok good
    next => cases good
  · rw [missing]
    exact .nil

end Fields

/-- What parts and what they are read as have in common, they have in common in rows. -/
theorem map_eq_of_forall₂ {α β γ : Type} {related : α → β → Prop} {f : α → γ} {g : β → γ}
    {xs : List α} {ys : List β} (pairs : List.Forall₂ related xs ys)
    (each : ∀ x y, related x y → f x = g y) : xs.map f = ys.map g := by
  induction pairs with
  | nil => rfl
  | cons here _ inductionHypothesis =>
    rw [List.map_cons, List.map_cons, each _ _ here, inductionHypothesis]

end Schema

open Schema

/-! ## Choices and scenes -/

variable {value : Value}

theorem Choice.target_of_ofValue {choice : Choice} (isRead : Choice.ofValue value = .ok choice) :
    (value.textAt? targetField).getD terminalTarget = choice.target := by
  obtain ⟨members, isObject, isRead⟩ := record_ok_iff.mp isRead
  simp only [Checked.before_ok_iff, Checked.and_ok_iff, Checked.start, Except.ok.injEq] at isRead
  obtain ⟨⟨_, _, ⟨_, _, ⟨_, target, ⟨_, _, ⟨_, _, rfl, -, rfl⟩, -, rfl⟩, isTarget, rfl⟩, -, rfl⟩,
    -, rfl⟩, -⟩ := isRead
  rw [Value.textAt?, isObject, Option.bind_some]
  obtain ⟨name, part, isFound, isText⟩ | ⟨missing, rfl⟩ := optional_ok_iff.mp isTarget
  · rw [isFound, Option.bind_some, text_ok_iff.mp isText, Option.getD_some]
  · rw [missing, Option.bind_none, Option.getD_none]

theorem Scene.parts_of_ofValue {scene : Scene} (isRead : Scene.ofValue value = .ok scene) :
    (∃ id, value.textAt? (.single "id") = some id ∧ Text.trim id = scene.id) ∧
      List.Forall₂ (fun part choice => Choice.ofValue part = .ok choice)
        (value.partsAt (.single "choices")) scene.choices := by
  obtain ⟨members, isObject, isRead⟩ := record_ok_iff.mp isRead
  simp only [Checked.before_ok_iff, Checked.and_ok_iff, Checked.start, Except.ok.injEq] at isRead
  obtain ⟨⟨_, choices, ⟨_, _, ⟨_, _, ⟨_, _, ⟨_, id, rfl, isId, rfl⟩, -, rfl⟩, -, rfl⟩, -, rfl⟩,
    areChoices, rfl⟩, -⟩ := isRead
  refine ⟨?_, partsAt_read isObject areChoices⟩
  obtain ⟨name, part, isFound, isLabel⟩ := required_ok_iff.mp isId
  obtain ⟨given, isText, trimmed⟩ := trim_of_label isLabel
  refine ⟨given, ?_, trimmed⟩
  rw [Value.textAt?, isObject, Option.bind_some, isFound, Option.bind_some, isText]

/-! ## Documents of projects -/

namespace Document

/-- The scenes of the document of a project. -/
def scenes (document : Value) : List Value := document.partsAt (.single "scenes")

/-- The ids of the scenes as they are in the document. -/
def sceneIds (document : Value) : List String :=
  (scenes document).filterMap (Value.textAt? (.single "id"))

/-- The start that the document names, if it names one. -/
def start? (document : Value) : Option String := document.textAt? Project.startField

/-- The targets of the choices of each scene, with the sentinel for one that is missing. -/
def targets (document : Value) : List (List String) :=
  (scenes document).map fun scene =>
    (scene.partsAt (.single "choices")).map fun choice =>
      (choice.textAt? Choice.targetField).getD terminalTarget

/-- Every reference of the document is the sentinel of a choice that ends the story, or the very id
that some scene of the document has. -/
structure Closed (document : Value) : Prop where
  start : ∀ id ∈ start? document, id ∈ sceneIds document
  targets : ∀ row ∈ targets document, ∀ id ∈ row, id = terminalTarget ∨ id ∈ sceneIds document

instance (document : Value) : Decidable (Closed document) :=
  decidable_of_iff ((∀ id ∈ start? document, id ∈ sceneIds document) ∧
      ∀ row ∈ targets document, ∀ id ∈ row, id = terminalTarget ∨ id ∈ sceneIds document)
    ⟨fun ⟨start, targets⟩ => ⟨start, targets⟩, fun closed => ⟨closed.start, closed.targets⟩⟩

end Document

namespace Project

variable {now : Moment} {project : Project}

theorem forall₂_scenes (isRead : Project.ofValue now value = .ok project) :
    List.Forall₂ (fun part scene => Scene.ofValue part = .ok scene) (Document.scenes value)
      project.scenes := by
  obtain ⟨members, isObject, from'⟩ := ofValue_ok_iff.mp isRead
  exact partsAt_read isObject from'.scenes

/-- The ids of the scenes are those of the document without their outer blanks. -/
theorem sceneIds_of_ofValue (isRead : Project.ofValue now value = .ok project) :
    project.sceneIds = (Document.sceneIds value).map Text.trim := by
  have scenes := forall₂_scenes isRead
  rw [sceneIds, Document.sceneIds]
  generalize Document.scenes value = parts at scenes ⊢
  generalize project.scenes = found at scenes ⊢
  induction scenes with
  | nil => rfl
  | cons here _ inductionHypothesis =>
    obtain ⟨id, isId, trimmed⟩ := (Scene.parts_of_ofValue here).1
    rw [List.filterMap_cons_some isId, List.map_cons, List.map_cons, trimmed, inductionHypothesis]

/-- The start is that of the document. -/
theorem start_of_ofValue (isRead : Project.ofValue now value = .ok project) :
    project.startSceneId = Document.start? value := by
  obtain ⟨members, isObject, from'⟩ := ofValue_ok_iff.mp isRead
  rw [Document.start?, Value.textAt?, isObject, Option.bind_some]
  obtain ⟨name, part, isFound, isText⟩ | ⟨missing, same⟩ := optional_ok_iff.mp from'.start
  · rw [isFound, Option.bind_some, text?_of_ok isText]
  · rw [missing, Option.bind_none, same]

/-- The targets are those of the document, choice by choice. -/
theorem targets_of_ofValue (isRead : Project.ofValue now value = .ok project) :
    project.scenes.map (fun scene => scene.choices.map (·.target)) = Document.targets value := by
  refine (map_eq_of_forall₂ (forall₂_scenes isRead) fun part scene isScene => ?_).symm
  exact map_eq_of_forall₂ (Scene.parts_of_ofValue isScene).2
    fun part choice isChoice => Choice.target_of_ofValue isChoice

/-- A reference to a scene of the document is the id of a scene that was read exactly when it has
no outer blanks. -/
theorem mem_sceneIds_iff (isRead : Project.ofValue now value = .ok project) {id : String}
    (known : id ∈ Document.sceneIds value) : id ∈ project.sceneIds ↔ Text.trim id = id := by
  rw [sceneIds_of_ofValue isRead]
  constructor
  · intro member
    obtain ⟨given, -, rfl⟩ := List.mem_map.mp member
    exact Text.trim_trim given
  · intro trimmed
    exact List.mem_map.mpr ⟨id, known, trimmed⟩

theorem exists_choice_iff (isRead : Project.ofValue now value = .ok project)
    (P : String → Prop) : (∃ choice, project.HasChoice choice ∧ P choice.target) ↔
      ∃ row ∈ Document.targets value, ∃ id ∈ row, P id := by
  rw [← targets_of_ofValue isRead]
  simp only [HasChoice, List.mem_map]
  constructor
  · rintro ⟨choice, ⟨scene, inProject, inScene⟩, holds⟩
    exact ⟨_, ⟨scene, inProject, rfl⟩, choice.target, List.mem_map_of_mem inScene, holds⟩
  · rintro ⟨_, ⟨scene, inProject, rfl⟩, id, inRow, holds⟩
    obtain ⟨choice, inScene, rfl⟩ := List.mem_map.mp inRow
    exact ⟨choice, ⟨scene, inProject, inScene⟩, holds⟩

/-- A lookup finds the first scene whose id in the document is the asked one but for blanks. -/
theorem scene?_of_ofValue (isRead : Project.ofValue now value = .ok project) (id : String) :
    project.scene? id =
      project.scenes[(Document.sceneIds value).findIdx fun given => Text.trim given == id]? := by
  have places := congrArg (List.findIdx (· == id)) (sceneIds_of_ofValue isRead)
  rw [sceneIds, List.findIdx_map, List.findIdx_map] at places
  rw [scene?, List.find?_eq_getElem?_findIdx]
  exact congrArg (project.scenes[·]?) places

/-- Where the ids of the document have no outer blanks, reading breaks no reference. -/
theorem references_kept_of_trimmed (isRead : Project.ofValue now value = .ok project)
    (closed : Document.Closed value)
    (trimmed : ∀ id ∈ Document.sceneIds value, Text.trim id = id) :
    (∀ id ∈ project.startSceneId, id ∈ project.sceneIds) ∧
      ∀ choice, project.HasChoice choice → project.LeadsSomewhere choice := by
  have kept {id : String} (known : id ∈ Document.sceneIds value) : id ∈ project.sceneIds :=
    (mem_sceneIds_iff isRead known).mpr (trimmed id known)
  constructor
  · rw [start_of_ofValue isRead]
    exact fun id isStart => kept (closed.start id isStart)
  · by_contra broken
    simp only [not_forall, LeadsSomewhere, exists_prop] at broken
    obtain ⟨row, isRow, id, inRow, nowhere⟩ := (exists_choice_iff isRead fun id =>
      ¬(id = terminalTarget ∨ id ∈ project.sceneIds)).mp broken
    exact nowhere ((closed.targets row isRow id inRow).imp_right kept)

/-- Where the references of the document are closed, its start is reported as missing exactly when
it has outer blanks. -/
theorem reports_missingStart_of_ofValue (isRead : Project.ofValue now value = .ok project)
    (closed : Document.Closed value) :
    Validation.Reports (Validation.report project).issues .missingStart ↔
      ∃ id, Document.start? value = some id ∧ Text.trim id ≠ id := by
  rw [Validation.reports_iff, Breaks, start_of_ofValue isRead]
  constructor
  · rintro ⟨-, id, isStart, unknown⟩
    exact ⟨id, isStart, mt (mem_sceneIds_iff isRead (closed.start id isStart)).mpr unknown⟩
  · rintro ⟨id, isStart, padded⟩
    have known := closed.start id isStart
    refine ⟨?_, id, isStart, mt (mem_sceneIds_iff isRead known).mp padded⟩
    -- the document has a scene with the id of the start, so the project has a scene
    intro none
    have noIds := sceneIds_of_ofValue isRead
    rw [sceneIds, none, List.map_nil] at noIds
    rw [List.map_eq_nil_iff.mp noIds.symm] at known
    exact absurd known List.not_mem_nil

/-- Where the references of the document are closed, a target is reported as dangling exactly when
some target other than the sentinel has outer blanks. -/
theorem reports_danglingTarget_of_ofValue (isRead : Project.ofValue now value = .ok project)
    (closed : Document.Closed value) :
    Validation.Reports (Validation.report project).issues .danglingTarget ↔
      ∃ row ∈ Document.targets value, ∃ id ∈ row, id ≠ terminalTarget ∧ Text.trim id ≠ id := by
  rw [Validation.reports_iff, Breaks]
  simp only [LeadsSomewhere, not_or]
  rw [exists_choice_iff isRead fun id => id ≠ terminalTarget ∧ id ∉ project.sceneIds]
  constructor
  · rintro ⟨row, isRow, id, inRow, notEnd, unknown⟩
    have known := (closed.targets row isRow id inRow).resolve_left notEnd
    exact ⟨row, isRow, id, inRow, notEnd, mt (mem_sceneIds_iff isRead known).mpr unknown⟩
  · rintro ⟨row, isRow, id, inRow, notEnd, padded⟩
    have known := (closed.targets row isRow id inRow).resolve_left notEnd
    exact ⟨row, isRow, id, inRow, notEnd, mt (mem_sceneIds_iff isRead known).mp padded⟩

/-- Where no other id of the document is an id but for blanks, the scene is found that the document
names. -/
theorem scene?_named (isRead : Project.ofValue now value = .ok project) {id : String}
    (trimmed : Text.trim id = id)
    (only : ∀ other ∈ Document.sceneIds value, Text.trim other = id → other = id) :
    project.scene? id = project.scenes[(Document.sceneIds value).findIdx (· == id)]? := by
  rw [scene?_of_ofValue isRead id]
  have sameAs {given : String} (same : (given == id) = true) : (Text.trim given == id) = true :=
    beq_iff_eq.mpr ((congrArg Text.trim (eq_of_beq same)).trans trimmed)
  have place := Nat.le_antisymm (List.findIdx_le_findIdx fun given _ same => sameAs same)
    (List.findIdx_le_findIdx fun given isGiven same =>
      beq_iff_eq.mpr (only given isGiven (eq_of_beq same)))
  rw [place]

/-- Reading keeps the references without outer blanks and breaks the others. In a document in which
every reference is closed, the start is reported as missing exactly when it has outer blanks, and
a target as dangling exactly when some target other than the sentinel has. Every choice keeps the
target that the document gave it, letter by letter; and where no other id of the document is the
target but for blanks, it is answered by the scene that the document names, if it is not broken. -/
theorem references_kept_iff (isRead : Project.ofValue now value = .ok project)
    (closed : Document.Closed value) :
    (Validation.Reports (Validation.report project).issues .missingStart ↔
      ∃ id, Document.start? value = some id ∧ Text.trim id ≠ id) ∧
    (Validation.Reports (Validation.report project).issues .danglingTarget ↔
      ∃ row ∈ Document.targets value, ∃ id ∈ row, id ≠ terminalTarget ∧ Text.trim id ≠ id) ∧
    (project.startSceneId = Document.start? value ∧
      project.scenes.map (fun scene => scene.choices.map (·.target)) = Document.targets value) ∧
    ∀ id ∈ Document.sceneIds value, Text.trim id = id →
      (project.scene? id).isSome = true ∧
      project.scene? id =
        project.scenes[(Document.sceneIds value).findIdx fun given => Text.trim given == id]? ∧
      ((∀ other ∈ Document.sceneIds value, Text.trim other = id → other = id) →
        project.scene? id = project.scenes[(Document.sceneIds value).findIdx (· == id)]?) := by
  refine ⟨reports_missingStart_of_ofValue isRead closed,
    reports_danglingTarget_of_ofValue isRead closed,
    ⟨start_of_ofValue isRead, targets_of_ofValue isRead⟩, fun id known trimmed => ?_⟩
  have isScene := (mem_sceneIds_iff isRead known).mpr trimmed
  exact ⟨(project.scene?_isSome_iff id).mpr isScene, scene?_of_ofValue isRead id,
    scene?_named isRead trimmed⟩

/-- The document of a story that starts and goes round in a scene of which the id has blanks around
it. -/
def paddedDocument : Value :=
  .object [("id", .text "p"), ("name", .text "P"), ("startSceneId", .text " hall "),
    ("scenes", .list
      [.object [("id", .text " hall "), ("title", .text "Hall"), ("choices", .list
        [.object [("id", .text "stay"), ("text", .text "Stay"), ("nextSceneId", .text " hall ")],
          .object [("id", .text "down"), ("text", .text "Climb down"),
            ("nextSceneId", .text "cellar")]])],
        .object [("id", .text "cellar"), ("title", .text "Cellar"), ("choices", .list
          [.object [("id", .text "rest"), ("text", .text "Rest")]])]])]

theorem paddedDocument_references :
    ∃ project, Project.ofValue lampStory.created paddedDocument = .ok project ∧
      Validation.Reports (Validation.report project).issues .missingStart ∧
      Validation.Reports (Validation.report project).issues .danglingTarget ∧
      project.scene? "cellar" = project.scenes[1]? := by
  have closed : Document.Closed paddedDocument := by decide
  obtain ⟨project, isRead⟩ :
      ∃ project, Project.ofValue lampStory.created paddedDocument = .ok project := ⟨_, rfl⟩
  obtain ⟨start, target, -, found⟩ := references_kept_iff isRead closed
  refine ⟨project, isRead, start.mpr ⟨" hall ", rfl, by decide⟩, target.mpr ?_,
    (found "cellar" (by decide) (by decide)).2.1⟩
  exact ⟨[" hall ", "cellar"], by decide, " hall ", by decide, by decide, by decide⟩

/-- Every reference of the document is closed; still the start is reported as missing, and the
choice that leads back as dangling. -/
theorem paddedDocument_breaks :
    Document.Closed paddedDocument ∧
      ∃ project, Project.ofValue lampStory.created paddedDocument = .ok project ∧
        (Validation.report project).issues.map (fun issue => (issue.code, issue.message)) =
          [(.missingStart, "Start scene ' hall ' does not exist."),
            (.danglingTarget, "Choice 'stay' in scene 'hall' points to unknown scene ' hall '.")] ∧
        project.scene? " hall " = none :=
  ⟨by decide, _, rfl, by decide +kernel, rfl⟩

end Project

end Gamebook
