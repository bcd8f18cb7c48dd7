import Gamebook.Story.Project

/-!
# Editing a project

An edit gives a new project or a reason for refusing; a refused edit has no effect.
Entities are added at the end, replaced in their place and removed as a whole. No
edit repairs references: a choice whose target scene is removed keeps its target.
-/

namespace Gamebook

/-- What an edit is about. -/
inductive EntityKind
  | project
  | scene
  | choice
  | character
  | item
  | variable
  deriving DecidableEq, Repr

/-- The name of an entity kind at the start of a sentence. -/
def EntityKind.title : EntityKind → String
  | .project => "Project"
  | .scene => "Scene"
  | .choice => "Choice"
  | .character => "Character"
  | .item => "Item"
  | .variable => "Variable"

/-- Why an edit or a lookup is refused. -/
inductive EditError
  | duplicate (kind : EntityKind) (id : String)
  | absent (kind : EntityKind) (id : String)
  | blank (what : String)
  deriving DecidableEq, Repr

/-- The refusal as a sentence. -/
def EditError.message : EditError → String
  | .duplicate kind id => kind.title ++ " '" ++ id ++ "' already exists."
  | .absent kind id => kind.title ++ " '" ++ id ++ "' does not exist."
  | .blank what => what ++ " must be a non-empty string"

/-- A text without outer blanks that is not empty. -/
def requireText (what text : String) : Except EditError String :=
  let trimmed := Text.trim text
  if trimmed.isEmpty then .error (.blank what) else .ok trimmed

/-- A list with the first element that has an id replaced; none when no element has it. -/
def replaceFirst? {α : Type} (idOf : α → String) (replacement : α) : List α → Option (List α)
  | [] => none
  | x :: rest =>
    if idOf x = idOf replacement then some (replacement :: rest)
    else (replaceFirst? idOf replacement rest).map (x :: ·)

/-- A list without the first element that has an id, and that element. -/
def removeFirst? {α : Type} (idOf : α → String) (id : String) : List α → Option (α × List α)
  | [] => none
  | x :: rest =>
    if idOf x = id then some (x, rest)
    else (removeFirst? idOf id rest).map fun (removed, others) => (removed, x :: others)

namespace Project

/-- Adds a scene at the end. -/
def addScene (project : Project) (scene : Scene) : Except EditError Project :=
  if (project.scene? scene.id).isSome then .error (.duplicate .scene scene.id)
  else .ok { project with scenes := project.scenes ++ [scene] }

/-- Puts a scene in the place of the first one with its id. -/
def replaceScene (project : Project) (scene : Scene) : Except EditError Project :=
  match replaceFirst? Scene.id scene project.scenes with
  | some scenes => .ok { project with scenes := scenes }
  | none => .error (.absent .scene scene.id)

/-- Removes the first scene with an id, which is given back. -/
def removeScene (project : Project) (id : String) : Except EditError (Scene × Project) :=
  match removeFirst? Scene.id id project.scenes with
  | some (removed, scenes) => .ok (removed, { project with scenes := scenes })
  | none => .error (.absent .scene id)

/-- The first scene with an id, which must be there. -/
def requireScene (project : Project) (id : String) : Except EditError Scene :=
  match project.scene? id with
  | some scene => .ok scene
  | none => .error (.absent .scene id)

/-- Puts a scene with other choices in the place of the scene it comes from. -/
def withChoices (project : Project) (scene : Scene) (choices : List Choice) :
    Except EditError (Scene × Project) :=
  let changed := { scene with choices := choices }
  (project.replaceScene changed).map (changed, ·)

/-- Adds a choice at the end of a scene, which is given back. -/
def addChoice (project : Project) (sceneId : String) (choice : Choice) :
    Except EditError (Scene × Project) :=
  match project.requireScene sceneId with
  | .error error => .error error
  | .ok scene =>
    if (scene.choice? choice.id).isSome then .error (.duplicate .choice choice.id)
    else project.withChoices scene (scene.choices ++ [choice])

/-- Puts a choice in the place of every choice of a scene with its id. -/
def replaceChoice (project : Project) (sceneId : String) (choice : Choice) :
    Except EditError (Scene × Project) :=
  match project.requireScene sceneId with
  | .error error => .error error
  | .ok scene =>
    if (scene.choice? choice.id).isNone then .error (.absent .choice choice.id)
    else
      project.withChoices scene
        (scene.choices.map fun other => if other.id = choice.id then choice else other)

/-- Removes every choice of a scene with an id. -/
def removeChoice (project : Project) (sceneId choiceId : String) :
    Except EditError (Scene × Project) :=
  match project.requireScene sceneId with
  | .error error => .error error
  | .ok scene =>
    if (scene.choice? choiceId).isNone then .error (.absent .choice choiceId)
    else project.withChoices scene (scene.choices.filter (·.id != choiceId))

/-- Adds a character at the end. -/
def addCharacter (project : Project) (character : Character) : Except EditError Project :=
  if project.characters.any (·.id == character.id) then
    .error (.duplicate .character character.id)
  else .ok { project with characters := project.characters ++ [character] }

/-- Puts a character in the place of the first one with its id. -/
def replaceCharacter (project : Project) (character : Character) : Except EditError Project :=
  match replaceFirst? Character.id character project.characters with
  | some characters => .ok { project with characters := characters }
  | none => .error (.absent .character character.id)

/-- Removes every character with an id. -/
def removeCharacter (project : Project) (id : String) : Except EditError Project :=
  if project.characters.any (·.id == id) then
    .ok { project with characters := project.characters.filter (·.id != id) }
  else .error (.absent .character id)

/-- Adds an item at the end. -/
def addItem (project : Project) (item : Item) : Except EditError Project :=
  if project.items.any (·.id == item.id) then .error (.duplicate .item item.id)
  else .ok { project with items := project.items ++ [item] }

/-- Puts an item in the place of the first one with its id. -/
def replaceItem (project : Project) (item : Item) : Except EditError Project :=
  match replaceFirst? Item.id item project.items with
  | some items => .ok { project with items := items }
  | none => .error (.absent .item item.id)

/-- Removes every item with an id. -/
def removeItem (project : Project) (id : String) : Except EditError Project :=
  if project.items.any (·.id == id) then
    .ok { project with items := project.items.filter (·.id != id) }
  else .error (.absent .item id)

/-- Gives a variable a value under its trimmed key. -/
def setVariable (project : Project) (key : String) (value : VariableValue) :
    Except EditError Project :=
  (requireText "variable key" key).map fun key =>
    { project with declared := project.declared.put key value }

/-- Removes a variable. -/
def removeVariable (project : Project) (key : String) : Except EditError Project :=
  if project.declared.has key then
    .ok { project with declared := project.declared.erase key }
  else .error (.absent .variable key)

/-- Marks the project as changed at a moment. -/
def touch (project : Project) (now : Moment) : Project := { project with updated := now }

end Project

/-- A project of the given name with nothing else but what is given. -/
def newProject (id : String) (now : Moment) (name description genre : String)
    (scenes : List Scene) : Except EditError Project :=
  (requireText "project name" name).map fun name =>
    { id := id, name := name, description := description, genre := genre,
      created := now, updated := now, scenes := scenes }

end Gamebook
