import Gamebook.Json.Value
import Gamebook.Story.Moment
import Gamebook.Story.Rule

/-!
# Projects

A project is a list of scenes with choices that lead from one to another, and the
characters, items, variables and settings that belong to it. A choice leads to a
scene by its id, or ends the story when it names the terminal sentinel. Of several
scenes with one id a lookup finds the first, and so for choices.
-/

namespace Gamebook

/-- The target of a choice that ends the story. -/
def terminalTarget : String := "__end__"

/-- An action the player can take in a scene. -/
structure Choice where
  id : String
  text : String
  target : String := terminalTarget
  requirements : List Condition := []
  consequences : List Consequence := []
  deriving DecidableEq, Repr

/-- Whether the choice ends the story. -/
def Choice.isTerminal (choice : Choice) : Bool := choice.target == terminalTarget

/-- A place of the story with its choices in display order. -/
structure Scene where
  id : String
  title : String
  description : String := ""
  image : Option String := none
  choices : List Choice := []
  deriving DecidableEq, Repr

/-- The first choice with an id. -/
def Scene.choice? (scene : Scene) (id : String) : Option Choice :=
  scene.choices.find? (·.id == id)

/-- The four attributes of a character. -/
structure Attributes where
  health : Int := 0
  strength : Int := 0
  intelligence : Int := 0
  agility : Int := 0
  deriving DecidableEq, Repr

/-- A person of the story. -/
structure Character where
  id : String
  name : String
  description : String := ""
  attributes : Attributes := {}
  portrait : Option String := none
  backstory : String := ""
  deriving DecidableEq, Repr

/-- What an item is for. -/
inductive ItemType
  | weapon
  | armor
  | consumable
  | key
  | misc
  deriving DecidableEq, Repr

/-- The name of an item type. -/
def ItemType.name : ItemType → String
  | .weapon => "weapon"
  | .armor => "armor"
  | .consumable => "consumable"
  | .key => "key"
  | .misc => "misc"

/-- The item types with their names. -/
def ItemType.options : List (String × ItemType) :=
  [.weapon, .armor, .consumable, .key, .misc].map fun type => (type.name, type)

/-- A thing of the story with free properties. -/
structure Item where
  id : String
  name : String
  description : String := ""
  type : ItemType := .misc
  image : Option String := none
  properties : Entries Value := []
  deriving Repr

/-- The look of the playable page. -/
inductive Theme
  | dark
  | light
  | fantasy
  | scifi
  deriving DecidableEq, Repr

/-- The name of a theme. -/
def Theme.name : Theme → String
  | .dark => "dark"
  | .light => "light"
  | .fantasy => "fantasy"
  | .scifi => "scifi"

/-- The themes with their names. -/
def Theme.options : List (String × Theme) :=
  [.dark, .light, .fantasy, .scifi].map fun theme => (theme.name, theme)

/-- How hard a story is meant to be. -/
inductive Difficulty
  | easy
  | normal
  | hard
  deriving DecidableEq, Repr

/-- The name of a difficulty. -/
def Difficulty.name : Difficulty → String
  | .easy => "easy"
  | .normal => "normal"
  | .hard => "hard"

/-- The difficulties with their names. -/
def Difficulty.options : List (String × Difficulty) :=
  [.easy, .normal, .hard].map fun difficulty => (difficulty.name, difficulty)

/-- The settings of a game. -/
structure GameSettings where
  theme : Theme := .dark
  difficulty : Difficulty := .normal
  enableSaving : Bool := true
  enableMusic : Bool := false
  enableVoice : Bool := false
  deriving DecidableEq, Repr

/-- The value of a declared variable. -/
inductive VariableValue
  | scalar (value : Scalar)
  | text (value : String)
  deriving DecidableEq, Repr

/-- A whole story with everything that belongs to it. -/
structure Project where
  id : String
  name : String
  description : String := ""
  genre : String := ""
  created : Moment
  updated : Moment
  scenes : List Scene := []
  characters : List Character := []
  items : List Item := []
  declared : Entries VariableValue := []
  settings : GameSettings := {}
  startSceneId : Option String := none
  deriving Repr

namespace Project

/-- The first scene with an id. -/
def scene? (project : Project) (id : String) : Option Scene :=
  project.scenes.find? (·.id == id)

/-- The ids of the scenes in order. -/
def sceneIds (project : Project) : List String := project.scenes.map (·.id)

/-- The scene a story starts in: the one named as start, or the first when none is named. -/
def startScene? (project : Project) : Option Scene :=
  match project.startSceneId with
  | some id => project.scene? id
  | none => project.scenes.head?

/-- The first scene that has a choice with an id, and that choice. -/
def owner? (project : Project) (choiceId : String) : Option (Scene × Choice) :=
  project.scenes.findSome? fun scene => (scene.choice? choiceId).map (scene, ·)

end Project

end Gamebook
