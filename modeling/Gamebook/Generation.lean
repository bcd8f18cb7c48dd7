import Gamebook.Provider.Message
import Gamebook.Provider.Retry
import Gamebook.Reply.Reading
import Gamebook.Story.Editing

/-!
# Generating content

A generator asks a provider for content with a prompt for its kind, reads the reply,
and adds the entity to a project. The provider is attempted under a policy. When
anything fails the project stays as it is; a scene gets a new id until no scene has
it, while a character or an item with an id in use is refused.
-/

namespace Gamebook

/-- What a provider is asked: messages and a temperature, if one is set. -/
structure Query where
  messages : List Message
  temperature : Value
  deriving Repr

/-- A provider with a state of its own. -/
structure Provider (σ : Type) where
  complete : Query → σ → Except Failure Completion × σ

/-- How a generator works: its attempts and its temperature. -/
structure Generator where
  policy : RetryPolicy := {}
  temperature : Value := .null
  deriving Repr

/-- The topics on which a provider is asked for advice. -/
inductive Topic
  | story
  | balance
  | bug
  deriving DecidableEq, Repr

/-- The name of a topic. -/
def Topic.name : Topic → String
  | .story => "story"
  | .balance => "balance"
  | .bug => "bug"

/-- The topic with exactly this name. -/
def Topic.ofName? (name : String) : Option Topic :=
  [.story, .balance, .bug].find? (·.name == name)

/-- Advice on a topic with the suggestions in it. -/
structure Advice where
  topic : Topic
  content : String
  suggestions : List String
  deriving DecidableEq, Repr

/-- Why nothing was generated. -/
inductive GenerationFault
  | unknownKind (shown : String)
  | unknownTopic (shown : String)
  | failure (failure : Failure)
  | edit (error : EditError)
  deriving DecidableEq, Repr

/-- The fault as a sentence. -/
def GenerationFault.message : GenerationFault → String
  | .unknownKind shown => shown ++ " is not a valid ContentKind"
  | .unknownTopic shown => shown ++ " is not a valid AssistanceTopic"
  | .failure cause => cause.text
  | .edit refusal => refusal.message

namespace Generation

/-- How the provider is told to write. -/
def persona : String :=
  "You are an expert game writer creating engaging text-based adventure games. " ++
    "Keep the tone engaging and appropriate for interactive fiction."

/-- The prompt for content of a kind. -/
def contentPrompt (kind : ContentKind) (description : String) : String :=
  let wish := Text.trim description
  match kind with
  | .scene =>
    "Create a detailed game scene based on: " ++ wish ++
      ". Include title, description, and 3-4 player choices."
  | .character =>
    "Create a game character based on: " ++ wish ++
      ". Include name, description, attributes, and backstory."
  | .item =>
    "Create a game item based on: " ++ wish ++
      ". Include name, description, type, and special properties."

/-- The first and the last line of a prompt for advice. -/
def advicePhrases : Topic → String × String
  | .story =>
    ("As a game narrative expert, help with this story development request.",
      "Provide creative suggestions for plot development, character arcs, " ++
        "and narrative structure.")
  | .balance =>
    ("As a game balance expert, analyse this gameplay request.",
      "Provide recommendations for difficulty curves and progression.")
  | .bug =>
    ("As a debugging expert, help identify and fix this story logic issue.",
      "Provide a step-by-step approach and potential solutions.")

/-- The prompt for advice. -/
def advicePrompt (topic : Topic) (request context : String) : String :=
  let (opening, closing) := advicePhrases topic
  let about := Text.trim context
  String.intercalate "\n"
    [opening,
      "Context: " ++ (if about.isEmpty then "Creating a new adventure game" else about),
      "Request: " ++ Text.trim request, closing]

/-- The content kind a value names exactly. -/
def kindOf (value : Value) : Except GenerationFault ContentKind :=
  match value.text?.bind ContentKind.ofName? with
  | some kind => .ok kind
  | none =>
    match value.shown with
    | .ok shown => .error (.unknownKind shown)
    | .error fault => .error (.failure ⟨fault.failureClass, fault.message⟩)

/-- The topic a value names exactly. -/
def topicOf (value : Value) : Except GenerationFault Topic :=
  match value.text?.bind Topic.ofName? with
  | some topic => .ok topic
  | none =>
    match value.shown with
    | .ok shown => .error (.unknownTopic shown)
    | .error fault => .error (.failure ⟨fault.failureClass, fault.message⟩)

variable {σ : Type}

/-- The reply to a prompt, after as many attempts as the policy allows. -/
def complete (generator : Generator) (provider : Provider σ) (prompt : String) (state : σ) :
    Attempts σ String :=
  let query : Query :=
    ⟨[⟨.system, persona⟩, ⟨.user, Text.trim prompt⟩], generator.temperature⟩
  let operation (state : σ) : Except Failure String × σ :=
    let (completion, state) := provider.complete query state
    (completion.map (·.message.content), state)
  attempt generator.policy .standardRules operation [] state

/-- What a step of generation gives: a result or a fault, with the state of the provider, the
ids that are left and the delays that were waited for. -/
structure Step (σ α : Type) where
  result : Except GenerationFault α
  state : σ
  ids : IdSource
  delays : List Scalar

/-- Content of a kind from the reply of a provider. -/
def generate (generator : Generator) (provider : Provider σ) (kind : ContentKind)
    (description : String) (ids : IdSource) (state : σ) : Step σ Content :=
  let made := complete generator provider (contentPrompt kind description) state
  match made.result with
  | .error failure => ⟨.error (.failure failure), made.state, ids, made.delays⟩
  | .ok text =>
    let (content, ids) := Reply.read kind [] text ids
    ⟨.ok content, made.state, ids, made.delays⟩

/-- Gives a scene new ids until no scene of the project has its id. -/
def freshScene (project : Project) (scene : Scene) (ids : IdSource) : Nat → Scene × IdSource
  | 0 => (scene, ids)
  | tries + 1 =>
    if (project.scene? scene.id).isSome then
      let (id, ids) := ids.draw "scene"
      freshScene project { scene with id := id } ids tries
    else (scene, ids)

/-- Adds generated content to a project at a moment. -/
def addContent (project : Project) (now : Moment) (content : Content) (ids : IdSource) :
    Except EditError (Content × Project) × IdSource :=
  match content.entity with
  | .scene scene =>
    let tries := ids.given.length + project.scenes.length + 1
    let (scene, ids) := freshScene project scene ids tries
    ((project.addScene scene).map fun project =>
      ({ content with entity := .scene scene }, project.touch now), ids)
  | .character character =>
    ((project.addCharacter character).map fun project => (content, project.touch now), ids)
  | .item item => ((project.addItem item).map fun project => (content, project.touch now), ids)

/-- Generates content of a kind and adds it to a project. -/
def generateInto (generator : Generator) (provider : Provider σ) (project : Project)
    (now : Moment) (kind : ContentKind) (description : String) (ids : IdSource) (state : σ) :
    Step σ (Content × Project) :=
  let step := generate generator provider kind description ids state
  match step.result with
  | .error fault => { step with result := .error fault }
  | .ok content =>
    let (added, ids) := addContent project now content step.ids
    { step with result := added.mapError .edit, ids := ids }

/-! ## Adding to a project in place -/

/-- Where content is added: the project, the state of the provider, the ids that are left and the
delays that were waited for. -/
structure Desk (σ : Type) where
  project : Project
  state : σ
  ids : IdSource
  delays : List Scalar := []

/-- Work at a desk. What was done before a fault stays done. -/
abbrev Work (σ : Type) := EStateM GenerationFault (Desk σ)

/-- Requests content of a kind. -/
def request (generator : Generator) (provider : Provider σ) (kind : ContentKind)
    (description : String) : Work σ Content := do
  let desk ← get
  let step := generate generator provider kind description desk.ids desk.state
  set { desk with state := step.state, ids := step.ids, delays := desk.delays ++ step.delays }
  match step.result with
  | .ok content => return content
  | .error fault => throw fault

/-- The entity of content, which must be of the kind that was requested. -/
def expect (content : Content) (kind : ContentKind) : Work σ Entity :=
  match content.expect kind with
  | .ok entity => return entity
  | .error reason => throw (.failure ⟨.badType, reason⟩)

/-- Edits the project of the desk. -/
def edit (change : Project → Except EditError Project) : Work σ Unit := do
  let desk ← get
  match change desk.project with
  | .ok project => set { desk with project := project }
  | .error refusal => throw (.edit refusal)

/-- Gives a scene an id that no scene of the project has. -/
def freshen (scene : Scene) : Work σ Scene := do
  let desk ← get
  let tries := desk.ids.given.length + desk.project.scenes.length + 1
  let (scene, ids) := freshScene desk.project scene desk.ids tries
  set { desk with ids := ids }
  return scene

/-- Adds an entity to the project of the desk, a scene under a new id if need be. -/
def place (entity : Entity) : Work σ Entity :=
  match entity with
  | .scene scene => do
    let scene ← freshen scene
    edit (·.addScene scene)
    return .scene scene
  | .character character => do
    edit (·.addCharacter character)
    return .character character
  | .item item => do
    edit (·.addItem item)
    return .item item

/-- Generates content of a kind and adds it to the project of the desk at a moment. -/
def generateAt (generator : Generator) (provider : Provider σ) (now : Moment)
    (kind : ContentKind) (description : String) : Work σ Content := do
  let content ← request generator provider kind description
  let entity ← expect content kind
  let placed ← place entity
  edit fun project => .ok (project.touch now)
  return { content with entity := placed }

/-- Advice from a provider. -/
def advise (generator : Generator) (provider : Provider σ) (topic : Topic)
    (request context : String) (state : σ) : Attempts σ Advice :=
  let made := complete generator provider (advicePrompt topic request context) state
  { made with
    result := made.result.map fun content => ⟨topic, content, Reply.suggestions 5 content⟩ }

end Generation

end Gamebook
