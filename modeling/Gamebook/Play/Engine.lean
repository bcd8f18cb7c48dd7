import Gamebook.Play.Effect
import Gamebook.Validation

/-!
# Taking choices

A playthrough starts in the start scene with nothing stored. A choice is taken when
the story goes on, the current scene has it, its requirements hold, its target
exists and its consequences can be applied; then the store changes, the history
grows by its id, and the player moves on or the story ends. A choice that is not
taken changes nothing and gives the reason. Replaying takes a list of choices from
the start and fails at the first that is not taken.
-/

namespace Gamebook

/-- Why a choice is not taken. -/
inductive Refusal
  | ended
  | elsewhere (owner current : String)
  | unknown
  | unmet (reason : Reason)
  | missingTarget (id : String)
  | effect (refusal : EffectRefusal)
  | noNumber (number : String)
  deriving DecidableEq, Repr

/-- The refusal as a sentence. -/
def Refusal.text : Refusal → String
  | .ended => "the story has already ended"
  | .elsewhere owner current =>
    "choice belongs to scene '" ++ owner ++ "', not the current scene '" ++ current ++ "'"
  | .unknown => "no such choice"
  | .unmet reason => reason.text
  | .missingTarget id => "target scene '" ++ id ++ "' does not exist"
  | .effect refusal => refusal.text
  | .noNumber number => "there is no choice number " ++ number

/-- What became of a choice: taken with a new state, or not taken with the old one. -/
inductive Outcome
  | accepted (choice : Choice) (state : PlayerState)
  | rejected (choiceId : String) (refusal : Refusal) (state : PlayerState)
  deriving DecidableEq, Repr

/-- Whether the choice was taken. -/
def Outcome.isAccepted : Outcome → Bool
  | .accepted .. => true
  | .rejected .. => false

/-- The state after the choice. -/
def Outcome.state : Outcome → PlayerState
  | .accepted _ state => state
  | .rejected _ _ state => state

/-- A choice as it is displayed: its place, and the reason when it is locked. -/
structure Availability where
  choice : Choice
  index : Nat
  reason : Option Reason
  deriving DecidableEq, Repr

/-- Whether the displayed choice is open. -/
def Availability.isAllowed (entry : Availability) : Bool := entry.reason.isNone

/-- Why a playthrough cannot start or go on. -/
inductive PlayFault
  | invalid (issue : Issue)
  | rejected (choiceId : String) (refusal : Refusal)
  | number (fault : NumberFault)
  deriving DecidableEq, Repr

/-- The fault as a sentence. -/
def PlayFault.message : PlayFault → String
  | .invalid issue => failureText [issue.message]
  | .rejected choiceId refusal => "Choice '" ++ choiceId ++ "' was rejected: " ++ refusal.text
  | .number fault => fault.message

namespace Project

/-- What is wrong with a project that has no start scene. -/
def noStartIssue (project : Project) : Issue :=
  if project.scenes.isEmpty then Validation.noScenesIssue
  else
    { code := .missingStart
      message := Validation.missingStartMessage (project.startSceneId.getD "None") }

/-- The state at the start of the story. -/
def reset (project : Project) : Except Issue PlayerState :=
  match project.startScene? with
  | some start => .ok { sceneId := start.id }
  | none => .error project.noStartIssue

/-- The scene the player is in. -/
def currentScene? (project : Project) (state : PlayerState) : Option Scene :=
  project.scene? state.sceneId

/-- Displays choices from a place on. -/
def displayFrom (state : PlayerState) (index : Nat) :
    List Choice → Except NumberFault (List Availability)
  | [] => .ok []
  | choice :: rest => do
    let reason ← firstReason? state choice.requirements
    let others ← displayFrom state (index + 1) rest
    .ok (⟨choice, index, reason⟩ :: others)

/-- The choices of a scene, or of the current scene when none is given, in display order. -/
def display (project : Project) (state : PlayerState) (scene : Option Scene) :
    Except NumberFault (List Availability) :=
  match scene <|> project.currentScene? state with
  | some scene => displayFrom state 0 scene.choices
  | none => .ok []

/-- The choice of the current scene with an id. -/
def currentChoice? (project : Project) (state : PlayerState) (choiceId : String) :
    Option Choice :=
  (project.currentScene? state).bind (·.choice? choiceId)

/-- Why a choice cannot be taken that the current scene does not have. -/
def strangerRefusal (project : Project) (state : PlayerState) (choiceId : String) : Refusal :=
  match project.owner? choiceId with
  | some (owner, _) => .elsewhere owner.id state.sceneId
  | none => .unknown

/-- The state after a choice with the store it leaves. -/
def advance (state : PlayerState) (choice : Choice) (store : Store) : PlayerState :=
  { sceneId := if choice.isTerminal then state.sceneId else choice.target
    values := store.values
    kinds := store.kinds
    status := if choice.isTerminal then .ended else .active
    history := state.history ++ [choice.id] }

/-- Whether the target of a choice exists or is not needed. -/
def reaches (project : Project) (choice : Choice) : Bool :=
  choice.isTerminal || (project.scene? choice.target).isSome

/-- Takes a choice of the current scene. -/
def take (project : Project) (state : PlayerState) (choice : Choice) :
    Except NumberFault (Refusal ⊕ PlayerState) :=
  match firstReason? state choice.requirements with
  | .error fault => .error fault
  | .ok (some reason) => .ok (.inl (.unmet reason))
  | .ok none =>
    if !project.reaches choice then .ok (.inl (.missingTarget choice.target))
    else
      match applyAll state.store choice.consequences with
      | .error fault => .error fault
      | .ok (.refused refusal) => .ok (.inl (.effect refusal))
      | .ok (.store store) => .ok (.inr (advance state choice store))

/-- Takes the choice with an id, or says why not. -/
def select (project : Project) (state : PlayerState) (choiceId : String) :
    Except NumberFault Outcome :=
  if state.isEnded then .ok (.rejected choiceId .ended state)
  else
    match project.currentChoice? state choiceId with
    | none => .ok (.rejected choiceId (project.strangerRefusal state choiceId) state)
    | some choice =>
      (project.take state choice).map fun
        | .inl refusal => .rejected choiceId refusal state
        | .inr next => .accepted choice next

/-- Takes choices in order from a state. -/
def replayFrom (project : Project) (state : PlayerState) :
    List String → Except PlayFault PlayerState
  | [] => .ok state
  | choiceId :: rest =>
    match project.select state choiceId with
    | .error fault => .error (.number fault)
    | .ok (.rejected id refusal _) => .error (.rejected id refusal)
    | .ok (.accepted _ next) => replayFrom project next rest

/-- Takes choices in order from the start. -/
def replay (project : Project) (choiceIds : List String) : Except PlayFault PlayerState :=
  match project.reset with
  | .ok state => project.replayFrom state choiceIds
  | .error issue => .error (.invalid issue)

end Project

end Gamebook
