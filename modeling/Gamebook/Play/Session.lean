import Gamebook.Play.Engine

/-!
# Sessions

A session keeps the state of one playthrough of a project and a record of every
attempt since the last start. Its state changes only when a choice is taken or when
it starts again. A fault of arithmetic leaves the session as it was.
-/

namespace Gamebook

/-- An attempt to take a choice and what became of it. -/
structure Attempt where
  choiceId : String
  outcome : Outcome
  deriving DecidableEq, Repr

/-- One playthrough with its record. -/
structure Session where
  id : String
  project : Project
  state : PlayerState
  attempts : List Attempt := []
  deriving Repr

namespace Session

/-- A session at the start of the story, or in a given state. -/
def start (project : Project) (id : String) (state : Option PlayerState) :
    Except Issue Session :=
  match state with
  | some state => .ok { id := id, project := project, state := state }
  | none => project.reset.map fun state => { id := id, project := project, state := state }

/-- The scene the player is in. -/
def scene? (session : Session) : Option Scene := session.project.currentScene? session.state

/-- Whether the story has ended. -/
def isEnded (session : Session) : Bool := session.state.isEnded

/-- The choices of the current scene as displayed. -/
def choices (session : Session) : Except NumberFault (List Availability) :=
  session.project.display session.state none

/-- The session after an attempt. -/
def record (session : Session) (choiceId : String) (outcome : Outcome) : Session :=
  { session with
    state := outcome.state, attempts := session.attempts ++ [⟨choiceId, outcome⟩] }

/-- Tries to take the choice with an id. -/
def choose (session : Session) (choiceId : String) : Except NumberFault (Outcome × Session) :=
  (session.project.select session.state choiceId).map fun outcome =>
    (outcome, session.record choiceId outcome)

/-- The choice that is displayed under a number, counted from one. -/
def numbered? (session : Session) (number : Int) : Option Choice :=
  match session.scene? with
  | some scene => if 1 ≤ number then scene.choices[(number - 1).toNat]? else none
  | none => none

/-- Tries to take the choice that is displayed under a number. A number that stands nowhere is
refused without a record. -/
def chooseNumber (session : Session) (number : Int) :
    Except NumberFault (Outcome × Session) :=
  match session.numbered? number with
  | some choice => session.choose choice.id
  | none =>
    (Numeral.write number).map fun shown =>
      (.rejected shown (.noNumber shown) session.state, session)

/-- Starts again with an empty record. -/
def restart (session : Session) : Except Issue Session :=
  session.project.reset.map fun state => { session with state := state, attempts := [] }

/-- Tries choices in order up to the first that is not taken. Gives the attempts and the
session, also when a fault stopped it. -/
def run (session : Session) : List String → Except NumberFault (List Attempt) × Session
  | [] => (.ok [], session)
  | choiceId :: rest =>
    match session.choose choiceId with
    | .error fault => (.error fault, session)
    | .ok (outcome, next) =>
      if outcome.isAccepted then
        let (attempts, last) := next.run rest
        (attempts.map (⟨choiceId, outcome⟩ :: ·), last)
      else (.ok [⟨choiceId, outcome⟩], next)

end Session

end Gamebook
