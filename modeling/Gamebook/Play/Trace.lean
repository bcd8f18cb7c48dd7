import Gamebook.Log
import Gamebook.Play.Session

/-!
# Traces of playthroughs

Every attempt to take a choice leaves a record: where it led, or why it was
refused. A replay leaves the records of its attempts up to the first that is
refused.
-/

namespace Gamebook

/-- The record of an attempt from a state. -/
def Outcome.record (before : PlayerState) : Outcome → LogRecord
  | .accepted choice next =>
    ⟨.debug, "state_engine", "Choice " ++ choice.id ++ " moved " ++ before.sceneId ++ " -> " ++
      next.sceneId ++ " (" ++ next.status.name ++ ")"⟩
  | .rejected choiceId refusal _ =>
    ⟨.debug, "state_engine", "Rejected choice " ++ choiceId ++ ": " ++ refusal.text⟩

/-- The records of taking choices in order from a state. -/
def Project.traceFrom (project : Project) (state : PlayerState) : List String → List LogRecord
  | [] => []
  | choiceId :: rest =>
    match project.select state choiceId with
    | .error _ => []
    | .ok outcome =>
      outcome.record state ::
        (if outcome.isAccepted then project.traceFrom outcome.state rest else [])

/-- The records of taking choices in order from the start. -/
def Project.trace (project : Project) (choiceIds : List String) : List LogRecord :=
  match project.reset with
  | .ok state => project.traceFrom state choiceIds
  | .error _ => []

/-- The record of starting a session again. -/
def Session.restartRecord (session : Session) : LogRecord :=
  ⟨.debug, "playtest", "Restarting playtest session " ++ session.id⟩

end Gamebook
