import Gamebook.Service.Target

/-!
# Actions

A target and a method name one action. A target without this method is told apart
from a target that does not exist. A target with slashes at its end is read again
without them, from the characters that its numbered bytes are.
-/

namespace Gamebook.Service

/-- The targets that exist. -/
inductive Endpoint
  | validation
  | export (format : String)
  | projects
  | project (key : String)
  | playtests
  | playtest (id : String)
  | choice (id choiceId : String)
  | restart (id : String)
  | save (id : String)
  deriving DecidableEq, Repr

/-- The target with these names. -/
def Endpoint.ofNames? : List String → Option Endpoint
  | ["validate"] => some .validation
  | ["export", format] => if format.isEmpty then none else some (.export format)
  | ["projects"] => some .projects
  | ["projects", key] => if key.isEmpty then none else some (.project key)
  | ["playtest"] => some .playtests
  | ["playtest", id] => if id.isEmpty then none else some (.playtest id)
  | ["playtest", id, "choices", choiceId] =>
    if id.isEmpty || choiceId.isEmpty then none else some (.choice id choiceId)
  | ["playtest", id, "restart"] => if id.isEmpty then none else some (.restart id)
  | ["playtest", id, "save"] => if id.isEmpty then none else some (.save id)
  | _ => none

/-- Names without empty ones at the end. -/
def dropEmptyEnd (names : List String) : List String :=
  (names.reverse.dropWhile String.isEmpty).reverse

/-- The target with names between slashes. -/
def targetOf (names : List String) : String := "/" ++ String.intercalate "/" names

/-- The target that a request means when it may be read again so many times. -/
def Endpoint.ofTargetWithin? (readings : Nat) (target : String) : Option Endpoint :=
  let given := names target
  match ofNames? given, readings with
  | some endpoint, _ => some endpoint
  | none, 0 => none
  | none, readings + 1 =>
    let short := dropEmptyEnd given
    if (ofNames? short).isSome then ofTargetWithin? readings (targetOf short) else none

/-- The target that a request means. -/
def Endpoint.ofTarget? (target : String) : Option Endpoint := ofTargetWithin? 20 target

/-- What a request asks for. -/
inductive Action
  | validate
  | export (format : String)
  | listProjects
  | putProject (key : String)
  | getProject (key : String)
  | deleteProject (key : String)
  | start
  | get (id : String)
  | choose (id choiceId : String)
  | restart (id : String)
  | save (id : String)
  | finish (id : String)
  deriving DecidableEq, Repr

/-- The action of a method on a target. -/
def Endpoint.action? : Endpoint → String → Option Action
  | .validation, "POST" => some .validate
  | .export format, "POST" => some (.export format)
  | .projects, "GET" => some .listProjects
  | .project key, "PUT" => some (.putProject key)
  | .project key, "GET" => some (.getProject key)
  | .project key, "DELETE" => some (.deleteProject key)
  | .playtests, "POST" => some .start
  | .playtest id, "GET" => some (.get id)
  | .playtest id, "DELETE" => some (.finish id)
  | .choice id choiceId, "POST" => some (.choose id choiceId)
  | .restart id, "POST" => some (.restart id)
  | .save id, "POST" => some (.save id)
  | _, _ => none

end Gamebook.Service
