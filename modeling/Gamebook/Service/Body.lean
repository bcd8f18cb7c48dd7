import Gamebook.Schema.Lenient
import Gamebook.Service.Encoding
import Gamebook.Story.Document

/-!
# Bodies of requests

The body of a request is a document with one entity. A body that is missing, that
is no document or that does not fit its schema is answered with its problems, each
under the body; a body that could not be read at all has no place to point at.
-/

namespace Gamebook.Service

/-- Why a body gives no entity. -/
inductive BodyFault
  | missing
  | noDocument (offset : Nat)
  | unreadable
  | mismatch (body : Value) (problems : List Schema.Problem)

/-- The value that a body holds. -/
def readBody (body : String) : Except BodyFault Value :=
  if body.isEmpty then .error .missing
  else
    match bodyCharacters? body with
    | none => .error .unreadable
    | some source =>
      match Json.readCharacters .stored source with
      | .ok value => .ok value
      | .error ⟨.tooDeep _, _⟩ | .error ⟨.hugeNumber _, _⟩ => .error .unreadable
      | .error fault => .error (.noDocument (source.length - fault.left))

/-- The entity that a body holds. -/
def readEntity {α : Type} (read : Value → Schema.Checked α) (body : String) :
    Except BodyFault α := do
  let value ← readBody body
  (read value).mapError (.mismatch value)

/-- The members that describe one problem. -/
def problemValue (tag message : String) (place : List Value) : Value :=
  .object [("type", .text tag), ("loc", .list (.text "body" :: place)), ("msg", .text message)]

/-- A step into a document as a value. -/
def stepValue : Schema.Step → Value
  | .name label => .text label
  | .index place => .int place

/-- A problem of a body against its schema as a value. -/
def schemaProblemValue (problem : Schema.Problem) : Value :=
  problemValue (problem.complaint.tag .request) (problem.complaint.message .request)
    (problem.path.map stepValue)

/-- A request to start a playthrough: of the project it brings or of a stored one, from the
start or from the saved game. -/
structure StartRequest where
  project : Option Project
  projectId : Option String
  resume : Bool

/-- The field of the id of a stored project. -/
def projectIdField : Schema.Field := ⟨"projectId", "project_id"⟩

/-- A project or nothing. -/
def readProject? (now : Moment) : Value → Schema.Checked (Option Project)
  | .null => .ok none
  | value => (Project.ofValue now value).map some

/-- Reads a request to start a playthrough. Members it does not know are passed over. -/
def StartRequest.ofValue (now : Moment) (value : Value) : Schema.Checked StartRequest :=
  Schema.record "PlaytestCreateRequest" value fun members =>
    Schema.Checked.start StartRequest.mk
      |>.and (Schema.optional members (.single "project") none (readProject? now))
      |>.and (Schema.optional members projectIdField none Schema.text?)
      |>.and (Schema.optional members (.single "resume") false Schema.switch)

end Gamebook.Service
