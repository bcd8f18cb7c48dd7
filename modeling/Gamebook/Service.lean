import Gamebook.Archive.Project
import Gamebook.Play.Session
import Gamebook.Service.Action
import Gamebook.Service.Response
import Gamebook.Settings

/-!
# The service

The service answers requests one after the other. It keeps projects and saved
games in an archive and playthroughs under their session ids. A refused request is
answered with the reason; a fault that no rule foresees is answered as broken and
leaves everything as it was before the step that failed.
-/

namespace Gamebook

/-- The id of a session by its number. -/
def numberedId (number : Nat) : String := "session-" ++ Nat.repr number

/-- What the service keeps between requests. -/
structure Service where
  settings : Settings
  archive : Archive
  /-- Where ids of sessions come from: one for each number. -/
  idOf : Nat → String := numberedId
  sessions : Entries Session := []
  /-- How many sessions were begun. -/
  begun : Nat := 0

namespace Service

/-- A request: its method, its target and its body. -/
structure Request where
  method : String
  target : String
  body : String := ""
  deriving DecidableEq, Repr

/-- A service with settings on a disk: its archive is the directory of the settings, or else
memory. -/
def «open» (settings : Settings) (disk : Disk) : Except Disk.Fault Service :=
  match settings.storage with
  | none => .ok { settings := settings, archive := .memory [] }
  | some path =>
    (Archive.Folder.openAt disk path (some settings.indent)).map fun folder =>
      { settings := settings, archive := .folder folder }

/-! ## Views -/

/-- A displayed choice as a value. -/
def choiceValue (entry : Availability) : Value :=
  .object [("id", .text entry.choice.id), ("text", .text entry.choice.text),
    ("number", .int (entry.index + 1)), ("allowed", .bool entry.isAllowed),
    ("reason", .ofText? (entry.reason.map (·.text)))]

/-- A scene without its choices as a value. -/
def sceneValue (scene : Scene) : Value :=
  .object [("id", .text scene.id), ("title", .text scene.title),
    ("description", .text scene.description), ("image", .ofText? scene.image)]

/-- The choices that a session shows: none once the story has ended. -/
def shownChoices (session : Session) : Except NumberFault (List Availability) :=
  if session.isEnded then .ok [] else session.choices

/-- A session as a value, with the refusal of the latest choice if there was one. -/
def sessionValue (session : Session) (choices : List Availability) (refusal : Option String) :
    Value :=
  .object [("sessionId", .text session.id), ("projectId", .text session.project.id),
    ("status", .text session.state.status.name),
    ("scene", match session.scene? with
      | some scene => sceneValue scene
      | none => .null),
    ("choices", .list (choices.map choiceValue)),
    ("variables", .object (session.state.values.map fun (key, x) => (key, .ofScalar x))),
    ("history", .ofTexts session.state.history), ("accepted", .bool refusal.isNone),
    ("reason", .ofText? refusal)]

/-- The response that shows a session. -/
def view (status : Nat) (session : Session) (refusal : Option String) : Response :=
  match shownChoices session with
  | .ok choices => .document status (sessionValue session choices refusal)
  | .error _ => .broken

/-- The response to a session that does not exist. -/
def noSession (id : String) : Response :=
  .sentence 404 ("Playtest session '" ++ id ++ "' does not exist.")

/-- The response to a fault of the archive while something is loaded or deleted. -/
def archiveFault (fault : Archive.Fault) : Response :=
  match fault with
  | .failed _ _ => .sentence 500 fault.message
  | .noProject _ => .sentence 404 fault.message
  | .key _ | .disk _ | .project _ | .encoding _ => .broken

/-! ## Projects -/

/-- Validates a project. -/
def validate (project : Project) : Response :=
  let report := Validation.report project
  let reach := Reachability.report project
  .document 200 (.object [("status", .text report.status), ("valid", .bool report.isValid),
    ("issues", .list (report.issues.map Issue.toValue)),
    ("reachableScenes", .ofTexts reach.reachable),
    ("unreachableScenes", .ofTexts reach.unreachable)])

/-- Writes a project in the format with a name. -/
def exportAs (service : Service) (name : String) (project : Project) : Response :=
  match ExportFormat.ofValue (.text name) with
  | .error fault => .sentence 400 fault.message
  | .ok format =>
    match Export.artifactWith service.settings.indent project format with
    | .ok text => .artifact format project.id text
    | .error (.invalid issues) => .ofIssues issues
    | .error (.write _) | .error (.print _) => .broken

/-- Keeps a project under its id, which the target must name. -/
def putProject (service : Service) (now : Moment) (key : String) (project : Project) :
    Response × Service :=
  if key ≠ project.id then
    (.sentence 400 ("Path key '" ++ key ++ "' does not match project id '" ++ project.id ++ "'."),
      service)
  else
    let (result, archive) := service.archive.saveProject now project
    let next := { service with archive := archive }
    match result with
    | .ok () =>
      (.document 200 (.object [("id", .text project.id), ("name", .text project.name),
        ("sceneCount", .int project.scenes.length)]), next)
    | .error fault => (.sentence (if fault.isRefusal then 400 else 500) fault.message, next)

/-- Shows a stored project. -/
def getProject (service : Service) (now : Moment) (key : String) : Response :=
  match service.archive.loadProject now key with
  | .ok project =>
    match project.write with
    | .ok value => .document 200 value
    | .error _ => .broken
  | .error fault => archiveFault fault

/-- Forgets a stored project and its saved game. -/
def deleteProject (service : Service) (key : String) : Response × Service :=
  let (result, archive) := service.archive.deleteProject key
  let next := { service with archive := archive }
  match result with
  | .ok () => (.nothing, next)
  | .error fault => (archiveFault fault, next)

/-! ## Playthroughs -/

/-- The project that a request to start names. -/
def requestedProject (service : Service) (now : Moment) (request : StartRequest) :
    Except Response Project :=
  match request.project, request.projectId with
  | some project, none => .ok project
  | none, some id => (service.archive.loadProject now id).mapError archiveFault
  | _, _ => .error (.sentence 400 "Provide exactly one of 'project' or 'projectId'.")

/-- The state to begin with: that of the saved game when the request asks for it. -/
def requestedState (service : Service) (request : StartRequest) (project : Project) :
    Except Response (Option PlayerState) :=
  if request.resume then (service.archive.loadGame project.id).mapError archiveFault else .ok none

/-- Begins a session of a project. Its number is used up even if it does not begin. -/
def begin (service : Service) (project : Project) (state : Option PlayerState) :
    Response × Service :=
  let id := service.idOf (service.begun + 1)
  let next := { service with begun := service.begun + 1 }
  match Session.start project id state with
  | .error issue => (.ofIssues [issue], next)
  | .ok session =>
    (view 201 session none, { next with sessions := next.sessions.put id session })

/-- Starts a playthrough. -/
def start (service : Service) (now : Moment) (request : StartRequest) : Response × Service :=
  match requestedProject service now request with
  | .error response => (response, service)
  | .ok project =>
    match requestedState service request project with
    | .error response => (response, service)
    | .ok state => service.begin project state

/-- Does something with a session that exists. -/
def withSession (service : Service) (id : String) (act : Session → Response × Service) :
    Response × Service :=
  match service.sessions.get? id with
  | some session => act session
  | none => (noSession id, service)

/-- The service with a session changed. -/
def keep (service : Service) (id : String) (session : Session) : Service :=
  { service with sessions := service.sessions.put id session }

/-- Takes a choice in a session. -/
def choose (service : Service) (id choiceId : String) : Response × Service :=
  service.withSession id fun session =>
    match session.choose choiceId with
    | .error _ => (.broken, service)
    | .ok (outcome, next) =>
      let refusal := match outcome with
        | .accepted _ _ => none
        | .rejected _ refusal _ => some refusal.text
      (view 200 next refusal, service.keep id next)

/-- Starts a session again. -/
def restart (service : Service) (id : String) : Response × Service :=
  service.withSession id fun session =>
    match session.restart with
    | .error _ => (.broken, service)
    | .ok next => (view 200 next none, service.keep id next)

/-- Keeps the state of a session as the saved game of its project. -/
def save (service : Service) (now : Moment) (id : String) : Response × Service :=
  service.withSession id fun session =>
    let (result, archive) := service.archive.saveGame now session.project.id session.state
    let next := { service with archive := archive }
    match result with
    | .ok () => (.nothing, next)
    | .error fault => (.sentence 500 fault.message, next)

/-- Forgets a session. -/
def finish (service : Service) (id : String) : Service :=
  { service with sessions := service.sessions.erase id }

/-! ## Answering -/

/-- Does something with the entity that a body holds. -/
def withEntity {α : Type} (service : Service) (read : Value → Schema.Checked α) (body : String)
    (act : α → Response × Service) : Response × Service :=
  match readEntity read body with
  | .ok entity => act entity
  | .error fault => (.ofBodyFault fault, service)

/-- Carries out an action with the body of its request. -/
def perform (service : Service) (now : Moment) (body : String) : Action → Response × Service
  | .validate => service.withEntity (Project.ofValue now) body fun project =>
    (validate project, service)
  | .export format => service.withEntity (Project.ofValue now) body fun project =>
    (service.exportAs format project, service)
  | .listProjects =>
    (.document 200 (.object [("data", .ofTexts service.archive.projectIds)]), service)
  | .putProject key => service.withEntity (Project.ofValue now) body (service.putProject now key)
  | .getProject key => (service.getProject now key, service)
  | .deleteProject key => service.deleteProject key
  | .start => service.withEntity (StartRequest.ofValue now) body (service.start now)
  | .get id => service.withSession id fun session => (view 200 session none, service)
  | .choose id choiceId => service.choose id choiceId
  | .restart id => service.restart id
  | .save id => service.save now id
  | .finish id => (.nothing, service.finish id)

/-- Answers a request. -/
def answer (service : Service) (now : Moment) (request : Request) : Response × Service :=
  match Endpoint.ofTarget? request.target with
  | none => (.notFound, service)
  | some endpoint =>
    match endpoint.action? request.method with
    | none => (.notAllowed, service)
    | some action => service.perform now request.body action

/-- Answers requests one after the other. -/
def answerAll (service : Service) (now : Moment) : List Request → List Response × Service
  | [] => ([], service)
  | request :: rest =>
    let (response, next) := service.answer now request
    let (responses, last) := next.answerAll now rest
    (response :: responses, last)

end Service

end Gamebook
