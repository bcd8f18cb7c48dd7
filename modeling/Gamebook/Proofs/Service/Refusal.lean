import Gamebook.Proofs.Archive.Refusal
import Gamebook.Proofs.Service.Isolation
import Gamebook.Proofs.Text.Quoted

/-!
# Refused ids in requests

A store refuses an id with a path separator in it. When a project with such an id is to be kept,
the request is answered with the reason. Where the id is only looked up, to show, to forget or to
play a project or to go on with a saved game, the refusal is answered by nobody, and the request
breaks off. Whatever else a store in memory says is passed on.

What is said here is what the store does to a request. A session that begins may still break off
on its numbers, and a response on what has no encoding.
-/

namespace Gamebook

namespace Service

/-! ## A service in memory -/

/-- The service keeps its documents in memory. -/
def InMemory (service : Service) : Prop := service.archive.InMemory

section Memory

variable {service : Service} (inMemory : service.InMemory)
include inMemory

theorem start_inMemory (now : Moment) (request : StartRequest) :
    (service.start now request).2.InMemory := by
  unfold start
  split
  · exact inMemory
  · split
    · exact inMemory
    · unfold begin
      dsimp only
      split <;> exact inMemory

theorem putProject_inMemory (now : Moment) (key : String) (project : Project) :
    (service.putProject now key project).2.InMemory := by
  have saved : (service.archive.saveProject now project).2.InMemory :=
    Archive.InMemory.saveProject inMemory now project
  unfold putProject
  split
  · exact inMemory
  · dsimp only
    split <;> exact saved

theorem deleteProject_inMemory (key : String) : (service.deleteProject key).2.InMemory := by
  have deleted : (service.archive.deleteProject key).2.InMemory :=
    Archive.InMemory.deleteProject inMemory key
  unfold deleteProject
  dsimp only
  split <;> exact deleted

theorem withSession_inMemory {id : String} {act : Session → Response × Service}
    (acted : ∀ session, (act session).2.InMemory) :
    (service.withSession id act).2.InMemory := by
  unfold withSession
  split
  · exact acted _
  · exact inMemory

theorem save_inMemory (now : Moment) (id : String) : (service.save now id).2.InMemory := by
  refine withSession_inMemory inMemory fun session => ?_
  have saved : (service.archive.saveGame now session.project.id session.state).2.InMemory :=
    Archive.InMemory.save inMemory now _ _
  dsimp only
  split <;> exact saved

theorem perform_inMemory (now : Moment) (body : String) (action : Action) :
    (service.perform now body action).2.InMemory := by
  cases action with
  | validate => exact withEntity_next inMemory fun _ => inMemory
  | «export» format => exact withEntity_next inMemory fun _ => inMemory
  | putProject key => exact withEntity_next inMemory (putProject_inMemory inMemory now key)
  | deleteProject key => exact deleteProject_inMemory inMemory key
  | start => exact withEntity_next inMemory (start_inMemory inMemory now)
  | get id => exact withSession_inMemory inMemory fun _ => inMemory
  | choose id choiceId | restart id =>
    refine withSession_inMemory inMemory fun session => ?_
    split <;> exact inMemory
  | save id => exact save_inMemory inMemory now id
  | listProjects | getProject _ | finish _ => exact inMemory

theorem answer_inMemory (now : Moment) (request : Request) :
    (service.answer now request).2.InMemory := by
  cases asked : request.action? with
  | none =>
    rw [answer_of_none asked]
    exact inMemory
  | some action =>
    rw [answer_of_action asked]
    exact perform_inMemory inMemory now request.body action

/-- Whatever requests come, a service that keeps its documents in memory goes on to do so. -/
theorem after_inMemory (arrivals : List Arrival) : (service.after arrivals).InMemory := by
  induction arrivals generalizing service with
  | nil => exact inMemory
  | cons arrival rest inductionHypothesis =>
    exact inductionHypothesis (answer_inMemory inMemory arrival.moment arrival.request)

end Memory

/-! ## Ids that are looked up -/

/-- The service looks something up under an id for a request: the project that is to be shown,
forgotten or played, or the saved game of the project that is to be gone on with. -/
inductive LooksUp (service : Service) (now : Moment) (request : Request) : String → Prop
  | shown {id : String} (asked : request.action? = some (.getProject id)) :
    LooksUp service now request id
  | forgotten {id : String} (asked : request.action? = some (.deleteProject id)) :
    LooksUp service now request id
  | played {id : String} {resume : Bool} (asked : request.action? = some .start)
      (isRead : readEntity (StartRequest.ofValue now) request.body = .ok ⟨none, some id, resume⟩) :
    LooksUp service now request id
  | resumed {start : StartRequest} {project : Project} (asked : request.action? = some .start)
      (isRead : readEntity (StartRequest.ofValue now) request.body = .ok start)
      (resumes : start.resume = true) (found : service.requestedProject now start = .ok project) :
    LooksUp service now request project.id

/-- The store is heard: there is no project, what is kept cannot be used, or the request goes on
with what was looked up. -/
inductive PassesOn (service : Service) (now : Moment) (request : Request) :
    Response × Service → Prop
  | missing {id : String} (looksUp : LooksUp service now request id)
      (absent : service.archive.loadProject now id = .error (.noProject id)) :
    PassesOn service now request
      (.sentence 404 (Archive.Fault.noProject id).message, service)
  | unusable {id key : String} {cause : Archive.Cause} (looksUp : LooksUp service now request id)
      (said : service.archive.loadProject now id = .error (.failed key cause) ∨
        service.archive.loadGame id = .error (.failed key cause)) :
    PassesOn service now request
      (.sentence 500 (Archive.Fault.failed key cause).message, service)
  | shown {id : String} {project : Project} {value : Value}
      (asked : request.action? = some (.getProject id))
      (found : service.archive.loadProject now id = .ok project)
      (written : project.write = .ok value) :
    PassesOn service now request (.document 200 value, service)
  | unwritable {id : String} {project : Project} {fault : Schema.WriteFault}
      (asked : request.action? = some (.getProject id))
      (found : service.archive.loadProject now id = .ok project)
      (unwritten : project.write = .error fault) :
    PassesOn service now request (.broken, service)
  | forgotten {id : String} {archive : Archive}
      (asked : request.action? = some (.deleteProject id))
      (deleted : service.archive.deleteProject id = (.ok (), archive)) :
    PassesOn service now request (.nothing, { service with archive := archive })
  | begun {start : StartRequest} {project : Project} {state : Option PlayerState}
      (asked : request.action? = some .start)
      (isRead : readEntity (StartRequest.ofValue now) request.body = .ok start)
      (found : service.requestedProject now start = .ok project)
      (goesOn : service.requestedState start project = .ok state) :
    PassesOn service now request (service.begin project state)

section Answers

variable {service : Service} {now : Moment} {request : Request} {id : String}

theorem answer_start (asked : request.action? = some .start) {start : StartRequest}
    (isRead : readEntity (StartRequest.ofValue now) request.body = .ok start) :
    service.answer now request = service.start now start := by
  rw [answer_of_action asked, perform, withEntity, isRead]

/-- A refused id breaks the request off, and nothing is changed. -/
theorem LooksUp.breaksOff (looksUp : LooksUp service now request id)
    (separated : Archive.HasSeparator id) :
    service.answer now request = (.broken, service) := by
  cases looksUp with
  | shown asked =>
    rw [answer_of_action asked, perform, getProject,
      Archive.loadProject_refused separated]
    rfl
  | forgotten asked =>
    rw [answer_of_action asked, perform, deleteProject,
      Archive.deleteProject_refused separated]
    rfl
  | played asked isRead =>
    have refused := Archive.loadProject_refused separated service.archive now
    simp only [answer_start asked isRead, start, requestedProject, refused, Except.mapError,
      archiveFault]
  | resumed asked isRead resumes found =>
    have refused := Archive.loadGame_refused separated service.archive
    simp only [answer_start asked isRead, start, found, requestedState, resumes, refused, if_true,
      Except.mapError, archiveFault]

section Accepted

variable (inMemory : service.InMemory)
  (accepted : ∀ id, LooksUp service now request id → ¬Archive.HasSeparator id)
include inMemory accepted

theorem passesOn_shown (asked : request.action? = some (.getProject id)) :
    PassesOn service now request (service.answer now request) := by
  rw [answer_of_action asked, perform, getProject]
  cases loaded : service.archive.loadProject now id with
  | ok project =>
    cases written : project.write with
    | ok value =>
      simp only [written]
      exact .shown asked loaded written
    | error fault =>
      simp only [written]
      exact .unwritable asked loaded written
  | error fault =>
    have looksUp : LooksUp service now request id := .shown asked
    rcases Archive.InMemory.fault_of_loadProject inMemory (accepted id looksUp) loaded with
      rfl | ⟨key, cause, rfl⟩
    · exact .missing looksUp loaded
    · exact .unusable looksUp (.inl loaded)

theorem passesOn_forgotten (asked : request.action? = some (.deleteProject id)) :
    PassesOn service now request (service.answer now request) := by
  have done := Archive.InMemory.deleteProject_ok inMemory (accepted id (.forgotten asked))
  rw [answer_of_action asked, perform, deleteProject]
  cases deleted : service.archive.deleteProject id with
  | mk result archive =>
    rw [deleted] at done
    obtain rfl : result = .ok () := done
    exact .forgotten asked deleted

theorem passesOn_found (asked : request.action? = some .start) {start : StartRequest}
    (isRead : readEntity (StartRequest.ofValue now) request.body = .ok start) {project : Project}
    (found : service.requestedProject now start = .ok project) :
    PassesOn service now request (service.answer now request) := by
  simp only [answer_start asked isRead, Service.start, found]
  cases goesOn : service.requestedState start project with
  | ok state => exact .begun asked isRead found goesOn
  | error response =>
    cases resumes : start.resume with
    | false => simp [requestedState, resumes] at goesOn
    | true =>
      cases loaded : service.archive.loadGame project.id with
      | ok state => simp [requestedState, resumes, loaded, Except.mapError] at goesOn
      | error fault =>
        have looksUp : LooksUp service now request project.id :=
          .resumed asked isRead resumes found
        obtain ⟨key, cause, rfl⟩ :=
          Archive.InMemory.fault_of_loadGame inMemory (accepted _ looksUp) loaded
        simp only [requestedState, resumes, loaded, if_true, Except.mapError,
          Except.error.injEq] at goesOn
        subst goesOn
        exact .unusable looksUp (.inr loaded)

theorem passesOn_played (asked : request.action? = some .start) {resume : Bool}
    (isRead : readEntity (StartRequest.ofValue now) request.body = .ok ⟨none, some id, resume⟩) :
    PassesOn service now request (service.answer now request) := by
  cases loaded : service.archive.loadProject now id with
  | ok project =>
    have found : service.requestedProject now ⟨none, some id, resume⟩ = .ok project := by
      simp only [requestedProject, loaded, Except.mapError]
    exact passesOn_found inMemory accepted asked isRead found
  | error fault =>
    simp only [answer_start asked isRead, start, requestedProject, loaded, Except.mapError]
    have looksUp : LooksUp service now request id := .played asked isRead
    rcases Archive.InMemory.fault_of_loadProject inMemory (accepted id looksUp) loaded with
      rfl | ⟨key, cause, rfl⟩
    · exact .missing looksUp loaded
    · exact .unusable looksUp (.inl loaded)

/-- What the store says of ids that it does not refuse is passed on. -/
theorem LooksUp.passesOn (looksUp : LooksUp service now request id) :
    PassesOn service now request (service.answer now request) := by
  cases looksUp with
  | shown asked => exact passesOn_shown inMemory accepted asked
  | forgotten asked => exact passesOn_forgotten inMemory accepted asked
  | played asked isRead => exact passesOn_played inMemory accepted asked isRead
  | resumed asked isRead _ found => exact passesOn_found inMemory accepted asked isRead found

end Accepted

end Answers

/-- A sentence without halves is sent as it is. -/
theorem sentence_of_whole (status : Nat) {text : String} (whole : Text.holdsHalf text = false) :
    Response.sentence status text =
      ⟨status, .document (.object [("detail", .text text)])⟩ := by
  have wholeName : Text.holdsHalf "detail" = false := by decide +kernel
  have noHalf : Value.holdsHalf (.object [("detail", .text text)]) = false := by
    simp only [Value.holdsHalf, Value.anyPart, Value.anyMember, wholeName, whole, Bool.or_self]
  simp only [Response.sentence, Response.detail, Response.document, noHalf, Bool.false_eq_true,
    if_false, Value.finiteOnly, Value.finiteMembers]

/-- The reason for which an id is refused has no halves. -/
theorem pathLike_whole (given : String) :
    Text.holdsHalf (Archive.KeyFault.pathLike given).message = false := by
  have before : Text.Whole "key ".toList := by decide +kernel
  have quoted := (Text.holdsHalf_eq_false_iff _).mp (Text.quoted_whole given)
  have behind : Text.Whole " must not contain path separators or start with '.'".toList := by
    decide +kernel
  rw [Text.holdsHalf_eq_false_iff, Archive.KeyFault.message, String.toList_append,
    String.toList_append]
  exact Text.whole_append (Text.whole_append before quoted) behind

theorem putProject_of_error {service : Service} {now : Moment} {project : Project}
    {fault : Archive.Fault} {archive : Archive}
    (failed : service.archive.saveProject now project = (.error fault, archive)) :
    service.putProject now project.id project =
      (.sentence (if fault.isRefusal then 400 else 500) fault.message,
        { service with archive := archive }) := by
  simp only [putProject, ne_eq, not_true_eq_false, if_false, failed]

/-- A project with a refused id is answered with the reason, and nothing is changed. -/
theorem answer_putProject_refused {service : Service} {now : Moment} {request : Request}
    {project : Project} {value : Value}
    (asked : request.action? = some (.putProject project.id))
    (isRead : readEntity (Project.ofValue now) request.body = .ok project)
    (written : project.write = .ok value) (separated : Archive.HasSeparator project.id) :
    service.answer now request =
      (.sentence 400 (Archive.KeyFault.pathLike (Archive.projectMark ++ project.id)).message,
        service) := by
  have refused := Archive.saveProject_refused separated written service.archive now
  rw [answer_of_action asked, perform, withEntity, isRead]
  simp only [putProject_of_error refused, Archive.Fault.isRefusal, if_true, Archive.message_key]

/-- Whatever requests came before to a service that keeps its documents in memory: where an id with
a separator is looked up, the request breaks off, and the service is left as it was. Where no such
id is looked up, what the store says is passed on. Where a project with such an id is to be kept,
the request is answered with the reason. -/
theorem refused_ids_break_off {service : Service} (inMemory : service.InMemory)
    (earlier : List Arrival) (now : Moment) (request : Request) :
    let reached := service.after earlier
    (∀ id, LooksUp reached now request id → Archive.HasSeparator id →
      reached.answer now request = (.broken, reached)) ∧
    (∀ id, LooksUp reached now request id →
      (∀ other, LooksUp reached now request other → ¬Archive.HasSeparator other) →
      PassesOn reached now request (reached.answer now request)) ∧
    ∀ project value, request.action? = some (.putProject project.id) →
      readEntity (Project.ofValue now) request.body = .ok project → project.write = .ok value →
      Archive.HasSeparator project.id →
      reached.answer now request =
        (⟨400, .document (.object [("detail",
          .text (Archive.KeyFault.pathLike (Archive.projectMark ++ project.id)).message)])⟩,
          reached) := by
  intro reached
  refine ⟨fun id looksUp separated => looksUp.breaksOff separated,
    fun id looksUp accepted => looksUp.passesOn (after_inMemory inMemory earlier) accepted, ?_⟩
  intro project value asked isRead written separated
  rw [answer_putProject_refused asked isRead written separated,
    sentence_of_whole 400 (pathLike_whole _)]

/-- A project with a backslash in its id. -/
def backslashBody : String :=
  "\x7b\"id\":\"a\\\\b\",\"name\":\"A\",\"scenes\":[\x7b\"id\":\"room\",\"title\":\"Room\"\x7d]\x7d"

theorem refused_ids_break_off_backslash :
    let put := arriving "PUT" "/projects/a%5Cb" backslashBody
    let reached := memoryService.after [put]
    let get := arriving "GET" "/projects/a%5Cb" ""
    let forget := arriving "DELETE" "/projects/a%5Cb" ""
    let play := arriving "POST" "/playtest" "\x7b\"projectId\":\"a\\\\b\"\x7d"
    let forgetOther := arriving "DELETE" "/projects/p" ""
    memoryService.InMemory ∧ Archive.HasSeparator "a\\b" ∧
      (memoryService.answer put.moment put.request).1.status = 400 ∧
      reached.answer get.moment get.request = (.broken, reached) ∧
      reached.answer forget.moment forget.request = (.broken, reached) ∧
      reached.answer play.moment play.request = (.broken, reached) ∧
      PassesOn reached forgetOther.moment forgetOther.request
        (reached.answer forgetOther.moment forgetOther.request) := by
  intro put reached get forget play forgetOther
  have inMemory : memoryService.InMemory := ⟨[], rfl⟩
  have separated : Archive.HasSeparator "a\\b" := by decide +kernel
  have looked := refused_ids_break_off inMemory [put] lampStory.created
  refine ⟨inMemory, separated, ?_, ?_, ?_, ?_, ?_⟩
  · have brought : ((readEntity (Project.ofValue put.moment) put.request.body).toOption.any
        fun project => project.id == "a\\b" && project.writeFault?.isNone) = true := by
      decide +kernel
    cases isRead : readEntity (Project.ofValue put.moment) put.request.body with
    | error fault =>
      rw [isRead] at brought
      cases brought
    | ok project =>
      simp only [isRead, Except.toOption, Option.any_some, Bool.and_eq_true, beq_iff_eq,
        Option.isNone_iff_eq_none] at brought
      obtain ⟨isId, writable⟩ := brought
      have asked : put.request.action? = some (.putProject project.id) := by
        rw [isId]
        decide +kernel
      have written : project.write = .ok project.toValue := by rw [Project.write, writable]
      have answered := (refused_ids_break_off inMemory [] put.moment put.request).2.2 project
        project.toValue asked isRead written (isId ▸ separated)
      exact congrArg (·.1.status) answered
  · exact (looked get.request).1 _ (.shown (by decide +kernel)) separated
  · exact (looked forget.request).1 _ (.forgotten (by decide +kernel)) separated
  · have asked : ((readEntity (StartRequest.ofValue play.moment) play.request.body).toOption.any
        fun start => start.project.isNone && start.projectId == some "a\\b") = true := by
      decide +kernel
    cases isRead : readEntity (StartRequest.ofValue play.moment) play.request.body with
    | error fault =>
      rw [isRead] at asked
      cases asked
    | ok start =>
      obtain ⟨project, projectId, resume⟩ := start
      simp only [isRead, Except.toOption, Option.any_some, Bool.and_eq_true,
        Option.isNone_iff_eq_none, beq_iff_eq] at asked
      obtain ⟨rfl, rfl⟩ := asked
      exact (looked play.request).1 _ (.played (by decide +kernel) isRead) separated
  · have asked : forgetOther.request.action? = some (.deleteProject "p") := by decide +kernel
    refine (looked forgetOther.request).2.1 _ (.forgotten asked) fun other looksUp => ?_
    cases looksUp with
    | forgotten same =>
      cases asked.symm.trans same
      decide +kernel
    | shown same | played same | resumed same => cases asked.symm.trans same

/-- The project is put into the store, looked up there, and played. -/
def backslashRequests : List Arrival :=
  [arriving "PUT" "/projects/a%5Cb" backslashBody,
    arriving "GET" "/projects/a%5Cb" "",
    arriving "DELETE" "/projects/a%5Cb" "",
    arriving "POST" "/playtest" "\x7b\"projectId\":\"a\\\\b\"\x7d",
    arriving "POST" "/playtest" ("\x7b\"project\":" ++ backslashBody ++ ",\"resume\":true\x7d")]

/-- The refused id is answered with the reason once, and breaks off every other request. -/
theorem backslash_id_breaks_off :
    (memoryService.exchanges backslashRequests).map
        (fun exchanged => (exchanged.2.status, exchanged.2.content.mediaType?)) =
      (400, some "application/json") :: List.replicate 4 (500, some "text/plain; charset=utf-8") := by
  decide +kernel

end Service

end Gamebook
