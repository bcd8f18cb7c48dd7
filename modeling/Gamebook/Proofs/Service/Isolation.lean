import Gamebook.Proofs.Play.Session
import Gamebook.Proofs.Service.Session
import Gamebook.Proofs.Story.Reading
import Gamebook.Proofs.Story.Schema
import Gamebook.Proofs.Text.Half
import Mathlib.Data.List.Forall2

/-!
# Sessions are isolated

A session that begins from a project in the request is answered as if it were alone: whatever
other requests the service gets before it, after it and between its own, the responses about it
are those of a service that gets its requests only, but for the id that it is given. Nothing is
asked of the other requests; they may keep and delete projects, save games, and begin and finish
other sessions. The moments at which the requests arrive may differ too.
-/

namespace Gamebook

/-! ## A session under another id -/

/-- The session under another id, of the project with other moments. -/
def Session.retold (session : Session) (id : String) (created updated : Moment) : Session :=
  { session with id := id, project := session.project.dated created updated }

namespace Session

variable (session : Session) (id : String) (created updated : Moment)

theorem retold_choose (choiceId : String) :
    (session.retold id created updated).choose choiceId =
      (session.choose choiceId).map fun (outcome, next) =>
        (outcome, next.retold id created updated) := by
  have sameSelect : (session.retold id created updated).project.select
      (session.retold id created updated).state choiceId =
      session.project.select session.state choiceId := rfl
  rw [choose, choose, sameSelect]
  cases session.project.select session.state choiceId <;> rfl

theorem retold_restart :
    (session.retold id created updated).restart =
      session.restart.map (·.retold id created updated) := by
  have sameReset : (session.retold id created updated).project.reset = session.project.reset := rfl
  rw [restart, restart, sameReset]
  cases session.project.reset <;> rfl

end Session

namespace Service

/-- Two responses are the same, but for the id of a session. -/
inductive Alike (id other : String) : Response → Response → Prop
  | same (response : Response) : Alike id other response response
  | shown (status : Nat) (members : List (String × Value)) :
      Alike id other ⟨status, .document (.object (("sessionId", .text id) :: members))⟩
        ⟨status, .document (.object (("sessionId", .text other) :: members))⟩
  | missing : Alike id other (noSession id) (noSession other)

/-- Documents that begin with the id of a session are sent alike. -/
theorem alike_document {id other : String} (whole : Text.holdsHalf id = false)
    (otherWhole : Text.holdsHalf other = false) (status : Nat) (members : List (String × Value)) :
    Alike id other (.document status (.object (("sessionId", .text id) :: members)))
      (.document status (.object (("sessionId", .text other) :: members))) := by
  have sameHalves : (Value.object (("sessionId", .text other) :: members)).holdsHalf =
      (Value.object (("sessionId", .text id) :: members)).holdsHalf := by
    simp [Value.holdsHalf, Value.anyPart, Value.anyMember, whole, otherWhole]
  unfold Response.document
  rw [sameHalves]
  split
  · exact .same _
  · exact .shown status _

/-- A session is shown alike under two ids. -/
theorem alike_view {session : Session} {id other : String} (named : session.id = id)
    (whole : Text.holdsHalf id = false) (otherWhole : Text.holdsHalf other = false)
    (created updated : Moment) (status : Nat) (refusal : Option String) :
    Alike id other (view status session refusal)
      (view status (session.retold other created updated) refusal) := by
  subst named
  have sameChoices : shownChoices (session.retold other created updated) = shownChoices session :=
    rfl
  unfold view
  rw [sameChoices]
  split
  · exact alike_document whole otherWhole status _
  · exact .same _

/-- What is kept under two ids is the same, but for the id and the moments of the project. -/
inductive Corresponds (id other : String) : Option Session → Option Session → Prop
  | missing : Corresponds id other none none
  | held {session : Session} {created updated : Moment} (named : session.id = id) :
      Corresponds id other (some session) (some (session.retold other created updated))

section Moves

variable {id other : String} (whole : Text.holdsHalf id = false)
  (otherWhole : Text.holdsHalf other = false)

include whole otherWhole

/-- A move is answered alike in sessions that correspond, and they correspond after it. -/
theorem Corresponds.make {kept otherKept : Option Session}
    (corresponds : Corresponds id other kept otherKept) (move : Move) :
    Alike id other (move.make id kept).1 (move.make other otherKept).1 ∧
      Corresponds id other (move.make id kept).2 (move.make other otherKept).2 := by
  cases corresponds with
  | missing =>
    cases move with
    | finish => exact ⟨.same _, .missing⟩
    | look | choose _ | restart =>
      simp only [Move.make, Move.inNone]
      exact ⟨.missing, .missing⟩
  | @held session created updated named =>
    subst named
    cases move with
    | look => exact ⟨alike_view rfl whole otherWhole _ _ _ _, .held rfl⟩
    | choose choiceId =>
      cases chosen : session.choose choiceId with
      | error fault =>
        simp only [Move.make, Move.makeIn, session.retold_choose, chosen, Except.map]
        exact ⟨.same _, .held rfl⟩
      | ok result =>
        obtain ⟨outcome, next⟩ := result
        simp only [Move.make, Move.makeIn, session.retold_choose, chosen, Except.map]
        have sameId : next.id = session.id := by
          obtain ⟨-, rfl⟩ := (session.choose_ok_iff next choiceId outcome).mp chosen
          rfl
        exact ⟨alike_view sameId whole otherWhole _ _ _ _, .held sameId⟩
    | restart =>
      cases restarted : session.restart with
      | error issue =>
        simp only [Move.make, Move.makeIn, session.retold_restart, restarted, Except.map]
        exact ⟨.same _, .held rfl⟩
      | ok next =>
        simp only [Move.make, Move.makeIn, session.retold_restart, restarted, Except.map]
        have sameId : next.id = session.id := by
          obtain ⟨state, -, rfl⟩ := (session.restart_ok_iff next).mp restarted
          rfl
        exact ⟨alike_view sameId whole otherWhole _ _ _ _, .held sameId⟩
    | finish => exact ⟨.same _, .missing⟩

/-- Moves one after the other are answered alike in sessions that correspond. -/
theorem Corresponds.makeAll {kept otherKept : Option Session}
    (corresponds : Corresponds id other kept otherKept) (moves : List Move) :
    List.Forall₂ (Alike id other) (Move.makeAll id kept moves)
      (Move.makeAll other otherKept moves) := by
  induction moves generalizing kept otherKept with
  | nil => exact .nil
  | cons move rest inductionHypothesis =>
    obtain ⟨alike, still⟩ := corresponds.make whole otherWhole move
    exact .cons alike (inductionHypothesis still)

end Moves

/-! ## Beginning a session -/

/-- The request begins a session of a project that it brings. -/
def Arrival.BringsProject (arrival : Arrival) : Prop :=
  arrival.request.action? = some .start ∧
    ∃ project, readEntity (StartRequest.ofValue arrival.moment) arrival.request.body =
      .ok ⟨some project, none, false⟩

theorem readProject?_dated {now : Moment} {value : Value} {project : Project}
    (read : readProject? now value = .ok (some project)) (later : Moment) :
    ∃ created updated, readProject? later value = .ok (some (project.dated created updated)) := by
  unfold readProject? at read ⊢
  split at read
  next => exact nomatch read
  next notNull =>
    cases entity : Project.ofValue now value with
    | error problems => exact nomatch (entity ▸ read)
    | ok found =>
      obtain ⟨created, updated, dated⟩ := Project.ofValue_dated entity later
      rw [entity] at read
      obtain rfl := Option.some.inj (Except.ok.inj read)
      refine ⟨created, updated, ?_⟩
      simp only [dated]
      rfl

/-- At another moment a request brings the same project, but for its moments. -/
theorem StartRequest.ofValue_dated {now : Moment} {value : Value} {project : Project}
    (read : StartRequest.ofValue now value = .ok ⟨some project, none, false⟩) (later : Moment) :
    ∃ created updated, StartRequest.ofValue later value =
      .ok ⟨some (project.dated created updated), none, false⟩ := by
  obtain ⟨members, isObject, read⟩ := Schema.record_ok_iff.mp read
  simp only [Schema.Checked.and_ok_iff, Schema.Checked.start, Except.ok.injEq] at read
  obtain ⟨_, resume, ⟨_, projectId, ⟨_, brought, rfl, isBrought, rfl⟩, isProjectId, rfl⟩,
    isResume, same⟩ := read
  cases same
  obtain ⟨name, part, isFound, read⟩ := Schema.optional_some_iff.mp isBrought
  obtain ⟨created, updated, dated⟩ := readProject?_dated read later
  have nowBrought := Schema.optional_some_iff.mpr ⟨name, part, isFound, dated⟩
  refine ⟨created, updated, Schema.record_ok_iff.mpr ⟨members, isObject, ?_⟩⟩
  simp only [nowBrought, isProjectId, isResume]
  rfl

theorem readEntity_ok_iff {α : Type} {read : Value → Schema.Checked α} {body : String}
    {entity : α} :
    readEntity read body = .ok entity ↔
      ∃ value, readBody body = .ok value ∧ read value = .ok entity := by
  unfold readEntity
  simp only [Except.bind_ok_iff, Except.mapError_ok_iff]

/-- A request that brings a project begins a session of it, and at any other moment one of the
same project, but for its moments. -/
theorem Arrival.BringsProject.begins {arrival : Arrival} (brings : arrival.BringsProject) :
    ∃ project : Project,
      (∀ service : Service, service.answer arrival.moment arrival.request =
        service.begin project none) ∧
      ∀ later, ∃ created updated, ∀ service : Service, service.answer later arrival.request =
        service.begin (project.dated created updated) none := by
  obtain ⟨asked, project, isRead⟩ := brings
  obtain ⟨value, isBody, read⟩ := readEntity_ok_iff.mp isRead
  refine ⟨project, fun service => ?_, fun later => ?_⟩
  · rw [answer_of_action asked, perform, withEntity, isRead]
    rfl
  · obtain ⟨created, updated, dated⟩ := StartRequest.ofValue_dated read later
    refine ⟨created, updated, fun service => ?_⟩
    rw [answer_of_action asked, perform, withEntity, readEntity_ok_iff.mpr ⟨value, isBody, dated⟩]
    rfl

/-- The id of the next session. -/
def nextId (service : Service) : String := service.idOf (service.begun + 1)

theorem notGiven_begin {service : Service} (distinct : Function.Injective service.idOf)
    (project : Project) : (service.begin project none).2.NotGiven service.nextId := by
  have uses : UsesId service (service.begin project none).2 := begin_usesId project none
  intro number later
  rw [uses.begun] at later
  rw [uses.ids]
  exact distinct.ne (Nat.ne_of_gt later)

/-- Sessions of a project begin alike under two ids that nothing is kept under, and what is kept
under them then corresponds. -/
theorem begin_alike {service solo : Service} (clear : service.Clear) (soloClear : solo.Clear)
    (whole : Text.holdsHalf service.nextId = false)
    (soloWhole : Text.holdsHalf solo.nextId = false) (project : Project)
    (created updated : Moment) :
    Alike service.nextId solo.nextId (service.begin project none).1
        (solo.begin (project.dated created updated) none).1 ∧
      Corresponds service.nextId solo.nextId
        ((service.begin project none).2.sessions.get? service.nextId)
        ((solo.begin (project.dated created updated) none).2.sessions.get? solo.nextId) := by
  have sameReset : (project.dated created updated).reset = project.reset := rfl
  have unheld := clear _ (Nat.lt_succ_self _)
  have soloUnheld := soloClear _ (Nat.lt_succ_self _)
  simp only [begin, Session.start, sameReset]
  cases project.reset with
  | error issue =>
    simp only [Except.map, nextId, unheld, soloUnheld]
    exact ⟨.same _, .missing⟩
  | ok state =>
    let session : Session := { id := service.nextId, project := project, state := state }
    simp only [Except.map, nextId, Entries.get?_put_self]
    exact ⟨@alike_view session _ _ rfl whole soloWhole created updated 201 none,
      @Corresponds.held _ _ session created updated rfl⟩

/-! ## A session among others and alone -/

/-- Requests that are all about one session make their moves there, and every response is about
it. -/
theorem own_requests {service : Service} {id : String} {own : List Arrival} {moves : List Move}
    (onlyOwn : own.map (·.request.move?) = moves.map fun move => some (id, move)) :
    movesIn id own = moves ∧
      responsesAbout id (service.exchanges own) = (service.exchanges own).map (·.2) := by
  induction own generalizing service moves with
  | nil =>
    have none : moves = [] := by simpa using onlyOwn.symm
    exact ⟨none ▸ rfl, rfl⟩
  | cons arrival rest inductionHypothesis =>
    cases moves with
    | nil => exact nomatch onlyOwn
    | cons move others =>
      obtain ⟨isMove, restOwn⟩ := List.cons.inj onlyOwn
      have here := moveIn?_eq_some_iff.mpr isMove
      obtain ⟨sameMoves, allAbout⟩ := inductionHypothesis restOwn
      constructor
      · rw [movesIn_cons, here, sameMoves]
        rfl
      · rw [exchanges, responsesAbout_of_move here, List.map_cons, allAbout]

/-- The responses to a request that begins a session and to the requests after it that are about
the session. -/
def responsesFrom (id : String) : List (Request × Response) → List Response
  | [] => []
  | (_, response) :: rest => response :: responsesAbout id rest

/-- Whatever requests come before a request that begins a session of a project that it brings,
and whatever requests come after it, the responses that concern the session are those of a
service that gets the request to begin and the same moves in the session alone, but for the id
of the session. -/
theorem sessions_isolated {service solo : Service} (empty : service.sessions = [])
    (soloEmpty : solo.sessions = []) (distinct : Function.Injective service.idOf)
    (soloDistinct : Function.Injective solo.idOf)
    (whole : ∀ number, Text.holdsHalf (service.idOf number) = false)
    (soloWhole : ∀ number, Text.holdsHalf (solo.idOf number) = false)
    (before : List Arrival) {create soloCreate : Arrival} (brings : create.BringsProject)
    (sameRequest : soloCreate.request = create.request) {id other : String}
    (isId : (service.after before).nextId = id) (isOther : solo.nextId = other)
    {after own : List Arrival}
    (onlyOwn : own.map (·.request.move?) = (movesIn id after).map fun move => some (other, move)) :
    List.Forall₂ (Alike id other)
      (responsesFrom id ((service.after before).exchanges (create :: after)))
      ((solo.exchanges (soloCreate :: own)).map (·.2)) := by
  subst isId isOther
  have clear := (clear_of_empty empty).after distinct before
  have soloClear := clear_of_empty soloEmpty
  have reachedDistinct : Function.Injective (service.after before).idOf := by
    rw [after_idOf]
    exact distinct
  have nextWhole : Text.holdsHalf (service.after before).nextId = false := by
    rw [nextId, after_idOf]
    exact whole _
  obtain ⟨project, begins, laterBegins⟩ := brings.begins
  obtain ⟨created, updated, soloBegins⟩ := laterBegins soloCreate.moment
  obtain ⟨alike, corresponds⟩ :=
    begin_alike clear soloClear nextWhole (soloWhole _) project created updated
  have responses := (notGiven_begin reachedDistinct project).responses after
  have soloResponses :=
    (notGiven_begin soloDistinct (project.dated created updated)).responses own
  obtain ⟨sameMoves, allAbout⟩ := own_requests onlyOwn
  rw [exchanges, exchanges, begins, sameRequest, soloBegins, responsesFrom, List.map_cons,
    responses, ← allAbout, soloResponses, sameMoves]
  exact .cons alike (corresponds.makeAll nextWhole (soloWhole _) (movesIn _ after))

/-! ## Numbered ids -/

theorem toList_numberedId (number : Nat) :
    (numberedId number).toList = "session-".toList ++ Nat.toDigits 10 number := by
  rw [numberedId, String.toList_append, Nat.toList_repr]

/-- Numbered ids differ. -/
theorem numberedId_injective : Function.Injective numberedId := by
  intro number other same
  have digits : Nat.toDigits 10 number = Nat.toDigits 10 other := by
    have characters := congrArg String.toList same
    rw [toList_numberedId, toList_numberedId] at characters
    exact List.append_cancel_left characters
  rw [← @Nat.ofDigitChars_ten_toDigits number, digits, Nat.ofDigitChars_ten_toDigits]

theorem numberedId_whole (number : Nat) : Text.holdsHalf (numberedId number) = false := by
  rw [Text.holdsHalf_eq_false_iff, toList_numberedId]
  refine Text.whole_append (by decide) (Text.whole_digits fun c member => ?_)
  exact Nat.isDigit_of_mem_toDigits (by decide) (by decide) member

/-! ## Two players -/

/-- A service that keeps everything in memory. -/
def memoryService : Service := { settings := {}, archive := .memory [] }

/-- A request that arrives at the first moment of the lamp story. -/
def arriving (method target body : String) : Arrival :=
  ⟨lampStory.created, method, target, body⟩

/-- A request that brings a project with one room and one way out. -/
def roomBody : String :=
  "\x7b\"project\":\x7b\"id\":\"p\",\"name\":\"P\",\"scenes\":[\x7b\"id\":\"room\"," ++
    "\"title\":\"Room\",\"choices\":[\x7b\"id\":\"out\",\"text\":\"Out\"\x7d]\x7d]\x7d\x7d"

/-- A player begins. -/
def beginning : Arrival := arriving "POST" "/playtest" roomBody

/-- While a second player plays, the first one goes on, puts a project into the store and takes it
out again. -/
def bothPlayers : List Arrival :=
  [arriving "POST" "/playtest/session-1/choices/out" "",
    arriving "POST" "/playtest/session-2/choices/out" "",
    arriving "PUT" "/projects/p" "\x7b\"id\":\"p\",\"name\":\"P\"\x7d",
    arriving "DELETE" "/projects/p" "",
    arriving "DELETE" "/playtest/session-2" "",
    arriving "GET" "/playtest/session-2" ""]

/-- The moves of the second player alone. -/
def secondAlone : List Arrival :=
  [arriving "POST" "/playtest/session-1/choices/out" "",
    arriving "DELETE" "/playtest/session-1" "",
    arriving "GET" "/playtest/session-1" ""]

theorem beginning_brings : beginning.BringsProject := by
  have brought : ((readEntity (StartRequest.ofValue beginning.moment)
      beginning.request.body).toOption.any fun request =>
        request.project.isSome && request.projectId.isNone && !request.resume) = true := by
    decide +kernel
  refine ⟨by decide +kernel, ?_⟩
  cases isRead : readEntity (StartRequest.ofValue beginning.moment) beginning.request.body with
  | error fault => exact nomatch (isRead ▸ brought)
  | ok request =>
    obtain ⟨project, projectId, resume⟩ := request
    simp only [isRead, Except.toOption, Option.any_some, Bool.and_eq_true, Option.isSome_iff_exists,
      Option.isNone_iff_eq_none, Bool.not_eq_true'] at brought
    obtain ⟨⟨⟨project, rfl⟩, rfl⟩, rfl⟩ := brought
    exact ⟨project, rfl⟩

theorem second_player_isolated :
    List.Forall₂ (Alike "session-2" "session-1")
      (responsesFrom "session-2"
        ((memoryService.after [beginning]).exchanges (beginning :: bothPlayers)))
      ((memoryService.exchanges (beginning :: secondAlone)).map (·.2)) ∧
    (memoryService.exchanges (beginning :: secondAlone)).map (·.2.status) =
      [201, 200, 204, 404] := by
  have empty : memoryService.sessions = [] := rfl
  have distinct : Function.Injective memoryService.idOf := numberedId_injective
  have whole : ∀ number, Text.holdsHalf (memoryService.idOf number) = false := numberedId_whole
  have secondId : (memoryService.after [beginning]).nextId = "session-2" := by decide +kernel
  have aloneId : memoryService.nextId = "session-1" := by decide +kernel
  have onlyOwn : secondAlone.map (·.request.move?) =
      (movesIn "session-2" bothPlayers).map fun move => some ("session-1", move) := by
    decide +kernel
  constructor
  · exact sessions_isolated empty empty distinct distinct whole whole [beginning]
      beginning_brings rfl secondId aloneId onlyOwn
  · decide +kernel

end Service

end Gamebook
