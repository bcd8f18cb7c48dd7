import Gamebook.Proofs.Entries
import Gamebook.Service

/-!
# What requests do to sessions

Of what the service keeps under ids of sessions, a request changes at most what is kept under
one id: a request about a session that one, and a request that begins one what is kept under the
next id. The response to a request about a session depends on nothing but that session. So the
responses about one session, whatever requests come between them, are those that the session
gives by itself.
-/

namespace Gamebook.Service

/-! ## Moves -/

/-- What a request does to the session it is about. -/
inductive Move
  | look
  | choose (choiceId : String)
  | restart
  | finish
  deriving DecidableEq, Repr

/-- The session that an action is about, and what it does to it. -/
def Action.move? : Action → Option (String × Move)
  | .get id => some (id, .look)
  | .choose id choiceId => some (id, .choose choiceId)
  | .restart id => some (id, .restart)
  | .finish id => some (id, .finish)
  | _ => none

/-- The action that a request asks for. -/
def Request.action? (request : Request) : Option Action :=
  (Endpoint.ofTarget? request.target).bind (·.action? request.method)

/-- The session that a request is about, and what it does to it. -/
def Request.move? (request : Request) : Option (String × Move) :=
  request.action?.bind Action.move?

namespace Move

/-- The response of a session to a move, and the session after it. -/
def makeIn (session : Session) : Move → Response × Option Session
  | .look => (view 200 session none, some session)
  | .choose choiceId =>
    match session.choose choiceId with
    | .error _ => (.broken, some session)
    | .ok (outcome, next) =>
      let refusal := match outcome with
        | .accepted _ _ => none
        | .rejected _ refusal _ => some refusal.text
      (view 200 next refusal, some next)
  | .restart =>
    match session.restart with
    | .error _ => (.broken, some session)
    | .ok next => (view 200 next none, some next)
  | .finish => (.nothing, none)

/-- The response to a move in a session that does not exist. -/
def inNone (id : String) : Move → Response
  | .look | .choose _ | .restart => noSession id
  | .finish => .nothing

/-- The response to a move, and what is kept under the id after it. -/
def make (id : String) (held : Option Session) (move : Move) : Response × Option Session :=
  match held with
  | some session => move.makeIn session
  | none => (move.inNone id, none)

/-- The responses to moves one after the other. -/
def makeAll (id : String) (held : Option Session) : List Move → List Response
  | [] => []
  | move :: rest => (move.make id held).1 :: makeAll id (move.make id held).2 rest

end Move

/-! ## What a request changes -/

/-- The sessions are those of before. -/
structure KeepsSessions (service next : Service) : Prop where
  ids : next.idOf = service.idOf
  begun : next.begun = service.begun
  sessions : next.sessions = service.sessions

/-- The next id is used up, perhaps for a new session, and under the others there is what was
there before. -/
structure UsesId (service next : Service) : Prop where
  ids : next.idOf = service.idOf
  begun : next.begun = service.begun + 1
  others : ∀ id, id ≠ service.idOf (service.begun + 1) →
    next.sessions.get? id = service.sessions.get? id

/-- The sessions are those of before, but for one that may begin. -/
def AtMostBegins (service next : Service) : Prop :=
  KeepsSessions service next ∨ UsesId service next

/-- A move is answered and made under an id, and under the others there is what was there
before. -/
structure Makes (service : Service) (id : String) (move : Move) (answer : Response × Service) :
    Prop where
  ids : answer.2.idOf = service.idOf
  begun : answer.2.begun = service.begun
  response : answer.1 = (move.make id (service.sessions.get? id)).1
  held : answer.2.sessions.get? id = (move.make id (service.sessions.get? id)).2
  others : ∀ other, other ≠ id → answer.2.sessions.get? other = service.sessions.get? other

theorem KeepsSessions.refl (service : Service) : KeepsSessions service service := ⟨rfl, rfl, rfl⟩

section Actions

variable {service : Service} {now : Moment}

theorem putProject_keeps (key : String) (project : Project) :
    KeepsSessions service (service.putProject now key project).2 := by
  unfold putProject
  split
  · exact .refl service
  · dsimp only
    split <;> exact ⟨rfl, rfl, rfl⟩

theorem deleteProject_keeps (key : String) :
    KeepsSessions service (service.deleteProject key).2 := by
  unfold deleteProject
  dsimp only
  split <;> exact ⟨rfl, rfl, rfl⟩

theorem save_keeps (id : String) : KeepsSessions service (service.save now id).2 := by
  unfold save withSession
  split
  · dsimp only
    split <;> exact ⟨rfl, rfl, rfl⟩
  · exact .refl service

/-- What holds whether a body is refused or not holds after it is read. -/
theorem withEntity_next {α : Type} {P : Service → Prop} {read : Value → Schema.Checked α}
    {body : String} {act : α → Response × Service} (refused : P service)
    (acted : ∀ entity, P (act entity).2) : P (service.withEntity read body act).2 := by
  unfold withEntity
  split
  · exact acted _
  · exact refused

theorem begin_usesId (project : Project) (state : Option PlayerState) :
    UsesId service (service.begin project state).2 := by
  unfold begin
  dsimp only
  split
  · exact ⟨rfl, rfl, fun _ _ => rfl⟩
  · refine ⟨rfl, rfl, fun id other => ?_⟩
    rw [Entries.get?_put, if_neg (Ne.symm other)]

theorem start_atMostBegins (request : StartRequest) :
    AtMostBegins service (service.start now request).2 := by
  unfold start
  split
  · exact .inl (.refl service)
  · split
    · exact .inl (.refl service)
    · exact .inr (begin_usesId _ _)

/-- A session that is put back under its id. -/
theorem makes_keep {id : String} {move : Move} {response : Response} {session : Session}
    (made : move.make id (service.sessions.get? id) = (response, some session)) :
    Makes service id move (response, service.keep id session) where
  ids := rfl
  begun := rfl
  response := by rw [made]
  held := by rw [made, keep, Entries.get?_put_self]
  others := by
    intro other different
    rw [keep, Entries.get?_put, if_neg (Ne.symm different)]

/-- A move that leaves what is kept under its id. -/
theorem makes_nothing {id : String} {move : Move} {response : Response}
    (made : move.make id (service.sessions.get? id) = (response, service.sessions.get? id)) :
    Makes service id move (response, service) where
  ids := rfl
  begun := rfl
  response := by rw [made]
  held := by rw [made]
  others := fun _ _ => rfl

theorem finish_makes (id : String) :
    Makes service id .finish (.nothing, service.finish id) where
  ids := rfl
  begun := rfl
  response := by cases service.sessions.get? id <;> rfl
  held := by
    rw [finish, Entries.get?_erase, if_pos rfl]
    cases service.sessions.get? id <;> rfl
  others := by
    intro other different
    rw [finish, Entries.get?_erase, if_neg (Ne.symm different)]

theorem choose_makes (id choiceId : String) :
    Makes service id (.choose choiceId) (service.choose id choiceId) := by
  unfold choose withSession
  cases held : service.sessions.get? id with
  | none => exact makes_nothing (by rw [held]; rfl)
  | some session =>
    cases chosen : session.choose choiceId with
    | error fault =>
      simp only [chosen]
      exact makes_nothing (by simp [held, Move.make, Move.makeIn, chosen])
    | ok result =>
      obtain ⟨outcome, next⟩ := result
      simp only [chosen]
      exact makes_keep (by cases outcome <;> simp [held, Move.make, Move.makeIn, chosen])

theorem restart_makes (id : String) : Makes service id .restart (service.restart id) := by
  unfold restart withSession
  cases held : service.sessions.get? id with
  | none => exact makes_nothing (by rw [held]; rfl)
  | some session =>
    cases restarted : session.restart with
    | error issue =>
      simp only [restarted]
      exact makes_nothing (by simp [held, Move.make, Move.makeIn, restarted])
    | ok next =>
      simp only [restarted]
      exact makes_keep (by simp [held, Move.make, Move.makeIn, restarted])

theorem get_makes (id : String) :
    Makes service id .look
      (service.withSession id fun session => (view 200 session none, service)) := by
  unfold withSession
  cases held : service.sessions.get? id with
  | none => exact makes_nothing (by rw [held]; rfl)
  | some session => exact makes_nothing (by rw [held]; rfl)

/-- An action that is about a session makes its move there. -/
theorem perform_makes {action : Action} {id : String} {move : Move}
    (isMove : action.move? = some (id, move)) (body : String) :
    Makes service id move (service.perform now body action) := by
  cases action with
  | get named =>
    cases isMove
    exact get_makes id
  | choose named choiceId =>
    cases isMove
    exact choose_makes id choiceId
  | restart named =>
    cases isMove
    exact restart_makes id
  | finish named =>
    cases isMove
    exact finish_makes id
  | validate | «export» _ | listProjects | putProject _ | getProject _ | deleteProject _ | start
  | save _ => exact nomatch isMove

/-- An action that is about no session leaves the sessions, but for the one that it may begin. -/
theorem perform_atMostBegins {action : Action} (noMove : action.move? = none) (body : String) :
    AtMostBegins service (service.perform now body action).2 := by
  cases action with
  | validate => exact .inl (withEntity_next (.refl service) fun _ => .refl service)
  | «export» format => exact .inl (withEntity_next (.refl service) fun _ => .refl service)
  | listProjects => exact .inl (.refl service)
  | putProject key => exact .inl (withEntity_next (.refl service) (putProject_keeps key))
  | getProject key => exact .inl (.refl service)
  | deleteProject key => exact .inl (deleteProject_keeps key)
  | start =>
    exact @withEntity_next service _ (AtMostBegins service) _ _ _ (.inl (.refl service))
      start_atMostBegins
  | save id => exact .inl (save_keeps id)
  | get id | choose id choiceId | restart id | finish id => exact nomatch noMove

end Actions

theorem answer_of_action {request : Request} {action : Action}
    (asked : request.action? = some action) (service : Service) (now : Moment) :
    service.answer now request = service.perform now request.body action := by
  obtain ⟨endpoint, isTarget, isAction⟩ := Option.bind_eq_some_iff.mp asked
  simp only [answer, isTarget, isAction]

theorem answer_of_none {request : Request} (asked : request.action? = none) (service : Service)
    (now : Moment) : (service.answer now request).2 = service := by
  unfold answer
  split
  next => rfl
  next endpoint isTarget =>
    have noAction : endpoint.action? request.method = none := by
      simpa [Request.action?, isTarget] using asked
    rw [noAction]

/-- A request that is about a session makes its move there. -/
theorem answer_makes {request : Request} {id : String} {move : Move}
    (isMove : request.move? = some (id, move)) (service : Service) (now : Moment) :
    Makes service id move (service.answer now request) := by
  obtain ⟨action, asked, actionMove⟩ := Option.bind_eq_some_iff.mp isMove
  rw [answer_of_action asked]
  exact perform_makes actionMove request.body

/-- A request that is about no session leaves the sessions, but for the one that it may begin. -/
theorem answer_atMostBegins {request : Request} (noMove : request.move? = none) (service : Service)
    (now : Moment) : AtMostBegins service (service.answer now request).2 := by
  cases asked : request.action? with
  | none =>
    rw [answer_of_none asked]
    exact .inl (.refl service)
  | some action =>
    rw [answer_of_action asked]
    refine perform_atMostBegins ?_ request.body
    simpa [Request.move?, asked] using noMove

/-! ## Requests one after the other -/

/-- A request and the moment at which it arrives. -/
structure Arrival where
  moment : Moment
  request : Request

/-- Requests, one after the other, each with its response. -/
def exchanges (service : Service) : List Arrival → List (Request × Response)
  | [] => []
  | arrival :: rest =>
    let (response, next) := service.answer arrival.moment arrival.request
    (arrival.request, response) :: next.exchanges rest

/-- The service after requests. -/
def after (service : Service) (arrivals : List Arrival) : Service :=
  arrivals.foldl (fun reached arrival => (reached.answer arrival.moment arrival.request).2) service

/-- Requests that arrive at one moment are answered one after the other. -/
theorem answerAll_eq (service : Service) (now : Moment) (requests : List Request) :
    service.answerAll now requests =
      ((service.exchanges (requests.map (⟨now, ·⟩))).map (·.2),
        service.after (requests.map (⟨now, ·⟩))) := by
  induction requests generalizing service with
  | nil => rfl
  | cons request rest inductionHypothesis =>
    simp only [answerAll, inductionHypothesis, List.map_cons, exchanges, after, List.foldl_cons]

/-- What a request does to a session, if it is about that one. -/
def Request.moveIn? (id : String) (request : Request) : Option Move :=
  request.move?.bind fun (other, move) => if other = id then some move else none

theorem moveIn?_eq_some_iff {id : String} {request : Request} {move : Move} :
    request.moveIn? id = some move ↔ request.move? = some (id, move) := by
  simp only [Request.moveIn?, Option.bind_eq_some_iff, Prod.exists]
  constructor
  · rintro ⟨other, made, isMove, here⟩
    split at here
    next same =>
      obtain rfl := Option.some.inj here
      exact same ▸ isMove
    next => exact nomatch here
  · intro isMove
    exact ⟨id, move, isMove, if_pos rfl⟩

/-- The moves that requests make in a session. -/
def movesIn (id : String) (arrivals : List Arrival) : List Move :=
  arrivals.filterMap (·.request.moveIn? id)

/-- The responses to the requests that are about a session. -/
def responsesAbout (id : String) (exchanged : List (Request × Response)) : List Response :=
  (exchanged.filter (·.1.moveIn? id |>.isSome)).map (·.2)

section Cons

variable {id : String} {request : Request} {response : Response}

theorem movesIn_cons (id : String) (arrival : Arrival) (rest : List Arrival) :
    movesIn id (arrival :: rest) = (arrival.request.moveIn? id).toList ++ movesIn id rest := by
  rw [movesIn, List.filterMap_cons]
  cases arrival.request.moveIn? id <;> rfl

theorem responsesAbout_of_move {move : Move} (isMove : request.moveIn? id = some move)
    (rest : List (Request × Response)) :
    responsesAbout id ((request, response) :: rest) = response :: responsesAbout id rest := by
  simp [responsesAbout, isMove]

theorem responsesAbout_of_none (aside : request.moveIn? id = none)
    (rest : List (Request × Response)) :
    responsesAbout id ((request, response) :: rest) = responsesAbout id rest := by
  simp [responsesAbout, aside]

end Cons

/-- No session that begins from now on is given the id. -/
def NotGiven (service : Service) (id : String) : Prop :=
  ∀ number, service.begun < number → service.idOf number ≠ id

/-- Whatever a request does, it does not make the service give an id again. -/
theorem NotGiven.answer {service : Service} {id : String} (notGiven : service.NotGiven id)
    (now : Moment) (request : Request) : (service.answer now request).2.NotGiven id := by
  intro number later
  cases isMove : request.move? with
  | some made =>
    have makes := answer_makes isMove service now
    rw [makes.ids]
    exact notGiven number (makes.begun ▸ later)
  | none =>
    rcases answer_atMostBegins isMove service now with keeps | uses
    · rw [keeps.ids]
      exact notGiven number (keeps.begun ▸ later)
    · rw [uses.ids]
      rw [uses.begun] at later
      exact notGiven number (Nat.lt_of_succ_lt later)

/-- A request that is about another session, or about none, leaves what is kept under an id that
is not given any more. -/
theorem NotGiven.kept {service : Service} {id : String} (notGiven : service.NotGiven id)
    {request : Request} (aside : request.moveIn? id = none) (now : Moment) :
    (service.answer now request).2.sessions.get? id = service.sessions.get? id := by
  cases isMove : request.move? with
  | some made =>
    have other : id ≠ made.1 := by
      rintro rfl
      exact nomatch aside.symm.trans (moveIn?_eq_some_iff.mpr isMove)
    exact (answer_makes isMove service now).others id other
  | none =>
    rcases answer_atMostBegins isMove service now with keeps | uses
    · rw [keeps.sessions]
    · exact uses.others id (notGiven _ (Nat.lt_succ_self _)).symm

/-- Whatever requests come between them, the responses to the requests about one session are
those to its moves alone. -/
theorem NotGiven.responses {service : Service} {id : String} (notGiven : service.NotGiven id)
    (arrivals : List Arrival) :
    responsesAbout id (service.exchanges arrivals) =
      Move.makeAll id (service.sessions.get? id) (movesIn id arrivals) := by
  -- Of the service that a request leaves, the rest needs what is kept under the id, and that the
  -- id is still not given again.
  induction arrivals generalizing service with
  | nil => rfl
  | cons arrival rest inductionHypothesis =>
    have later := inductionHypothesis (notGiven.answer arrival.moment arrival.request)
    rw [exchanges, movesIn_cons]
    cases isMove : arrival.request.moveIn? id with
    | some move =>
      have makes := answer_makes (moveIn?_eq_some_iff.mp isMove) service arrival.moment
      rw [responsesAbout_of_move isMove, later, makes.held, makes.response]
      rfl
    | none =>
      rw [responsesAbout_of_none isMove, later, notGiven.kept isMove]
      rfl

/-! ## Ids that are still to be given -/

/-- Under the ids of sessions that have not begun there is nothing. -/
def Clear (service : Service) : Prop :=
  ∀ number, service.begun < number → service.sessions.get? (service.idOf number) = none

theorem clear_of_empty {service : Service} (empty : service.sessions = []) : service.Clear := by
  intro number _
  rw [empty, Entries.get?_nil]

theorem Move.make_none (id : String) (move : Move) : (move.make id none).2 = none := rfl

theorem answer_idOf (service : Service) (now : Moment) (request : Request) :
    (service.answer now request).2.idOf = service.idOf := by
  cases isMove : request.move? with
  | some made => exact (answer_makes isMove service now).ids
  | none =>
    rcases answer_atMostBegins isMove service now with keeps | uses
    · exact keeps.ids
    · exact uses.ids

/-- Where ids differ, a request leaves nothing under an id that is still to be given. -/
theorem Clear.answer {service : Service} (clear : service.Clear)
    (distinct : Function.Injective service.idOf) (now : Moment) (request : Request) :
    (service.answer now request).2.Clear := by
  intro number later
  rw [answer_idOf]
  cases isMove : request.move? with
  | some made =>
    have makes := answer_makes isMove service now
    have unheld := clear number (makes.begun ▸ later)
    by_cases here : service.idOf number = made.1
    · rw [here, makes.held, ← here, unheld, Move.make_none]
    · rw [makes.others _ here, unheld]
  | none =>
    rcases answer_atMostBegins isMove service now with keeps | uses
    · rw [keeps.sessions]
      exact clear number (keeps.begun ▸ later)
    · rw [uses.begun] at later
      rw [uses.others _ (distinct.ne (Nat.ne_of_gt later))]
      exact clear number (Nat.lt_of_succ_lt later)

theorem after_idOf (service : Service) (arrivals : List Arrival) :
    (service.after arrivals).idOf = service.idOf := by
  induction arrivals generalizing service with
  | nil => rfl
  | cons arrival rest inductionHypothesis =>
    rw [after, List.foldl_cons, ← after, inductionHypothesis, answer_idOf]

theorem Clear.after {service : Service} (clear : service.Clear)
    (distinct : Function.Injective service.idOf) (arrivals : List Arrival) :
    (service.after arrivals).Clear := by
  induction arrivals generalizing service with
  | nil => exact clear
  | cons arrival rest inductionHypothesis =>
    refine inductionHypothesis (clear.answer distinct arrival.moment arrival.request) ?_
    rw [answer_idOf]
    exact distinct

end Gamebook.Service
