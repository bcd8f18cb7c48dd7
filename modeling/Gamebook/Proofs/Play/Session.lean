import Gamebook.Proofs.Play.SessionRun

/-!
# Sessions and the engine

A session keeps what the engine gives it. Whatever is called, its record is a run of the
engine from the state in which the record begins, so the history of its state is that of this
state and, behind it, the ids of the attempts that took a choice. A call that takes nothing
leaves the state as it was. Faults of numbers are included: they stop a call, and what was
recorded before stands.
-/

namespace Gamebook.Session

open Project (Run takenIds)

variable {session next last : Session}

/-! ## Calls -/

/-- A call on a session. -/
inductive Call
  | choose (choiceId : String)
  | chooseNumber (number : Int)
  | run (choiceIds : List String)
  | restart

/-- What a call answers. -/
inductive Answer
  | tried (outcome : Outcome)
  | ran (attempts : List Attempt)
  | restarted (state : PlayerState)
  | noStart (issue : Issue)

/-- Whether an answer says that no choice was taken and nothing begun again. -/
def Answer.takesNothing : Answer → Bool
  | .tried outcome => !outcome.isAccepted
  | .ran attempts => attempts.all fun attempt => !attempt.outcome.isAccepted
  | .restarted _ => false
  | .noStart _ => true

/-- The answer to an attempt and the session after it: a fault leaves the session as it was. -/
def settle (session : Session) :
    Except NumberFault (Outcome × Session) → Except NumberFault Answer × Session
  | .ok (outcome, next) => (.ok (.tried outcome), next)
  | .error fault => (.error fault, session)

/-- Makes a call. Gives the answer, or the fault that stopped it, and the session after it. -/
def perform (session : Session) : Call → Except NumberFault Answer × Session
  | .choose choiceId => session.settle (session.choose choiceId)
  | .chooseNumber number => session.settle (session.chooseNumber number)
  | .run choiceIds => ((session.run choiceIds).1.map .ran, (session.run choiceIds).2)
  | .restart =>
    match session.restart with
    | .ok next => (.ok (.restarted next.state), next)
    | .error issue => (.ok (.noStart issue), session)

/-- The answers to calls in order, and the session after them. -/
def performAll (session : Session) : List Call → List (Except NumberFault Answer) × Session
  | [] => ([], session)
  | call :: rest =>
    let (answer, next) := session.perform call
    let (answers, last) := next.performAll rest
    (answer :: answers, last)

theorem performAll_cons (session : Session) (call : Call) (rest : List Call) :
    session.performAll (call :: rest) =
      ((session.perform call).1 :: ((session.perform call).2.performAll rest).1,
        ((session.perform call).2.performAll rest).2) := rfl

/-- Whether a call began the story again. -/
def restarts : Except NumberFault Answer → Bool
  | .ok (.restarted _) => true
  | _ => false

/-! ## What each call does -/

/-- A number stands for no choice exactly when it is not between one and the number of choices
of the current scene. -/
theorem numbered?_eq_none_iff (session : Session) (number : Int) :
    session.numbered? number = none ↔ ∀ scene, session.scene? = some scene →
      ¬ (1 ≤ number ∧ number ≤ scene.choices.length) := by
  unfold numbered?
  cases session.scene? with
  | none => simp
  | some scene =>
    by_cases positive : 1 ≤ number
    · simp only [positive, if_true, List.getElem?_eq_none_iff, true_and, Option.some.injEq,
        forall_eq']
      omega
    · simp [positive]

/-- A number that stands for no choice is refused without a record. -/
theorem chooseNumber_outside {number : Int} (outside : session.numbered? number = none) :
    session.perform (.chooseNumber number) =
      ((Numeral.write number).map fun shown =>
        .tried (.rejected shown (.noNumber shown) session.state), session) := by
  simp only [perform, chooseNumber, outside]
  cases Numeral.write number <;> rfl

/-- A number that stands for a choice tries the choice with this id. -/
theorem chooseNumber_inside {number : Int} {choice : Choice}
    (inside : session.numbered? number = some choice) :
    session.perform (.chooseNumber number) = session.perform (.choose choice.id) := by
  simp only [perform, chooseNumber, inside]

/-- Starting again gives a session with an empty record in the state at the start. -/
theorem restart_ok_iff (session next : Session) : session.restart = .ok next ↔
    ∃ state, session.project.reset = .ok state ∧
      next = { session with state := state, attempts := [] } := by
  simp only [restart, Except.map_ok_iff, @eq_comm _ next]

/-! ## The record is a run -/

/-- The record of a session is a run of the engine that begins in a state with a history. -/
def RecordsFrom (session : Session) (history : List String) : Prop :=
  ∃ base : PlayerState, base.history = history ∧
    Run session.project base session.attempts session.state

theorem RecordsFrom.history {history : List String} (records : session.RecordsFrom history) :
    session.state.history = history ++ takenIds session.attempts := by
  obtain ⟨base, rfl, run⟩ := records
  exact run.history

/-- A session that was started has nothing on record. -/
theorem recordsFrom_of_start {project : Project} {id : String} {given : Option PlayerState}
    (started : Session.start project id given = .ok session) :
    session.RecordsFrom session.state.history := by
  cases given with
  | some state =>
    obtain rfl := Except.ok.inj started
    exact ⟨state, rfl, .begin⟩
  | none =>
    obtain ⟨state, _, rfl⟩ := Except.map_ok_iff.mp started
    exact ⟨state, rfl, .begin⟩

theorem RecordsFrom.record {history : List String} (records : session.RecordsFrom history)
    {choiceId : String} {outcome : Outcome}
    (selected : session.project.select session.state choiceId = .ok outcome) :
    (session.record choiceId outcome).RecordsFrom history := by
  obtain ⟨base, begins, run⟩ := records
  exact ⟨base, begins, .attempt choiceId outcome run selected⟩

/-- Running choices extends the record, also when a fault stops it. -/
theorem RecordsFrom.run {history : List String} (records : session.RecordsFrom history)
    (choiceIds : List String) :
    (session.run choiceIds).2.project = session.project ∧
      (session.run choiceIds).2.RecordsFrom history := by
  induction choiceIds generalizing session with
  | nil => exact ⟨rfl, records⟩
  | cons choiceId rest inductionHypothesis =>
    rw [Session.run]
    cases chosen : session.choose choiceId with
    | error fault => exact ⟨rfl, records⟩
    | ok result =>
      obtain ⟨outcome, next⟩ := result
      obtain ⟨selected, rfl⟩ := (choose_ok_iff session next choiceId outcome).mp chosen
      have recorded := records.record selected
      cases taken : outcome.isAccepted with
      | false => simpa [taken] using ⟨rfl, recorded⟩
      | true =>
        obtain ⟨project, rested⟩ := inductionHypothesis recorded
        simpa [taken] using ⟨project.trans rfl, rested⟩

/-- Trying a choice extends the record, unless a number fails. -/
theorem RecordsFrom.choose {history : List String} (records : session.RecordsFrom history)
    {choiceId : String} {answer : Except NumberFault Answer}
    (performed : session.perform (.choose choiceId) = (answer, next)) :
    next.project = session.project ∧
      next.RecordsFrom (if restarts answer then [] else history) := by
  rw [Session.perform] at performed
  cases chosen : session.choose choiceId with
  | error fault =>
    rw [chosen] at performed
    obtain ⟨rfl, rfl⟩ := Prod.mk.inj performed
    exact ⟨rfl, records⟩
  | ok result =>
    obtain ⟨outcome, after⟩ := result
    obtain ⟨selected, rfl⟩ := (choose_ok_iff session after choiceId outcome).mp chosen
    rw [chosen] at performed
    obtain ⟨rfl, rfl⟩ := Prod.mk.inj performed
    exact ⟨rfl, records.record selected⟩

/-- Starting again begins a new record, unless there is nowhere to start. -/
theorem RecordsFrom.restart {history : List String} (records : session.RecordsFrom history)
    {answer : Except NumberFault Answer}
    (performed : session.perform .restart = (answer, next)) :
    next.project = session.project ∧
      next.RecordsFrom (if restarts answer then [] else history) := by
  rw [Session.perform] at performed
  cases again : session.restart with
  | error issue =>
    rw [again] at performed
    obtain ⟨rfl, rfl⟩ := Prod.mk.inj performed
    exact ⟨rfl, records⟩
  | ok after =>
    rw [again] at performed
    obtain ⟨rfl, rfl⟩ := Prod.mk.inj performed
    obtain ⟨state, reset, rfl⟩ := (restart_ok_iff session after).mp again
    obtain ⟨scene, _, rfl⟩ := (Project.reset_ok_iff session.project state).mp reset
    exact ⟨rfl, _, rfl, .begin⟩

/-- A call extends the record or begins a new one. -/
theorem RecordsFrom.perform {history : List String} (records : session.RecordsFrom history)
    {call : Call} {answer : Except NumberFault Answer}
    (performed : session.perform call = (answer, next)) :
    next.project = session.project ∧
      next.RecordsFrom (if restarts answer then [] else history) := by
  cases call with
  | choose choiceId => exact records.choose performed
  | chooseNumber number =>
    cases found : session.numbered? number with
    | some choice =>
      rw [chooseNumber_inside found] at performed
      exact records.choose performed
    | none =>
      rw [chooseNumber_outside found] at performed
      obtain ⟨rfl, rfl⟩ := Prod.mk.inj performed
      cases Numeral.write number <;> exact ⟨rfl, records⟩
  | run choiceIds =>
    obtain ⟨rfl, rfl⟩ := Prod.mk.inj performed
    cases ran : (session.run choiceIds).1 <;>
      simpa [restarts, Except.map] using records.run choiceIds
  | restart => exact records.restart performed

/-- After calls the record begins at the start of the story when one of them began it again,
and otherwise where it began before. -/
theorem RecordsFrom.performAll {history : List String} (records : session.RecordsFrom history)
    (calls : List Call) :
    (session.performAll calls).2.project = session.project ∧
      (session.performAll calls).2.RecordsFrom
        (if (session.performAll calls).1.any restarts then [] else history) := by
  induction calls generalizing session history with
  | nil => exact ⟨rfl, records⟩
  | cons call rest inductionHypothesis =>
    rcases performed : session.perform call with ⟨answer, next⟩
    obtain ⟨project, stepped⟩ := records.perform performed
    obtain ⟨same, rested⟩ := inductionHypothesis stepped
    rw [performAll_cons, performed]
    refine ⟨same.trans project, ?_⟩
    rw [List.any_cons]
    cases again : restarts answer <;> simpa [again] using rested

/-! ## Calls that take nothing -/

/-- A choice that is refused leaves the state as it was. -/
theorem choose_keeps {choiceId : String} {answer : Answer}
    (performed : session.perform (.choose choiceId) = (.ok answer, next))
    (nothing : answer.takesNothing = true) : next.state = session.state := by
  rw [perform] at performed
  cases chosen : session.choose choiceId with
  | error fault =>
    rw [chosen] at performed
    nomatch (Prod.mk.inj performed).1
  | ok result =>
    obtain ⟨outcome, after⟩ := result
    obtain ⟨selected, rfl⟩ := (choose_ok_iff session after choiceId outcome).mp chosen
    rw [chosen] at performed
    obtain ⟨same, rfl⟩ := Prod.mk.inj performed
    obtain rfl := Except.ok.inj same
    cases outcome with
    | accepted choice state => simp [Answer.takesNothing, Outcome.isAccepted] at nothing
    | rejected id refusal left => exact Project.select_rejected_state selected

/-- A call that takes no choice and does not begin again leaves the state as it was. -/
theorem perform_keeps {call : Call} {answer : Answer}
    (performed : session.perform call = (.ok answer, next))
    (nothing : answer.takesNothing = true) : next.state = session.state := by
  cases call with
  | choose choiceId => exact choose_keeps performed nothing
  | chooseNumber number =>
    cases found : session.numbered? number with
    | some choice => exact choose_keeps (chooseNumber_inside found ▸ performed) nothing
    | none =>
      rw [chooseNumber_outside found] at performed
      exact congrArg Session.state (Prod.mk.inj performed).2.symm
  | run choiceIds =>
    rcases ran : session.run choiceIds with ⟨result, after⟩
    rw [perform, ran] at performed
    obtain ⟨same, rfl⟩ := Prod.mk.inj performed
    cases result with
    | error fault => nomatch same
    | ok attempts =>
      obtain rfl := Except.ok.inj same
      exact run_keeps ran (by simpa [Answer.takesNothing] using nothing)
  | restart =>
    rw [perform] at performed
    cases again : session.restart with
    | error issue =>
      rw [again] at performed
      exact congrArg Session.state (Prod.mk.inj performed).2.symm
    | ok after =>
      rw [again] at performed
      obtain rfl := Except.ok.inj (Prod.mk.inj performed).1
      nomatch nothing

/-! ## A session is the engine -/

/-- What a session is worth after some calls were answered, beside the engine alone. -/
structure Simulates (start : Session) (answers : List (Except NumberFault Answer))
    (last : Session) : Prop where
  project : last.project = start.project
  /-- The history is that of the start, or empty after the story was begun again, and behind it the
  ids of the attempts on record that took a choice. -/
  history : last.state.history =
    (if answers.any restarts then [] else start.state.history) ++ takenIds last.attempts
  /-- A call that takes nothing keeps the state. -/
  keeps : ∀ call answer next, last.perform call = (.ok answer, next) →
    answer.takesNothing = true → next.state = last.state
  /-- A number that stands for no choice is refused and keeps the record too. -/
  outside : ∀ number : Int, (∀ scene, last.scene? = some scene →
      ¬ (1 ≤ number ∧ number ≤ scene.choices.length)) →
    last.perform (.chooseNumber number) =
      ((Numeral.write number).map fun shown =>
        .tried (.rejected shown (.noNumber shown) last.state), last)
  /-- A story without a start is not begun again, and the record is kept too. -/
  noStart : ∀ issue, last.project.reset = .error issue →
    last.perform .restart = (.ok (.noStart issue), last)
  /-- Choices are run as they are replayed from the state. -/
  run : ∀ choiceIds, last.FollowsReplay choiceIds (last.project.replayFrom last.state)
  /-- At the start of the story they are run as the whole story is replayed. -/
  fresh : last.project.reset = .ok last.state →
    ∀ choiceIds, last.FollowsReplay choiceIds last.project.replay

/-- Whatever a session begins with and whatever is called on it, it stays in step with the
engine. -/
theorem session_simulates {project : Project} {id : String} {given : Option PlayerState}
    {start : Session} (started : Session.start project id given = .ok start) (calls : List Call) :
    Simulates start (start.performAll calls).1 (start.performAll calls).2 := by
  obtain ⟨same, records⟩ := (recordsFrom_of_start started).performAll calls
  generalize (start.performAll calls).2 = last at same records ⊢
  exact {
    project := same
    history := records.history
    keeps := fun _ _ _ => perform_keeps
    outside := by
      intro number noChoice
      exact chooseNumber_outside ((numbered?_eq_none_iff last number).mpr noChoice)
    noStart := by
      intro issue missing
      simp [perform, restart, missing, Except.map]
    run := run_followsReplay last
    fresh := by
      intro reset choiceIds
      have replays : last.project.replay = last.project.replayFrom last.state := by
        funext choiceIds
        simp [Project.replay, reset]
      rw [replays]
      exact run_followsReplay last choiceIds }

/-- A session that goes on with the lamp: a choice of another scene is refused, the second choice
leads down, and the story ends on the first of two rests. -/
theorem session_simulates_lamp :
    ∃ start, Session.start lampStory "night" (some Project.lampTaken) = .ok start ∧
      Simulates start
        (start.performAll [.choose "rest", .chooseNumber 2, .run ["rest", "rest"]]).1
        (start.performAll [.choose "rest", .chooseNumber 2, .run ["rest", "rest"]]).2 ∧
      (start.performAll [.choose "rest", .chooseNumber 2, .run ["rest", "rest"]]).2.state.history =
        ["take", "down", "rest"] :=
  ⟨_, rfl, @session_simulates lampStory "night" (some Project.lampTaken) _ rfl _, rfl⟩

end Gamebook.Session
