import Gamebook.Console
import Gamebook.Proofs.Play.Session
import Gamebook.Proofs.Play.SessionRun

/-!
# Playing on a console

What an answer comes to depends on the session alone: a number stops it, the player leaves, or it
leads to a session of the same project. So a story that could be started once can be started again
whatever is answered, and numbers are the only thing that breaks a playthrough off: one that keeps
a scene from being shown, an answer that spells none, or one in a choice that is taken.
-/

namespace Gamebook.Console

/-! ## One answer -/

/-- A number stops an answer: the answer spells none, or one stops the choice it asks for, or one
keeps the scene from being shown that the answer leads to. -/
inductive Stops (session : Session) (text : String) (fault : NumberFault) : Prop
  | answer (unread : readAnswer text = .error fault)
  | choice {number : Int} (asked : readAnswer text = .ok (.choice number))
      (stopped : session.chooseNumber number = .error fault)
  | taken {number : Int} {choice : Choice} {state : PlayerState} {next : Session}
      (asked : readAnswer text = .ok (.choice number))
      (taken : session.chooseNumber number = .ok (.accepted choice state, next))
      (hidden : (sceneLines next).2 = .error fault)
  | again {next : Session} (asked : readAnswer text = .ok .restart)
      (restarted : session.restart = .ok next) (hidden : (sceneLines next).2 = .error fault)

/-- An answer leads to a session in which the next one is asked for. -/
inductive Leads (session : Session) (text : String) : Session → Prop
  | unclear (asked : readAnswer text = .ok .unclear) : Leads session text session
  | refused {number : Int} {choiceId : String} {refusal : Refusal} {left : PlayerState}
      {next : Session} (asked : readAnswer text = .ok (.choice number))
      (refused : session.chooseNumber number = .ok (.rejected choiceId refusal left, next)) :
      Leads session text next
  | taken {number : Int} {choice : Choice} {state : PlayerState} {next : Session}
      (asked : readAnswer text = .ok (.choice number))
      (taken : session.chooseNumber number = .ok (.accepted choice state, next))
      (shown : (sceneLines next).2 = .ok ()) : Leads session text next
  | again {next : Session} (asked : readAnswer text = .ok .restart)
      (restarted : session.restart = .ok next) (shown : (sceneLines next).2 = .ok ()) :
      Leads session text next

variable {console : Console} {session next : Session} {text : String} {fault : NumberFault}

theorem chooseNumber_project {number : Int} {outcome : Outcome}
    (chosen : session.chooseNumber number = .ok (outcome, next)) :
    next.project = session.project := by
  unfold Session.chooseNumber at chosen
  split at chosen
  next choice _ =>
    obtain ⟨_, rfl⟩ := (Session.choose_ok_iff session next choice.id outcome).mp chosen
    rfl
  next =>
    obtain ⟨shown, _, same⟩ := Except.map_ok_iff.mp chosen
    rw [← (Prod.mk.inj same).2]

/-- Whatever is answered, a playthrough stays with its project. -/
theorem Leads.project (leads : Leads session text next) : next.project = session.project := by
  cases leads with
  | unclear => rfl
  | refused _ refused => exact chooseNumber_project refused
  | taken _ taken _ => exact chooseNumber_project taken
  | again _ restarted _ =>
    obtain ⟨state, _, rfl⟩ := (Session.restart_ok_iff _ _).mp restarted
    rfl

/-- Everything that an answer can come to in a story that can be started. -/
theorem answer_cases (starts : session.project.startScene?.isSome = true) (text : String) :
    (∃ fault, Stops session text fault) ∨ readAnswer text = .ok .leave ∨
      ∃ next, Leads session text next := by
  cases asked : readAnswer text with
  | error fault => exact .inl ⟨fault, .answer asked⟩
  | ok request =>
    cases request with
    | leave => exact .inr (.inl rfl)
    | unclear => exact .inr (.inr ⟨session, .unclear asked⟩)
    | restart =>
      obtain ⟨start, begun⟩ := (Project.startScene?_isSome_iff session.project).mp starts
      have restarted := (Session.restart_ok_iff session _).mpr ⟨start, begun, rfl⟩
      cases shown : (sceneLines _).2 with
      | error fault => exact .inl ⟨fault, .again asked restarted shown⟩
      | ok => exact .inr (.inr ⟨_, .again asked restarted shown⟩)
    | choice number =>
      cases chosen : session.chooseNumber number with
      | error fault => exact .inl ⟨fault, .choice asked chosen⟩
      | ok result =>
        obtain ⟨outcome, next⟩ := result
        cases outcome with
        | rejected choiceId refusal left => exact .inr (.inr ⟨next, .refused asked chosen⟩)
        | accepted choice state =>
          cases shown : (sceneLines next).2 with
          | error fault => exact .inl ⟨fault, .taken asked chosen shown⟩
          | ok => exact .inr (.inr ⟨next, .taken asked chosen shown⟩)

theorem Stops.answer_eq (console : Console) (stops : Stops console.session text fault) :
    (console.answer text).1 = .error (.number fault) := by
  cases stops with
  | answer unread => rw [Console.answer, unread]
  | choice asked stopped =>
    simp only [Console.answer, asked, choose, stopped]
    rfl
  | taken asked taken hidden =>
    simp only [Console.answer, asked, choose, taken, showScene, hidden]
    rfl
  | again asked restarted hidden =>
    simp only [Console.answer, asked, restart, restarted, showScene, move, hidden]
    rfl

theorem Leads.answer_eq (console : Console) (leads : Leads console.session text next) :
    (console.answer text).1 = .ok false ∧ (console.answer text).2.session = next := by
  cases leads with
  | unclear asked =>
    rw [Console.answer, asked]
    exact ⟨rfl, rfl⟩
  | refused asked refused =>
    simp only [Console.answer, asked, choose, refused]
    exact ⟨rfl, rfl⟩
  | taken asked taken shown =>
    simp only [Console.answer, asked, choose, taken, showScene, shown]
    exact ⟨rfl, rfl⟩
  | again asked restarted shown =>
    simp only [Console.answer, asked, restart, restarted, showScene, move, shown]
    exact ⟨rfl, rfl⟩

/-! ## All answers -/

/-- A number stops one of the answers, after those before it led on. -/
inductive Breaks : Session → List String → NumberFault → Prop
  | stops {session : Session} {text : String} {fault : NumberFault}
      (goesOn : session.isEnded = false) (stops : Stops session text fault) (rest : List String) :
      Breaks session (text :: rest) fault
  | later {session next : Session} {text : String} {rest : List String} {fault : NumberFault}
      (goesOn : session.isEnded = false) (leads : Leads session text next)
      (breaks : Breaks next rest fault) : Breaks session (text :: rest) fault

/-- An answer that leads on leaves the rest of a playthrough to the other answers. -/
theorem play_of_leads (goesOn : console.session.isEnded = false)
    (leads : Leads console.session text next) (rest : List String) :
    ∃ later : Console, later.session = next ∧ console.play (text :: rest) = later.play rest := by
  obtain ⟨answered, same⟩ := leads.answer_eq console.ask
  cases step : console.ask.answer text with
  | mk result later =>
    rw [step] at answered same
    obtain rfl : result = .ok false := answered
    refine ⟨later, same, ?_⟩
    simp only [play, goesOn, Bool.false_eq_true, if_false, step]

theorem play_of_stops (goesOn : console.session.isEnded = false)
    (stops : Stops console.session text fault) (rest : List String) :
    (console.play (text :: rest)).1 = .error (.number fault) := by
  have answered := stops.answer_eq console.ask
  cases step : console.ask.answer text with
  | mk result later =>
    rw [step] at answered
    obtain rfl : result = .error (.number fault) := answered
    simp only [play, goesOn, Bool.false_eq_true, if_false, step]

/-- An answer that spells no number stops a playthrough and leaves the session as it was. -/
theorem play_of_unread (goesOn : console.session.isEnded = false)
    (unread : readAnswer text = .error fault) (rest : List String) :
    console.play (text :: rest) = (.error (.number fault), console.ask) := by
  simp only [play, goesOn, Bool.false_eq_true, if_false, answer, unread]

theorem play_of_leave (goesOn : console.session.isEnded = false)
    (leave : readAnswer text = .ok .leave) (rest : List String) :
    console.play (text :: rest) = (.ok (), console.ask) := by
  simp only [play, goesOn, Bool.false_eq_true, if_false, answer, leave]

/-- Playing the answers of a story that can be started ends, unless a number stops one. -/
theorem play_cases (starts : console.session.project.startScene?.isSome = true)
    (answers : List String) :
    (console.play answers).1 = .ok () ∨ ∃ fault, Breaks console.session answers fault := by
  induction answers generalizing console with
  | nil => exact .inl rfl
  | cons text rest inductionHypothesis =>
    cases goesOn : console.session.isEnded with
    | true => exact .inl (by simp only [play, goesOn, if_true])
    | false =>
      rcases answer_cases starts text with ⟨fault, stops⟩ | leave | ⟨next, leads⟩
      · exact .inr ⟨fault, .stops goesOn stops rest⟩
      · exact .inl (congrArg Prod.fst (play_of_leave goesOn leave rest))
      · obtain ⟨later, rfl, same⟩ := play_of_leads goesOn leads rest
        rw [same]
        rcases inductionHypothesis (leads.project ▸ starts) with ended | ⟨fault, breaks⟩
        · exact .inl ended
        · exact .inr ⟨fault, .later goesOn leads breaks⟩

theorem Breaks.play_eq {answers : List String} (breaks : Breaks session answers fault)
    (same : console.session = session) :
    (console.play answers).1 = .error (.number fault) := by
  induction breaks generalizing console with
  | stops goesOn stops rest =>
    subst same
    exact play_of_stops goesOn stops rest
  | later goesOn leads _ inductionHypothesis =>
    subst same
    obtain ⟨later, same, play⟩ := play_of_leads goesOn leads _
    rw [play]
    exact inductionHypothesis same

/-! ## A playthrough -/

/-- A number breaks a playthrough off: it keeps the first scene from being shown, or it stops one
of the answers. -/
inductive BreaksOff (session : Session) (answers : List String) (fault : NumberFault) : Prop
  | scene (hidden : (sceneLines session).2 = .error fault)
  | answer (shown : (sceneLines session).2 = .ok ()) (breaks : Breaks session answers fault)

theorem opening_eq (session : Session) : ∃ console : Console, console.session = session ∧
    opening session = ((sceneLines session).2.mapError .number, console) :=
  ⟨_, rfl, rfl⟩

/-- A playthrough of a story that can be started ends, unless a number breaks it off. -/
theorem run_cases (starts : session.project.startScene?.isSome = true) (answers : List String) :
    (run session answers).1 = .ok () ∨ ∃ fault, BreaksOff session answers fault := by
  obtain ⟨console, rfl, opened⟩ := opening_eq session
  unfold run
  rw [opened]
  cases shown : (sceneLines console.session).2 with
  | error fault => exact .inr ⟨fault, .scene shown⟩
  | ok =>
    rcases play_cases starts answers with ended | ⟨fault, breaks⟩
    · exact .inl ended
    · exact .inr ⟨fault, .answer shown breaks⟩

theorem BreaksOff.run_eq {answers : List String} (breaksOff : BreaksOff session answers fault) :
    (run session answers).1 = .error (.number fault) := by
  obtain ⟨console, same, opened⟩ := opening_eq session
  unfold run
  rw [opened]
  cases breaksOff with
  | scene hidden =>
    rw [hidden]
    rfl
  | answer shown breaks =>
    rw [shown]
    exact breaks.play_eq same

end Gamebook.Console
