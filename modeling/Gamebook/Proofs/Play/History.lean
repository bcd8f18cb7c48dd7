import Gamebook.Proofs.Play.SavedState

/-!
# Histories

The history of a state is a complete record of its run. Every choice that is taken is
added under the id it was asked for, and a refused one leaves no trace, so the history
names the taken choices in order and nothing else. Choices are taken by rules that look at
nothing but the project and the state, so replaying the history takes the same choices
again and ends in the same state; its numbers are the same data, undefined ones too.
-/

namespace Gamebook.Project

variable {project : Project}

/-- The ids of the choices that were taken, in order. -/
def takenIds (attempts : List Attempt) : List String :=
  (attempts.filter (·.outcome.isAccepted)).map (·.choiceId)

@[simp] theorem takenIds_nil : takenIds [] = [] := rfl

theorem takenIds_accepted (attempts : List Attempt) (choiceId : String) (choice : Choice)
    (next : PlayerState) :
    takenIds (attempts ++ [⟨choiceId, .accepted choice next⟩]) =
      takenIds attempts ++ [choiceId] := by
  simp [takenIds, Outcome.isAccepted]

theorem takenIds_rejected (attempts : List Attempt) (choiceId id : String) (refusal : Refusal)
    (left : PlayerState) :
    takenIds (attempts ++ [⟨choiceId, .rejected id refusal left⟩]) = takenIds attempts := by
  simp [takenIds, Outcome.isAccepted]

/-- A choice that is taken ends the history under the id it was asked for. Of several choices
with this id the first of the scene is taken, and it has the id too. -/
theorem history_of_accepted {state next : PlayerState} {choiceId : String} {choice : Choice}
    (selected : project.select state choiceId = .ok (.accepted choice next)) :
    next.history = state.history ++ [choiceId] := by
  obtain ⟨_, _, _, _, named, _, _, rfl⟩ := taken_of_accepted selected
  rw [← named]
  rfl

/-- Choices are replayed one part after the other. -/
theorem replayFrom_append (state : PlayerState) (earlier later : List String) :
    project.replayFrom state (earlier ++ later) =
      (project.replayFrom state earlier).bind (project.replayFrom · later) := by
  induction earlier generalizing state with
  | nil => rfl
  | cons choiceId rest inductionHypothesis =>
    rw [List.cons_append, replayFrom, replayFrom]
    cases project.select state choiceId with
    | error fault => rfl
    | ok outcome =>
      cases outcome with
      | accepted choice next => exact inductionHypothesis next
      | rejected id refusal left => rfl

/-- A single choice is replayed by taking it. -/
theorem replayFrom_accepted {state next : PlayerState} {choiceId : String} {choice : Choice}
    (selected : project.select state choiceId = .ok (.accepted choice next)) :
    project.replayFrom state [choiceId] = .ok next := by
  simp [replayFrom, selected]

/-- A run adds the choices it takes to the history, and nothing else. -/
theorem Run.history {start state : PlayerState} {attempts : List Attempt}
    (run : Run project start attempts state) :
    state.history = start.history ++ takenIds attempts := by
  induction run with
  | begin => simp
  | attempt choiceId outcome before selected inductionHypothesis =>
    cases outcome with
    | accepted choice next =>
      rw [takenIds_accepted, ← List.append_assoc, ← inductionHypothesis]
      exact history_of_accepted selected
    | rejected id refusal left =>
      obtain rfl := select_rejected_state selected
      rw [takenIds_rejected]
      exact inductionHypothesis

/-- Replaying the choices that a run takes leads from its start to its end. -/
theorem Run.replays {start state : PlayerState} {attempts : List Attempt}
    (run : Run project start attempts state) :
    project.replayFrom start (takenIds attempts) = .ok state := by
  induction run with
  | begin => rfl
  | attempt choiceId outcome before selected inductionHypothesis =>
    cases outcome with
    | accepted choice next =>
      rw [takenIds_accepted, replayFrom_append, inductionHypothesis]
      exact replayFrom_accepted selected
    | rejected id refusal left =>
      obtain rfl := select_rejected_state selected
      rw [takenIds_rejected]
      exact inductionHypothesis

/-- Whatever is tried from the start of a story, the history is the list of the choices that
were taken, and replaying it gives the state it belongs to. -/
theorem history_replays {start state : PlayerState} {attempts : List Attempt}
    (started : project.reset = .ok start) (run : Run project start attempts state) :
    state.history = takenIds attempts ∧ project.replay state.history = .ok state := by
  have history : state.history = takenIds attempts := by
    obtain ⟨scene, _, rfl⟩ := (reset_ok_iff project start).mp started
    simpa using run.history
  refine ⟨history, ?_⟩
  rw [history, replay, started]
  exact run.replays

theorem history_replays_lamp :
    lampStory.reset = .ok { sceneId := "hall" } ∧
      Run lampStory { sceneId := "hall" } lampAttempts lampTaken ∧
      lampTaken.history = takenIds lampAttempts ∧
      lampStory.replay lampTaken.history = .ok lampTaken := by
  have started : lampStory.reset = .ok { sceneId := "hall" } := rfl
  exact ⟨started, lamp_run, history_replays started lamp_run⟩

end Gamebook.Project
