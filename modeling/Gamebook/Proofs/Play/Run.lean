import Gamebook.Play.Session
import Gamebook.Proofs.Fallible

/-!
# Runs of a playthrough

A run feeds choices to the engine one after the other. A choice that is taken gives the
next state, a choice that is refused leaves the state as it was, and a fault of
arithmetic ends the run before it. What a choice can do is said once here, by the exact
condition under which it is taken; invariants of runs are derived from it.
-/

namespace Gamebook

namespace Project

/-- The choices fed so far with what became of them, and the state they lead to. -/
inductive Run (project : Project) (start : PlayerState) : List Attempt → PlayerState → Prop
  | begin : Run project start [] start
  | attempt {attempts : List Attempt} {state : PlayerState} (choiceId : String)
      (outcome : Outcome) (before : Run project start attempts state)
      (selected : project.select state choiceId = .ok outcome) :
      Run project start (attempts ++ [⟨choiceId, outcome⟩]) outcome.state

/-- Some choice of the run was taken. -/
def HasTaken (attempts : List Attempt) : Prop :=
  ∃ attempt ∈ attempts, attempt.outcome.isAccepted = true

/-- A choice of the current scene is taken exactly when its requirements hold, its target is
there and its consequences can be applied, and the next state follows from the store they
leave. -/
theorem take_accepted_iff (project : Project) (state next : PlayerState) (choice : Choice) :
    project.take state choice = .ok (.inr next) ↔
      firstReason? state choice.requirements = .ok none ∧ project.reaches choice = true ∧
        ∃ store, applyAll state.store choice.consequences = .ok (.store store) ∧
          next = advance state choice store := by
  unfold take
  cases judged : firstReason? state choice.requirements with
  | error fault => simp
  | ok reason =>
    cases reason with
    | some reason => simp
    | none =>
      by_cases reached : project.reaches choice = true
      · cases applied : applyAll state.store choice.consequences with
        | error fault => simp [reached]
        | ok result => cases result <;> simp [reached, eq_comm]
      · simp [reached]

/-- A choice of the current scene is refused for the reason that its requirements give, for its
target, or for what its consequences come to, in this order. -/
theorem take_refused_iff (project : Project) (state : PlayerState) (choice : Choice)
    (refusal : Refusal) :
    project.take state choice = .ok (.inl refusal) ↔
      (∃ reason, firstReason? state choice.requirements = .ok (some reason) ∧
        refusal = .unmet reason) ∨
      firstReason? state choice.requirements = .ok none ∧
        ((project.reaches choice = false ∧ refusal = .missingTarget choice.target) ∨
          (project.reaches choice = true ∧ ∃ effect,
            applyAll state.store choice.consequences = .ok (.refused effect) ∧
            refusal = .effect effect)) := by
  unfold take
  cases judged : firstReason? state choice.requirements with
  | error fault => simp
  | ok reason =>
    cases reason with
    | some reason => simpa using eq_comm
    | none =>
      cases reached : project.reaches choice with
      | false => simpa using eq_comm
      | true =>
        cases applied : applyAll state.store choice.consequences with
        | error fault => simp
        | ok result =>
          cases result with
          | store store => simp
          | refused effect => simpa using eq_comm

/-- Everything that a choice can come to: it is taken, or it is refused for one of three
reasons and the state is given back. -/
theorem select_cases {project : Project} {state : PlayerState} {choiceId : String}
    {outcome : Outcome} (selected : project.select state choiceId = .ok outcome) :
    (∃ choice next, outcome = .accepted choice next ∧ state.isEnded = false ∧
      project.currentChoice? state choiceId = some choice ∧
      project.take state choice = .ok (.inr next)) ∨
    ∃ refusal, outcome = .rejected choiceId refusal state ∧
      ((state.isEnded = true ∧ refusal = .ended) ∨
        (state.isEnded = false ∧ project.currentChoice? state choiceId = none ∧
          refusal = project.strangerRefusal state choiceId) ∨
        (state.isEnded = false ∧ ∃ choice, project.currentChoice? state choiceId = some choice ∧
          project.take state choice = .ok (.inl refusal))) := by
  unfold select at selected
  cases ended : state.isEnded with
  | true =>
    have same : Outcome.rejected choiceId .ended state = outcome := by simpa [ended] using selected
    exact .inr ⟨.ended, same.symm, .inl ⟨rfl, rfl⟩⟩
  | false =>
    cases found : project.currentChoice? state choiceId with
    | none =>
      have same : Outcome.rejected choiceId (project.strangerRefusal state choiceId) state =
          outcome := by simpa [ended, found] using selected
      exact .inr ⟨_, same.symm, .inr (.inl ⟨rfl, rfl, rfl⟩)⟩
    | some choice =>
      simp only [ended, found, Bool.false_eq_true, if_false, Except.map_ok_iff] at selected
      obtain ⟨refusal | next, taken, rfl⟩ := selected
      · exact .inr ⟨refusal, rfl, .inr (.inr ⟨rfl, choice, rfl, taken⟩)⟩
      · exact .inl ⟨choice, next, rfl, rfl, rfl, taken⟩

/-- A choice is taken exactly when the story goes on, the current scene has it and the scene's
choice is taken. -/
theorem select_accepted_iff (project : Project) (state next : PlayerState) (choiceId : String)
    (choice : Choice) :
    project.select state choiceId = .ok (.accepted choice next) ↔
      state.isEnded = false ∧ project.currentChoice? state choiceId = some choice ∧
        project.take state choice = .ok (.inr next) := by
  constructor
  · intro selected
    rcases select_cases selected with ⟨_, _, same, active, found, taken⟩ | ⟨_, same, _⟩
    · obtain ⟨rfl, rfl⟩ := Outcome.accepted.inj same
      exact ⟨active, found, taken⟩
    · nomatch same
  · rintro ⟨active, found, taken⟩
    simp [select, active, found, taken, Except.map]

/-- Where a choice that is taken comes from and what it leaves: it is the first with its id in
the first scene with the current id, its target is there, and its consequences leave a store. -/
structure Taken (project : Project) (state next : PlayerState) (choiceId : String)
    (choice : Choice) (scene : Scene) (store : Store) : Prop where
  here : project.scene? state.sceneId = some scene
  inScene : choice ∈ scene.choices
  named : choice.id = choiceId
  reached : project.reaches choice = true
  applied : applyAll state.store choice.consequences = .ok (.store store)
  next : next = advance state choice store

theorem taken_of_accepted {project : Project} {state next : PlayerState} {choiceId : String}
    {choice : Choice} (selected : project.select state choiceId = .ok (.accepted choice next)) :
    ∃ scene store, Taken project state next choiceId choice scene store := by
  obtain ⟨_, current, taken⟩ := (select_accepted_iff _ _ _ _ _).mp selected
  obtain ⟨scene, here, offered⟩ := Option.bind_eq_some_iff.mp current
  obtain ⟨_, reached, store, applied, next⟩ := (take_accepted_iff _ _ _ _).mp taken
  exact ⟨scene, store, here, List.mem_of_find?_eq_some offered,
    by simpa using List.find?_some offered, reached, applied, next⟩

/-- A refused choice gives back the state it was tried in. -/
theorem select_rejected_state {project : Project} {state left : PlayerState}
    {choiceId id : String} {refusal : Refusal}
    (selected : project.select state choiceId = .ok (.rejected id refusal left)) :
    left = state := by
  rcases select_cases selected with ⟨_, _, same, _⟩ | ⟨_, same, _⟩
  · nomatch same
  · exact (Outcome.rejected.inj same).2.2

/-- What every taken choice keeps, every run keeps: refused choices change nothing. -/
theorem Run.keeps {project : Project} {start state : PlayerState} {attempts : List Attempt}
    (run : Run project start attempts state) (Good : PlayerState → Prop) (good : Good start)
    (step : ∀ before choiceId choice next, Good before →
      project.select before choiceId = .ok (.accepted choice next) → Good next) :
    Good state := by
  induction run with
  | begin => exact good
  | attempt choiceId outcome before selected inductionHypothesis =>
    cases outcome with
    | accepted choice next => exact step _ choiceId choice next inductionHypothesis selected
    | rejected id refusal left =>
      obtain rfl := select_rejected_state selected
      exact inductionHypothesis

end Project

end Gamebook
