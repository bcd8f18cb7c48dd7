import Mathlib.Data.List.Induction
import Gamebook.Proofs.Play.History

/-!
# Where a replay ends

A replay takes its choices one after the other, each in the state that the ones before it lead to.
Of a story that can be started it takes all of them, or it ends at the first choice that is refused
or that a number stops, for the reason that the engine gives there.
-/

namespace Gamebook.Project

/-- A replay comes to a choice in a state: the choices before it lead there. -/
def ComesTo (project : Project) (choiceIds : List String) (state : PlayerState)
    (choiceId : String) : Prop :=
  ∃ taken, taken ++ [choiceId] <+: choiceIds ∧ project.replay taken = .ok state

variable {project : Project} {choiceIds : List String} {state : PlayerState} {choiceId : String}

/-- After choices that are taken, a replay goes on in the state they lead to. -/
theorem replay_append {taken : List String} (replayed : project.replay taken = .ok state)
    (later : List String) :
    project.replay (taken ++ later) = project.replayFrom state later := by
  unfold replay at replayed ⊢
  cases begun : project.reset with
  | error issue => simp [begun] at replayed
  | ok start =>
    have reached : project.replayFrom start taken = .ok state := by simpa [begun] using replayed
    simp only [replayFrom_append, reached]
    rfl

theorem ComesTo.replay_eq (comes : project.ComesTo choiceIds state choiceId) :
    ∃ rest, project.replay choiceIds = project.replayFrom state (choiceId :: rest) := by
  obtain ⟨taken, ⟨rest, rfl⟩, replayed⟩ := comes
  refine ⟨rest, ?_⟩
  rw [List.append_assoc]
  exact replay_append replayed ([choiceId] ++ rest)

theorem starts_of_replay {choiceIds : List String} {state : PlayerState}
    (replayed : project.replay choiceIds = .ok state) : project.startScene?.isSome = true := by
  unfold replay at replayed
  cases begun : project.reset with
  | error issue => simp [begun] at replayed
  | ok start => exact (startScene?_isSome_iff project).mpr ⟨start, begun⟩

theorem ComesTo.starts (comes : project.ComesTo choiceIds state choiceId) :
    project.startScene?.isSome = true := by
  obtain ⟨_, _, replayed⟩ := comes
  exact starts_of_replay replayed

theorem ComesTo.replay_of_rejected (comes : project.ComesTo choiceIds state choiceId)
    {refusal : Refusal} {left : PlayerState}
    (refused : project.select state choiceId = .ok (.rejected choiceId refusal left)) :
    project.replay choiceIds = .error (.rejected choiceId refusal) := by
  obtain ⟨rest, same⟩ := comes.replay_eq
  rw [same, replayFrom, refused]

theorem ComesTo.replay_of_error (comes : project.ComesTo choiceIds state choiceId)
    {fault : NumberFault} (stopped : project.select state choiceId = .error fault) :
    project.replay choiceIds = .error (.number fault) := by
  obtain ⟨rest, same⟩ := comes.replay_eq
  rw [same, replayFrom, stopped]

/-- A replay from the start takes all choices, or it comes to one that is refused or that a number
stops. -/
theorem replay_cases (starts : project.startScene?.isSome = true) (choiceIds : List String) :
    (∃ final, project.replay choiceIds = .ok final) ∨
      ∃ state choiceId, project.ComesTo choiceIds state choiceId ∧
        ((∃ refusal left, project.select state choiceId = .ok (.rejected choiceId refusal left)) ∨
          ∃ fault, project.select state choiceId = .error fault) := by
  obtain ⟨start, begun⟩ := (startScene?_isSome_iff project).mp starts
  -- The choices are split off at the end: what the others came to decides first.
  induction choiceIds using List.reverseRecOn with
  | nil => exact .inl ⟨_, by rw [replay, begun]; rfl⟩
  | append_singleton taken last inductionHypothesis =>
    rcases inductionHypothesis with ⟨state, replayed⟩ | ⟨state, choiceId, comes, stops⟩
    · have goesOn : project.ComesTo (taken ++ [last]) state last :=
        ⟨taken, List.prefix_rfl, replayed⟩
      cases selected : project.select state last with
      | error fault => exact .inr ⟨state, last, goesOn, .inr ⟨fault, selected⟩⟩
      | ok outcome =>
        rcases select_cases selected with ⟨choice, next, rfl, _⟩ | ⟨refusal, rfl, _⟩
        · exact .inl ⟨next, by rw [replay_append replayed, replayFrom_accepted selected]⟩
        · exact .inr ⟨state, last, goesOn, .inl ⟨refusal, state, selected⟩⟩
    · obtain ⟨earlier, isPrefix, replayed⟩ := comes
      exact .inr ⟨state, choiceId, ⟨earlier, isPrefix.trans (List.prefix_append _ _), replayed⟩,
        stops⟩

end Gamebook.Project
