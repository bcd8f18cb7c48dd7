import Gamebook.Proofs.Analysis.Reachability
import Gamebook.Proofs.Play.History
import Gamebook.Proofs.Play.Validated

/-!
# Arriving at every scene

In a project without issues every scene is led to from the start, and without requirements and
consequences nothing locks a choice, so a player can follow the chain of choices. One choice of a
chain cannot be followed: the closure takes a choice for a way to the scene it names, even if
that name is the terminal target, at which play ends the story instead. So every scene of a
project without issues can be arrived at exactly when no scene but the start has the terminal
target for its id. No rule of validation asks for this.
-/

namespace Gamebook

/-! ## Projects without rules -/

/-- A choice that asks for nothing and changes nothing. -/
def Choice.ungated (choice : Choice) : Choice :=
  { choice with requirements := [], consequences := [] }

/-- A scene whose choices ask for nothing and change nothing. -/
def Scene.ungated (scene : Scene) : Scene :=
  { scene with choices := scene.choices.map Choice.ungated }

/-- A project whose choices ask for nothing and change nothing. -/
def Project.ungated (project : Project) : Project :=
  { project with scenes := project.scenes.map Scene.ungated }

/-- The rules of a choice take no part in looking it up. -/
theorem Scene.ungated_choice? (scene : Scene) (id : String) :
    scene.ungated.choice? id = (scene.choice? id).map Choice.ungated := List.find?_map ..

namespace Project

theorem ungated_scene? (project : Project) (id : String) :
    project.ungated.scene? id = (project.scene? id).map Scene.ungated := List.find?_map ..

theorem ungated_startScene? (project : Project) :
    project.ungated.startScene? = project.startScene?.map Scene.ungated := by
  cases named : project.startSceneId with
  | some id => simpa only [startScene?, ungated, named] using project.ungated_scene? id
  | none => simp only [startScene?, ungated, named, List.head?_map]

/-- A story starts in the same scene without its rules. -/
theorem ungated_reset {project : Project} {start : Scene}
    (found : project.startScene? = some start) :
    project.ungated.reset = .ok { sceneId := start.id } :=
  (reset_ok_iff _ _).mpr ⟨start.ungated, by rw [ungated_startScene?, found]; rfl, rfl⟩

variable {project : Project}

/-! ## Replays -/

/-- What every taken choice keeps, every replay keeps. -/
theorem replayFrom_keeps {state final : PlayerState} {choiceIds : List String}
    (replayed : project.replayFrom state choiceIds = .ok final) (Good : PlayerState → Prop)
    (good : Good state)
    (step : ∀ before choiceId choice next, Good before →
      project.select before choiceId = .ok (.accepted choice next) → Good next) : Good final := by
  induction choiceIds generalizing state with
  | nil => exact Except.ok.inj replayed ▸ good
  | cons choiceId rest inductionHypothesis =>
    rw [replayFrom] at replayed
    split at replayed
    · cases replayed
    · cases replayed
    next choice next selected =>
      exact inductionHypothesis replayed (step state choiceId choice next good selected)

/-- A replay goes on with a choice that is taken where it ends. -/
theorem replay_accepted {choiceIds : List String} {state next : PlayerState} {choiceId : String}
    {choice : Choice} (replayed : project.replay choiceIds = .ok state)
    (selected : project.select state choiceId = .ok (.accepted choice next)) :
    project.replay (choiceIds ++ [choiceId]) = .ok next := by
  unfold replay at replayed ⊢
  split at replayed
  next start started =>
    simp only [replayFrom_append, replayed]
    exact replayFrom_accepted selected
  next => nomatch replayed

/-- The scene a replay leads to is the start scene or named by a choice that does not end the
story. -/
theorem scene_of_replay {start : Scene} (found : project.startScene? = some start)
    {choiceIds : List String} {state : PlayerState}
    (replayed : project.replay choiceIds = .ok state) :
    state.sceneId = start.id ∨ state.sceneId ≠ terminalTarget := by
  have started := (reset_ok_iff project _).mpr ⟨start, found, rfl⟩
  rw [replay, started] at replayed
  refine replayFrom_keeps replayed
    (fun state => state.sceneId = start.id ∨ state.sceneId ≠ terminalTarget) (.inl rfl) ?_
  intro before choiceId choice next visited selected
  obtain ⟨_, store, _, _, _, _, _, rfl⟩ := taken_of_accepted selected
  cases ends : choice.isTerminal with
  | true => simpa [advance, ends] using visited
  | false =>
    have other : choice.target ≠ terminalTarget := by simpa [Choice.isTerminal] using ends
    exact .inr (by simpa [advance, ends] using other)

/-- Where nothing is asked of the player, a choice of the current scene can be taken as long as its
target is a scene. -/
theorem ungated_select (distinct : ∀ scene ∈ project.scenes, (scene.choices.map (·.id)).Nodup)
    {state : PlayerState} (active : state.status = .active) {scene : Scene}
    (here : project.scene? state.sceneId = some scene) {choice : Choice}
    (inScene : choice ∈ scene.choices) (known : choice.target ∈ project.sceneIds) :
    project.ungated.select state choice.id =
      .ok (.accepted choice.ungated (advance state choice.ungated state.store)) := by
  have found : scene.choice? choice.id = some choice :=
    Scene.choice?_of_mem (distinct scene (mem_of_scene? here)) inScene
  have current : project.ungated.currentChoice? state choice.id = some choice.ungated := by
    simp [currentChoice?, currentScene?, ungated_scene?, here, Scene.ungated_choice?, found]
  have reached : project.ungated.reaches choice.ungated = true := by
    have there : (project.scene? choice.target).isSome = true :=
      (scene?_isSome_iff project choice.target).mpr known
    simp [reaches, ungated_scene?, Choice.ungated, there]
  have taken : project.ungated.take state choice.ungated =
      .ok (.inr (advance state choice.ungated state.store)) :=
    (take_accepted_iff _ _ _ _).mpr ⟨rfl, reached, state.store, rfl, rfl⟩
  exact (select_accepted_iff _ _ _ _ _).mpr ⟨by simp [PlayerState.isEnded, active], current, taken⟩

/-! ## Following choices -/

/-- Some choices lead a player who nothing is asked of to a scene. -/
def Arrives (project : Project) (id : String) : Prop :=
  ∃ choiceIds state, project.ungated.replay choiceIds = .ok state ∧ state.sceneId = id

/-- A chain of choices can be followed by a player, unless a choice of it names a scene with
the terminal target for its id; the story goes on where the chain leads. -/
theorem LeadsTo.replays (structured : Validation.Structured project) {start : Scene}
    (found : project.startScene? = some start)
    (free : ∀ scene ∈ project.scenes, scene.id = terminalTarget →
      project.startScene? = some scene)
    {id : String} (leads : project.LeadsTo start.id id) :
    ∃ choiceIds state, project.ungated.replay choiceIds = .ok state ∧
      state.sceneId = id ∧ state.status = .active := by
  have atStart : project.ungated.replay [] = .ok { sceneId := start.id } := by
    rw [replay, ungated_reset found]
    rfl
  induction leads with
  | refl => exact ⟨[], _, atStart, rfl, rfl⟩
  | @tail id target _ step inductionHypothesis =>
    obtain ⟨choiceIds, state, replayed, rfl, active⟩ := inductionHypothesis
    obtain ⟨known, scene, here, choice, inScene, rfl⟩ :=
      (mem_successors_iff project _ target).mp step
    by_cases ends : choice.target = terminalTarget
    · -- The scene with the terminal target for its id is the start, where nothing has to be done.
      obtain ⟨named, isScene, same⟩ := List.mem_map.mp known
      have isStart : start = named :=
        Option.some.inj (found.symm.trans (free named isScene (same.trans ends)))
      exact ⟨[], _, atStart, isStart ▸ same, rfl⟩
    · have goesOn : choice.ungated.isTerminal = false := by
        simpa [Choice.ungated, Choice.isTerminal] using ends
      have selected := ungated_select structured.choiceIds active here inScene known
      refine ⟨choiceIds ++ [choice.id], _, replay_accepted replayed selected, ?_, ?_⟩
      · simp only [advance, goesOn, Bool.false_eq_true, if_false]
        rfl
      · simp only [advance, goesOn, Bool.false_eq_true, if_false]

end Project

/-! ## Projects without issues -/

/-- No scene is reported unreachable exactly when the start leads to all scenes. -/
theorem Validation.reachabilityIssues_eq_nil_iff {project : Project} {start : Scene}
    (found : project.startScene? = some start) :
    reachabilityIssues project = [] ↔ ∀ id ∈ project.sceneIds, project.LeadsTo start.id id := by
  have started : (Reachability.report project).start = some start.id := by
    simp only [Reachability.report, found]
  simp only [reachabilityIssues, started, Option.isNone_some, Bool.false_eq_true, if_false]
  rw [List.map_eq_nil_iff, List.eq_nil_iff_forall_not_mem]
  simp only [Reachability.mem_unreachable_iff found, not_and, not_not]

/-- A project has no issues at all exactly when it is structured and its start leads to all
scenes. -/
theorem Validation.issues_eq_nil_iff (project : Project) :
    (report project).issues = [] ↔ Structured project ∧
      ∃ start, project.startScene? = some start ∧
        ∀ id ∈ project.sceneIds, project.LeadsTo start.id id := by
  change errorIssues project ++ reachabilityIssues project = [] ↔ _
  rw [List.append_eq_nil_iff, errorIssues_eq_nil_iff]
  constructor
  · rintro ⟨structured, reached⟩
    obtain ⟨start, found⟩ := Project.startScene?_of_structured structured
    exact ⟨structured, start, found, (reachabilityIssues_eq_nil_iff found).mp reached⟩
  · rintro ⟨structured, start, found, leads⟩
    exact ⟨structured, (reachabilityIssues_eq_nil_iff found).mpr leads⟩

namespace Project

/-- In a project without issues a player who nothing is asked of can arrive at every scene exactly
when no scene but the start has the terminal target for its id. -/
theorem every_scene_arrives_iff {project : Project}
    (clean : (Validation.report project).issues = []) :
    (∀ scene ∈ project.scenes, project.Arrives scene.id) ↔
      ∀ scene ∈ project.scenes, scene.id = terminalTarget →
        project.startScene? = some scene := by
  obtain ⟨structured, start, found, leads⟩ := (Validation.issues_eq_nil_iff project).mp clean
  constructor
  · intro arrives scene isScene named
    obtain ⟨choiceIds, state, replayed, arrived⟩ := arrives scene isScene
    have foundUngated : project.ungated.startScene? = some start.ungated := by
      rw [ungated_startScene?, found]
      rfl
    have sameId : scene.id = start.id := by
      rcases scene_of_replay foundUngated replayed with atStart | other
      · exact arrived.symm.trans atStart
      · exact absurd (arrived.trans named) other
    have first := find?_key_of_mem Scene.id structured.sceneIds isScene
    rw [sameId, find?_key_of_mem Scene.id structured.sceneIds (mem_of_startScene? found)] at first
    exact found.trans first
  · intro free scene isScene
    obtain ⟨choiceIds, state, replayed, arrived, _⟩ :=
      (leads scene.id (List.mem_map_of_mem isScene)).replays structured found free
    exact ⟨choiceIds, state, replayed, arrived⟩

/-- Both scenes of the small story can be arrived at. -/
theorem every_scene_arrives_lamp :
    (Validation.report lampStory).issues = [] ∧ ∀ scene ∈ lampStory.scenes,
      lampStory.Arrives scene.id := by
  have down : lampStory.LeadsTo "hall" "cellar" := .single (by decide +kernel)
  have leads : ∀ id ∈ lampStory.sceneIds, lampStory.LeadsTo "hall" id := by
    intro id member
    obtain rfl | rfl : id = "hall" ∨ id = "cellar" := by simpa [sceneIds, lampStory] using member
    · exact .refl
    · exact down
  have clean : (Validation.report lampStory).issues = [] :=
    (Validation.issues_eq_nil_iff lampStory).mpr
      ⟨Validation.lampStory_structured, lampStory.scenes[0], rfl, leads⟩
  exact ⟨clean, (every_scene_arrives_iff clean).mpr (by decide +kernel)⟩

/-- A story whose only choice ends it, with an epilogue that has the terminal target for its
id. -/
def epilogueStory : Project :=
  { lampStory with
    scenes :=
      [{ id := "start", title := "Start", choices := [{ id := "leave", text := "Leave" }] },
        { id := terminalTarget, title := "Epilogue" }]
    declared := [] }

/-- The epilogue raises no issue, and no choices lead there. -/
theorem epilogue_never_arrives :
    (Validation.report epilogueStory).issues = [] ∧
      ∃ scene ∈ epilogueStory.scenes, ¬epilogueStory.Arrives scene.id := by
  have structured : Validation.Structured epilogueStory :=
    ⟨by decide, by decide, by decide, by decide, by decide, by decide, by decide, by decide⟩
  have leave : epilogueStory.LeadsTo "start" terminalTarget := .single (by decide +kernel)
  have leads : ∀ id ∈ epilogueStory.sceneIds, epilogueStory.LeadsTo "start" id := by
    intro id member
    obtain rfl | rfl : id = "start" ∨ id = terminalTarget := by
      simpa [sceneIds, epilogueStory] using member
    · exact .refl
    · exact leave
  refine ⟨(Validation.issues_eq_nil_iff epilogueStory).mpr
    ⟨structured, epilogueStory.scenes[0], rfl, leads⟩, epilogueStory.scenes[1], by decide, ?_⟩
  rintro ⟨choiceIds, state, replayed, arrived⟩
  have found : epilogueStory.ungated.startScene? = some epilogueStory.scenes[0].ungated := rfl
  rcases scene_of_replay found replayed with atStart | other
  · exact absurd (arrived.symm.trans atStart) (by decide)
  · exact other arrived

end Project

end Gamebook
