import Mathlib.Data.List.Perm.Subperm
import Mathlib.Logic.Relation
import Gamebook.Analysis.Reachability
import Gamebook.Proofs.Play.SavedState
import Gamebook.Proofs.Story.Lookup
import Gamebook.Proofs.Text.Order

/-!
# The scenes that choices lead to

One scene leads to another when a chain of choices does, requirements aside; a choice counts
when its target is a scene of the project, and of several scenes with one id only the first has
choices. The closure finds exactly the ids that the start leads to: each round but the last
adds one of finitely many ids, so the rounds are enough, and a round that adds nothing shows
that no choice leads out of what was found. Play moves along these choices only, so it never
visits a scene that is reported unreachable. Nothing is asked of the project but a start.
-/

namespace Gamebook

namespace Project

variable {project : Project}

/-- Whether a chain of choices leads from one scene id to another. -/
def LeadsTo (project : Project) : String → String → Prop :=
  Relation.ReflTransGen fun id target => target ∈ project.successors id

/-- The successors of an id are the scenes of the project that a choice of its first scene
names. -/
theorem mem_successors_iff (project : Project) (id target : String) :
    target ∈ project.successors id ↔ target ∈ project.sceneIds ∧
      ∃ scene, project.scene? id = some scene ∧
        ∃ choice ∈ scene.choices, choice.target = target := by
  unfold successors
  cases project.scene? id with
  | none => simp
  | some scene => simp [and_comm]

/-- A chain of choices never leaves the scenes of the project. -/
theorem LeadsTo.mem_sceneIds {start id : String} (leads : project.LeadsTo start id)
    (known : start ∈ project.sceneIds) : id ∈ project.sceneIds := by
  cases leads with
  | refl => exact known
  | tail _ step => exact ((mem_successors_iff project _ id).mp step).1

end Project

namespace Reachability

variable {project : Project}

/-! ## Rounds -/

/-- A round keeps what was found and adds the successors of all of it. -/
theorem mem_grow_iff (project : Project) (found : List String) (target : String) :
    target ∈ grow project found ↔
      target ∈ found ∨ ∃ id ∈ found, target ∈ project.successors id := by
  rw [grow, List.mem_eraseDups, List.mem_append, List.mem_flatMap]

theorem grow_nodup (project : Project) (found : List String) : (grow project found).Nodup :=
  eraseDups_nodup _

theorem subset_grow (project : Project) (found : List String) : found ⊆ grow project found :=
  fun id member => (mem_grow_iff project found id).mpr (.inl member)

/-- A round finds no ids but those of scenes. -/
theorem grow_known {found : List String} (known : found ⊆ project.sceneIds) :
    grow project found ⊆ project.sceneIds := by
  intro target member
  rcases (mem_grow_iff project found target).mp member with old | ⟨id, _, step⟩
  · exact known old
  · exact ((Project.mem_successors_iff project id target).mp step).1

/-- A round that adds nothing has met no choice that leads out of what was found. -/
theorem closed_of_grow_length {found : List String} (distinct : found.Nodup)
    (nothingNew : (grow project found).length = found.length) {id target : String}
    (member : id ∈ found) (step : target ∈ project.successors id) : target ∈ found := by
  have same : found.Perm (grow project found) :=
    (List.subperm_of_subset distinct (subset_grow project found)).perm_of_length_le
      (Nat.le_of_eq nothingNew)
  exact same.mem_iff.mpr ((mem_grow_iff project found target).mpr (.inr ⟨id, member, step⟩))

/-- A round that adds something makes the list longer. -/
theorem length_lt_grow {found : List String} (distinct : found.Nodup)
    (something : (grow project found).length ≠ found.length) :
    found.length < (grow project found).length := by
  have atLeast := (List.subperm_of_subset distinct (subset_grow project found)).length_le
  omega

/-! ## The closure -/

/-- The closure keeps what was found before. -/
theorem subset_closure (project : Project) (rounds : Nat) (found : List String) :
    found ⊆ closure project rounds found := by
  induction rounds generalizing found with
  | zero => exact List.Subset.refl found
  | succ rounds inductionHypothesis =>
    simp only [closure]
    split
    · exact List.Subset.refl found
    · exact List.Subset.trans (subset_grow project found) (inductionHypothesis _)

/-- Everything in the closure is led to from what was found before. -/
theorem leads_of_mem_closure {rounds : Nat} {found : List String} {target : String}
    (member : target ∈ closure project rounds found) :
    ∃ id ∈ found, project.LeadsTo id target := by
  induction rounds generalizing found with
  | zero => exact ⟨target, member, .refl⟩
  | succ rounds inductionHypothesis =>
    simp only [closure] at member
    split at member
    · exact ⟨target, member, .refl⟩
    · obtain ⟨middle, inGrown, leads⟩ := inductionHypothesis member
      rcases (mem_grow_iff project found middle).mp inGrown with old | ⟨id, inFound, step⟩
      · exact ⟨middle, old, leads⟩
      · exact ⟨id, inFound, .head step leads⟩

/-- No choice leads out of the closure, as long as every id has a round or was found before. -/
theorem closure_closed {rounds : Nat} {found : List String} (distinct : found.Nodup)
    (known : found ⊆ project.sceneIds)
    (enough : project.sceneIds.length ≤ rounds + found.length) {id target : String}
    (member : id ∈ closure project rounds found) (step : target ∈ project.successors id) :
    target ∈ closure project rounds found := by
  induction rounds generalizing found with
  | zero =>
    -- Without a round left, all ids have been found.
    have all : found.Perm project.sceneIds :=
      (List.subperm_of_subset distinct known).perm_of_length_le (by omega)
    exact all.mem_iff.mpr ((Project.mem_successors_iff project id target).mp step).1
  | succ rounds inductionHypothesis =>
    by_cases nothingNew : (grow project found).length = found.length
    · simp only [closure, nothingNew, if_true] at member ⊢
      exact closed_of_grow_length distinct nothingNew member step
    · have longer := length_lt_grow distinct nothingNew
      simp only [closure, nothingNew, if_false] at member ⊢
      exact inductionHypothesis (grow_nodup project found) (grow_known known) (by omega) member

/-- With a round for each scene, the closure of a scene holds exactly the ids it leads to. -/
theorem mem_closure_iff {start : String} (known : start ∈ project.sceneIds) (target : String) :
    target ∈ closure project project.scenes.length [start] ↔ project.LeadsTo start target := by
  constructor
  · intro member
    obtain ⟨id, isStart, leads⟩ := leads_of_mem_closure member
    exact List.mem_singleton.mp isStart ▸ leads
  · intro leads
    induction leads with
    | refl => exact subset_closure project _ _ List.mem_cons_self
    | tail _ step inductionHypothesis =>
      have enough : project.sceneIds.length ≤ project.scenes.length + [start].length := by
        simp [Project.sceneIds]
      exact closure_closed (by simp) (by simpa using known) enough
        inductionHypothesis step

/-! ## The report -/

/-- The reachable scenes of a report are those the start scene leads to. -/
theorem mem_reachable_iff {start : Scene} (started : project.startScene? = some start)
    (id : String) :
    id ∈ (report project).reachable ↔ project.LeadsTo start.id id := by
  have known := Project.id_mem_of_startScene? started
  simp only [report, started, List.mem_filter, mem_sortedSet, List.contains_iff_mem,
    mem_closure_iff known]
  exact ⟨fun both => both.2, fun leads => ⟨leads.mem_sceneIds known, leads⟩⟩

/-- All other scenes are reported unreachable. -/
theorem mem_unreachable_iff {start : Scene} (started : project.startScene? = some start)
    (id : String) :
    id ∈ (report project).unreachable ↔
      id ∈ project.sceneIds ∧ ¬project.LeadsTo start.id id := by
  have known := Project.id_mem_of_startScene? started
  simp only [report, started, List.mem_filter, mem_sortedSet, List.contains_eq_mem,
    mem_closure_iff known, Bool.not_eq_true', decide_eq_false_iff_not]

/-- No scene is reported unreachable twice. -/
theorem unreachable_nodup (project : Project) : (report project).unreachable.Nodup := by
  simp only [report]
  split
  · exact sortedSet_nodup _
  · exact (sortedSet_nodup _).filter _

end Reachability

/-! ## Play -/

namespace Project

variable {project : Project}

/-- A choice that is taken leads on to a successor of the current scene, or stays there. -/
theorem leads_of_accepted {state next : PlayerState} {choiceId : String} {choice : Choice}
    (selected : project.select state choiceId = .ok (.accepted choice next)) :
    project.LeadsTo state.sceneId next.sceneId := by
  obtain ⟨scene, store, here, inScene, _, reached, _, rfl⟩ := taken_of_accepted selected
  cases ends : choice.isTerminal with
  | true =>
    have stays : (advance state choice store).sceneId = state.sceneId := by simp [advance, ends]
    exact stays ▸ .refl
  | false =>
    have moves : (advance state choice store).sceneId = choice.target := by simp [advance, ends]
    have known : choice.target ∈ project.sceneIds := by
      simpa [reaches, ends, scene?_isSome_iff] using reached
    rw [moves]
    exact .single ((mem_successors_iff _ _ _).mpr ⟨known, scene, here, choice, inScene, rfl⟩)

/-- A run only visits scenes that its start leads to. -/
theorem Run.leads {start state : PlayerState} {attempts : List Attempt}
    (run : Run project start attempts state) : project.LeadsTo start.sceneId state.sceneId :=
  run.keeps (fun state => project.LeadsTo start.sceneId state.sceneId) .refl
    fun _ _ _ _ leads selected => leads.trans (leads_of_accepted selected)

/-- Wherever a run from the start of a story is, its scene is reported reachable, and no scene that
is reported unreachable is ever visited. -/
theorem visited_scene_reachable {start state : PlayerState} {attempts : List Attempt}
    (started : project.reset = .ok start) (run : Run project start attempts state) :
    state.sceneId ∈ (Reachability.report project).reachable ∧
      state.sceneId ∉ (Reachability.report project).unreachable := by
  obtain ⟨scene, found, rfl⟩ := (reset_ok_iff project start).mp started
  have leads : project.LeadsTo scene.id state.sceneId := run.leads
  rw [Reachability.mem_reachable_iff found, Reachability.mem_unreachable_iff found]
  exact ⟨leads, fun unreachable => unreachable.2 leads⟩

/-- The lamp is taken and carried down; the cellar is where the run is, and it is reachable. -/
theorem visited_scene_reachable_cellar :
    lampStory.reset = .ok { sceneId := "hall" } ∧ ∃ attempts state,
      Run lampStory { sceneId := "hall" } attempts state ∧ state.sceneId = "cellar" ∧
      "cellar" ∈ (Reachability.report lampStory).reachable ∧
      "cellar" ∉ (Reachability.report lampStory).unreachable := by
  have started : lampStory.reset = .ok { sceneId := "hall" } := rfl
  let below : PlayerState := {
    sceneId := "cellar"
    values := [("lamp", .int 1), ("courage", .int 0), ("lit", .bool true)]
    kinds := lampTaken.kinds
    history := ["take", "down"] }
  have run : Run lampStory { sceneId := "hall" } _ below :=
    .attempt "down" (.accepted (lampStory.scenes[0].choices[1]) below) lamp_run rfl
  exact ⟨started, _, below, run, rfl, visited_scene_reachable started run⟩

end Project

end Gamebook
