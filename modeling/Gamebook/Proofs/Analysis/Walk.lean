import Mathlib.Data.Prod.Lex
import Mathlib.Order.Bounds.Basic
import Gamebook.Proofs.Analysis.Reachability

/-!
# Walking over scenes

The reachable ids are the least set that holds the start and, with an id, every scene that a choice
of the first scene with this id names. The report finds them in rounds. Here they are also found one
by one: a walk keeps the ids that are pending and those that it has visited, takes one of the
pending ids and visits it, or drops it when it was visited before. An id may be pending many times
over, and may come up again after its visit. Yet a walk ends in whatever order it takes the ids,
because a visit leaves fewer scenes to visit and a drop leaves fewer ids pending; and what it has
visited then is what the report lists. Cycles, targets that are no scenes and several scenes with
one id are included.
-/

namespace Gamebook

/-! ## The least set -/

/-- No choice leads out of a set of ids: with an id it holds every scene of the project that a
choice of the first scene with this id names. -/
def Project.Closed (project : Project) (ids : Set String) : Prop :=
  ∀ id ∈ ids, ∀ scene, project.scene? id = some scene →
    ∀ choice ∈ scene.choices, choice.target ∈ project.sceneIds → choice.target ∈ ids

/-- The ids that a start leads to are the least closed set that holds it. -/
theorem Project.leadsTo_isLeast (project : Project) (start : String) :
    IsLeast {ids | start ∈ ids ∧ project.Closed ids} {id | project.LeadsTo start id} := by
  refine ⟨⟨.refl, ?_⟩, ?_⟩
  · intro id leads scene here choice inScene known
    exact leads.tail ((mem_successors_iff project id _).mpr
      ⟨known, scene, here, choice, inScene, rfl⟩)
  · rintro ids ⟨started, closed⟩ id leads
    induction leads with
    | refl => exact started
    | tail _ step inductionHypothesis =>
      obtain ⟨known, scene, here, choice, inScene, rfl⟩ := (mem_successors_iff project _ _).mp step
      exact closed _ inductionHypothesis scene here choice inScene known

namespace Reachability

variable {project : Project} {start : String}

/-- An id that no scene has leads nowhere. -/
theorem successors_eq_nil {id : String} (noScene : id ∉ project.sceneIds) :
    project.successors id = [] := by
  refine List.eq_nil_iff_forall_not_mem.mpr fun target step => noScene ?_
  obtain ⟨_, scene, here, _⟩ := (Project.mem_successors_iff project id target).mp step
  exact (Project.scene?_isSome_iff project id).mp (by rw [here]; rfl)

/-! ## Steps -/

/-- The ids that are pending, and those that were visited. -/
structure Walk where
  pending : List String
  visited : List String

namespace Walk

variable {walk next last : Walk}

/-- A step takes an id from any place among those pending. An id that was visited before is dropped.
Any other is visited, and its successors that were not visited take its place. -/
inductive Step (project : Project) : Walk → Walk → Prop
  | drop (before after visited : List String) (id : String) (known : id ∈ visited) :
      Step project ⟨before ++ id :: after, visited⟩ ⟨before ++ after, visited⟩
  | visit (before after visited : List String) (id : String) (fresh : id ∉ visited) :
      Step project ⟨before ++ id :: after, visited⟩
        ⟨before ++ (project.successors id).filter (· ∉ id :: visited) ++ after, id :: visited⟩

/-- Any number of steps. -/
def Steps (project : Project) : Walk → Walk → Prop := Relation.ReflTransGen (Step project)

/-- A walk before its first step. -/
def begin (start : String) : Walk := ⟨[start], []⟩

/-! ## Every walk ends -/

/-- How many scenes are still to be visited. -/
def unvisited (project : Project) (walk : Walk) : Nat :=
  (project.sceneIds.filter (· ∉ walk.visited)).length

/-- A step leaves fewer scenes to visit, or as many of them and fewer ids pending. The second is the
case also for a visit to an id that no scene has: it adds nothing. -/
theorem Step.decreases (step : Step project walk next) :
    Prod.Lex (· < ·) (· < ·) (next.unvisited project, next.pending.length)
      (walk.unvisited project, walk.pending.length) := by
  cases step with
  | drop before after visited id known => exact .right _ (by simp)
  | visit before after visited id fresh =>
    by_cases isScene : id ∈ project.sceneIds
    · have without : project.sceneIds.filter (· ∉ id :: visited) =
          (project.sceneIds.filter (· ∉ visited)).filter (· ≠ id) := by
        simp [List.filter_filter]
      refine .left _ _ ?_
      simp only [unvisited, without]
      rw [List.length_filter_lt_length_iff_exists]
      exact ⟨id, List.mem_filter.mpr ⟨isScene, by simpa using fresh⟩, by simp⟩
    · have nothing : project.successors id = [] := successors_eq_nil isScene
      have same : project.sceneIds.filter (· ∉ id :: visited) =
          project.sceneIds.filter (· ∉ visited) := by
        refine List.filter_congr fun other isOther => ?_
        have different : other ≠ id := fun isId => isScene (isId ▸ isOther)
        simp [different]
      simp only [unvisited, same, nothing]
      exact .right _ (by simp)

theorem step_wellFounded (project : Project) :
    WellFounded fun next walk : Walk => Step project walk next :=
  Subrelation.wf (fun step => Step.decreases step)
    (InvImage.wf (fun walk : Walk => (walk.unvisited project, walk.pending.length))
      (WellFounded.prod_lex Nat.lt_wfRel.wf Nat.lt_wfRel.wf))

/-- While something is pending there is a next step. -/
theorem exists_step (goesOn : walk.pending ≠ []) : ∃ next, Step project walk next := by
  obtain ⟨_ | ⟨id, after⟩, visited⟩ := walk
  · exact absurd rfl goesOn
  · by_cases known : id ∈ visited
    · exact ⟨_, .drop [] after visited id known⟩
    · exact ⟨_, .visit [] after visited id known⟩

/-- From everywhere a walk comes to its end. -/
theorem exists_end (project : Project) (walk : Walk) :
    ∃ last, Steps project walk last ∧ last.pending = [] := by
  induction walk using (step_wellFounded project).induction with
  | _ walk inductionHypothesis =>
    by_cases ended : walk.pending = []
    · exact ⟨walk, .refl, ended⟩
    · obtain ⟨next, step⟩ := exists_step ended
      obtain ⟨last, steps, atEnd⟩ := inductionHypothesis next step
      exact ⟨last, .head step steps, atEnd⟩

/-! ## What a walk has visited -/

/-- An id that is pending or was visited. -/
def Met (walk : Walk) (id : String) : Prop := id ∈ walk.pending ∨ id ∈ walk.visited

/-- What every step keeps: the walk has met its start and nothing but ids that the start leads to,
and it has met all successors of the ids that it has visited. -/
structure Tracks (project : Project) (start : String) (walk : Walk) : Prop where
  started : walk.Met start
  led : ∀ id, walk.Met id → project.LeadsTo start id
  followed : ∀ id ∈ walk.visited, ∀ target ∈ project.successors id, walk.Met target

theorem begin_tracks (project : Project) (start : String) :
    Tracks project start (begin start) where
  started := .inl List.mem_cons_self
  led := by
    rintro id (isStart | visited)
    · exact List.mem_singleton.mp isStart ▸ .refl
    · exact absurd visited List.not_mem_nil
  followed := fun _ visited => absurd visited List.not_mem_nil

/-- What is dropped stays met, and what is visited has its successors met. -/
theorem Step.tracks (step : Step project walk next) (tracks : Tracks project start walk) :
    Tracks project start next := by
  obtain ⟨started, led, followed⟩ := tracks
  cases step with
  | drop before after visited id known =>
    have met (other : String) : Met ⟨before ++ after, visited⟩ other ↔
        Met ⟨before ++ id :: after, visited⟩ other := by
      simp only [Met, List.mem_append, List.mem_cons]
      by_cases same : other = id <;> simp [same, known]
    exact ⟨(met _).mpr started, fun other isMet => led other ((met other).mp isMet),
      fun other visited target step => (met target).mpr (followed other visited target step)⟩
  | visit before after visited id fresh =>
    have met (other : String) :
        Met ⟨before ++ (project.successors id).filter (· ∉ id :: visited) ++ after, id :: visited⟩
          other ↔ Met ⟨before ++ id :: after, visited⟩ other ∨ other ∈ project.successors id := by
      simp only [Met, List.mem_append, List.mem_cons, List.mem_filter, decide_eq_true_eq]
      tauto
    refine ⟨(met _).mpr (.inl started), fun other isMet => ?_,
      fun other isVisited target step => ?_⟩
    · rcases (met other).mp isMet with before | step
      · exact led other before
      · exact (led id (.inl (by simp))).tail step
    · rcases List.mem_cons.mp isVisited with rfl | before
      · exact (met target).mpr (.inr step)
      · exact (met target).mpr (.inl (followed other before target step))

theorem Steps.tracks (steps : Steps project walk last) (tracks : Tracks project start walk) :
    Tracks project start last := by
  induction steps with
  | refl => exact tracks
  | tail _ step inductionHypothesis => exact step.tracks inductionHypothesis

/-- When nothing is pending any more, a walk has visited exactly what its start leads to. -/
theorem Tracks.mem_visited_iff (tracks : Tracks project start walk) (ended : walk.pending = [])
    (id : String) : id ∈ walk.visited ↔ project.LeadsTo start id := by
  have visited_of_met {id : String} (met : walk.Met id) : id ∈ walk.visited := by
    rcases met with pending | visited
    · simp [ended] at pending
    · exact visited
  constructor
  · exact fun visited => tracks.led id (.inr visited)
  · intro leads
    induction leads with
    | refl => exact visited_of_met tracks.started
    | tail _ step inductionHypothesis =>
      exact visited_of_met (tracks.followed _ inductionHypothesis _ step)

end Walk

/-! ## Rounds -/

/-- With a round for every id that was not found, the rounds have come to rest. -/
theorem closure_stable {rounds : Nat} {found : List String} (distinct : found.Nodup)
    (known : found ⊆ project.sceneIds)
    (enough : project.sceneIds.length ≤ rounds + found.length) (more : Nat) :
    closure project (rounds + more) found = closure project rounds found := by
  induction rounds generalizing found with
  | zero =>
    cases more with
    | zero => rfl
    | succ more =>
      -- All ids have been found, so the next round cannot make the list longer.
      have most := (List.subperm_of_subset (grow_nodup project found) (grow_known known)).length_le
      have least := (List.subperm_of_subset distinct (subset_grow project found)).length_le
      have nothingNew : (grow project found).length = found.length := by omega
      simp [closure, nothingNew]
  | succ rounds inductionHypothesis =>
    rw [Nat.add_right_comm]
    by_cases nothingNew : (grow project found).length = found.length
    · simp [closure, nothingNew]
    · have longer := length_lt_grow distinct nothingNew
      simp only [closure, nothingNew, if_false]
      exact inductionHypothesis (grow_nodup project found) (grow_known known) (by omega)

/-! ## The report -/

/-- What the report of a project is worth whose story starts in a scene with an id. -/
structure Exact (project : Project) (start : String) : Prop where
  /-- More rounds than there are scenes find nothing more. -/
  rounds : ∀ more, closure project (project.scenes.length + more) [start] =
    closure project project.scenes.length [start]
  /-- No walk takes steps for ever. -/
  ends : WellFounded fun next walk : Walk => Walk.Step project walk next
  arrives : ∃ last, Walk.Steps project (Walk.begin start) last ∧ last.pending = []
  /-- However it went, a walk from the start has visited the reachable ids when it ends. -/
  visits : ∀ last, Walk.Steps project (Walk.begin start) last → last.pending = [] →
    ∀ id, id ∈ last.visited ↔ id ∈ (report project).reachable
  least : IsLeast {ids | start ∈ ids ∧ project.Closed ids} {id | id ∈ (report project).reachable}
  reachable : Increasing (report project).reachable
  others : ∀ id, id ∈ (report project).unreachable ↔
    id ∈ project.sceneIds ∧ id ∉ (report project).reachable
  unreachable : Increasing (report project).unreachable

/-- Where the story starts, the report lists the least closed set with the start and all other ids,
and every walk ends with the former. Where it does not, all ids are unreachable. -/
theorem report_exact (project : Project) :
    (∀ start, project.startScene? = some start → Exact project start.id) ∧
    (project.startScene? = none → (report project).reachable = [] ∧
      Increasing (report project).unreachable ∧
      ∀ id, id ∈ (report project).unreachable ↔ id ∈ project.sceneIds) := by
  constructor
  · intro start started
    have known : start.id ∈ project.sceneIds := Project.id_mem_of_startScene? started
    have reachable_iff := mem_reachable_iff started
    exact {
      rounds := closure_stable (by simp) (by simpa using known) (by simp [Project.sceneIds])
      ends := Walk.step_wellFounded project
      arrives := Walk.exists_end project _
      visits := by
        intro last steps ended id
        rw [reachable_iff]
        exact (steps.tracks (Walk.begin_tracks project start.id)).mem_visited_iff ended id
      least := by simpa only [reachable_iff] using project.leadsTo_isLeast start.id
      reachable := by
        simp only [report, started]
        exact (sortedSet_increasing _).filter _
      others := by
        intro id
        rw [mem_unreachable_iff started, reachable_iff]
      unreachable := by
        simp only [report, started]
        exact (sortedSet_increasing _).filter _ }
  · intro startless
    simp only [report, startless]
    exact ⟨trivial, sortedSet_increasing _, mem_sortedSet _⟩

/-- A hall from which two ways lead into a maze and one to an attic that is not there. The maze
leads into itself and back. A second scene has its id, and only that one leads to the cellar. -/
def mazeStory : Project :=
  { lampStory with
    scenes :=
      [{ id := "hall", title := "The Hall"
         choices := [{ id := "north", text := "North", target := "maze" },
           { id := "south", text := "South", target := "maze" },
           { id := "up", text := "Up", target := "attic" }] },
        { id := "maze", title := "The Maze"
          choices := [{ id := "on", text := "On", target := "maze" },
            { id := "back", text := "Back", target := "hall" }] },
        { id := "maze", title := "Another Maze"
          choices := [{ id := "down", text := "Down", target := "cellar" }] },
        { id := "cellar", title := "Cellar" }] }

/-- The cellar below the maze is not reachable; nothing is when the story starts in the attic. -/
theorem report_exact_maze :
    mazeStory.startScene? = some mazeStory.scenes[0] ∧ Exact mazeStory "hall" ∧
      (∀ id, id ∈ (report mazeStory).reachable ↔ id ∈ ["hall", "maze"]) ∧
      "cellar" ∈ (report mazeStory).unreachable ∧
      { mazeStory with startSceneId := some "attic" }.startScene? = none ∧
      "hall" ∈ (report { mazeStory with startSceneId := some "attic" }).unreachable := by
  have started : mazeStory.startScene? = some mazeStory.scenes[0] := rfl
  have found : Exact mazeStory "hall" := (report_exact mazeStory).1 _ started
  have startless : { mazeStory with startSceneId := some "attic" }.startScene? = none := by
    decide +kernel
  have closed : mazeStory.Closed {id | id ∈ ["hall", "maze"]} := by
    have each : ∀ id ∈ ["hall", "maze"], ∀ scene ∈ mazeStory.scene? id,
        ∀ choice ∈ scene.choices, choice.target ∈ mazeStory.sceneIds →
          choice.target ∈ ["hall", "maze"] := by
      decide +kernel
    exact each
  have reachable_iff (id : String) :
      id ∈ (report mazeStory).reachable ↔ id ∈ ["hall", "maze"] := by
    obtain ⟨⟨atStart, goesOn⟩, least⟩ := found.least
    constructor
    · exact fun reachable => least ⟨by decide, closed⟩ reachable
    · intro isNamed
      rcases List.mem_pair.mp isNamed with rfl | rfl
      · exact atStart
      · exact goesOn "hall" atStart _ rfl (mazeStory.scenes[0].choices[0]) (by decide) (by decide)
  exact ⟨started, found, reachable_iff, (found.others _).mpr
      ⟨by decide, fun reachable => by simpa using (reachable_iff _).mp reachable⟩,
    startless, (((report_exact _).2 startless).2.2 _).mpr (by decide)⟩

end Reachability

end Gamebook
