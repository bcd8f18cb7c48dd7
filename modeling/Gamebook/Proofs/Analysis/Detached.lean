import Gamebook.Proofs.Analysis.Reachability
import Gamebook.Proofs.Play.Validated
import Gamebook.Proofs.Validation
import Mathlib.Data.List.Nodup

/-!
# Scenes that nothing leads to

The choices of a detached scene end the story and neither ask nor change anything. Such a scene
can be added to a structured project under a new id: the project stays structured, the old
scenes are reached as before, and the new one is reported unreachable. Nothing is asked of the
title of the scene. Its id must not be the terminal target, since every choice that ends the
story would then lead to it.
-/

namespace Gamebook

/-- The choice ends the story and neither asks nor changes anything. -/
structure Choice.Plain (choice : Choice) : Prop where
  ends : choice.target = terminalTarget
  requirements : choice.requirements = []
  consequences : choice.consequences = []

/-- A scene of plain choices with different ids. -/
structure Scene.Detached (scene : Scene) : Prop where
  choiceIds : (scene.choices.map (·.id)).Nodup
  plain : ∀ choice ∈ scene.choices, choice.Plain

namespace Project

/-- The project with a scene added at its end at a moment. -/
def withScene (project : Project) (now : Moment) (scene : Scene) : Project :=
  { project with scenes := project.scenes ++ [scene], updated := now }

variable {project : Project} (now : Moment) (scene : Scene)

@[simp] theorem sceneIds_withScene :
    (project.withScene now scene).sceneIds = project.sceneIds ++ [scene.id] := by
  simp [withScene, sceneIds]

/-- The scenes that were there are found as before. -/
theorem scene?_withScene {id : String} (known : id ∈ project.sceneIds) :
    (project.withScene now scene).scene? id = project.scene? id := by
  obtain ⟨found, isFound⟩ := Option.isSome_iff_exists.mp ((scene?_isSome_iff project id).mpr known)
  have found' : project.scenes.find? (·.id == id) = some found := isFound
  rw [scene?, withScene, List.find?_append, found', isFound, Option.some_or]

theorem startScene?_withScene (structured : Validation.Structured project) :
    (project.withScene now scene).startScene? = project.startScene? := by
  unfold startScene?
  cases named : project.startSceneId with
  | none =>
    obtain ⟨first, rest, scenes⟩ := List.exists_cons_of_ne_nil structured.scenes
    simp only [withScene, named, scenes, List.cons_append, List.head?_cons]
  | some id =>
    have known := (scene?_isSome_iff project id).mp (structured.start id named)
    have named' : (project.withScene now scene).startSceneId = some id := named
    simp only [named', scene?_withScene now scene known]

end Project

namespace Validation

open Project

variable {project : Project} {now : Moment} {scene : Scene}

/-! ## No rule is broken -/

/-- Choices that ask and change nothing use no key. -/
theorem keyUses_withScene (detached : scene.Detached) :
    keyUses (project.withScene now scene) = keyUses project := by
  have none : scene.choices.flatMap (fun choice =>
      choice.requirements.map (fun condition => (condition.key, condition.kind)) ++
        choice.consequences.map fun consequence => (consequence.key, consequence.kind)) = [] := by
    rw [List.flatMap_eq_nil_iff]
    intro choice member
    have plain := detached.plain choice member
    rw [plain.requirements, plain.consequences, List.map_nil, List.map_nil, List.append_nil]
  simp [keyUses, withScene, none]

/-- A choice that has a target keeps it when a scene is added. -/
theorem hasTarget_withScene {choice : Choice} (has : hasTarget project choice = true) :
    hasTarget (project.withScene now scene) choice = true := by
  rw [hasTarget, Bool.or_eq_true, List.contains_iff_mem] at has ⊢
  rw [sceneIds_withScene]
  exact has.imp_right (List.mem_append_left [scene.id])

/-- A structured project stays structured when a detached scene with a new id is added. -/
theorem Structured.withScene (structured : Structured project) (detached : scene.Detached)
    (fresh : scene.id ∉ project.sceneIds) : Structured (project.withScene now scene) := by
  have both {property : Scene → Prop} (old : ∀ other ∈ project.scenes, property other)
      (new : property scene) : ∀ other ∈ (project.withScene now scene).scenes, property other :=
    List.forall_mem_append.mpr ⟨old, List.forall_mem_singleton.mpr new⟩
  refine ⟨List.append_ne_nil_of_left_ne_nil structured.scenes _, ?start, ?sceneIds,
    both structured.choiceIds detached.choiceIds, ?targets,
    both structured.conditions ?conditions, both structured.consequences ?consequences, ?kinds⟩
  case start =>
    intro id named
    have known := structured.start id named
    rw [scene?_withScene now scene ((scene?_isSome_iff project id).mp known), known]
  case sceneIds =>
    have ids : (project.withScene now scene).sceneIds.Nodup := by
      rw [sceneIds_withScene]
      exact List.Nodup.append structured.sceneIds (by simp) (List.disjoint_singleton.mpr fresh)
    exact ids
  case targets =>
    refine both (fun other member choice inScene =>
      hasTarget_withScene (structured.targets other member choice inScene)) ?_
    intro choice inScene
    simp [hasTarget, Choice.isTerminal, (detached.plain choice inScene).ends]
  case conditions =>
    intro choice inScene
    rw [(detached.plain choice inScene).requirements]
    exact List.forall_mem_nil _
  case consequences =>
    intro choice inScene
    rw [(detached.plain choice inScene).consequences]
    exact List.forall_mem_nil _
  case kinds =>
    rw [keyUses_withScene detached]
    exact structured.kinds

/-! ## Nothing new is reached -/

section Reached

variable (structured : Structured project) (fresh : scene.id ∉ project.sceneIds)
  (unnamed : scene.id ≠ terminalTarget)

include structured fresh unnamed

/-- No choice of the old scenes leads to the new one. -/
theorem mem_successors_withScene {id : String} (known : id ∈ project.sceneIds)
    (target : String) : target ∈ (project.withScene now scene).successors id ↔
      target ∈ project.successors id := by
  rw [mem_successors_iff, mem_successors_iff, scene?_withScene now scene known,
    sceneIds_withScene, List.mem_append, List.mem_singleton]
  constructor
  · rintro ⟨isScene, other, found, choice, inScene, leads⟩
    refine ⟨isScene.resolve_right ?_, other, found, choice, inScene, leads⟩
    intro isNew
    have has := structured.targets other (mem_of_scene? found) choice inScene
    rw [hasTarget, Bool.or_eq_true, Choice.isTerminal, beq_iff_eq, List.contains_iff_mem, leads,
      isNew] at has
    exact has.elim unnamed fresh
  · rintro ⟨isScene, step⟩
    exact ⟨.inl isScene, step⟩

/-- The old scenes lead where they led before. -/
theorem leadsTo_withScene_iff {start : String} (known : start ∈ project.sceneIds)
    (id : String) : (project.withScene now scene).LeadsTo start id ↔ project.LeadsTo start id := by
  have same {middle : String} (leads : project.LeadsTo start middle) (target : String) :
      target ∈ (project.withScene now scene).successors middle ↔
        target ∈ project.successors middle :=
    mem_successors_withScene structured fresh unnamed (leads.mem_sceneIds known) target
  constructor
  · intro leads
    induction leads with
    | refl => exact .refl
    | tail _ step inductionHypothesis =>
      exact inductionHypothesis.tail ((same inductionHypothesis _).mp step)
  · intro leads
    induction leads with
    | refl => exact .refl
    | tail before step inductionHypothesis =>
      exact inductionHypothesis.tail ((same before _).mpr step)

/-- The new scene is the one that becomes unreachable. -/
theorem unreachable_withScene :
    (Reachability.report (project.withScene now scene)).unreachable.Perm
      (scene.id :: (Reachability.report project).unreachable) := by
  obtain ⟨start, started⟩ := startScene?_of_structured structured
  have startedToo := (startScene?_withScene now scene structured).trans started
  have known := id_mem_of_startScene? started
  have newUnreached : scene.id ∉ (Reachability.report project).unreachable := by
    rw [Reachability.mem_unreachable_iff started]
    exact fun unreached => fresh unreached.1
  refine (List.perm_ext_iff_of_nodup (Reachability.unreachable_nodup _)
    (List.nodup_cons.mpr ⟨newUnreached, Reachability.unreachable_nodup project⟩)).mpr fun id => ?_
  rw [List.mem_cons, Reachability.mem_unreachable_iff started,
    Reachability.mem_unreachable_iff startedToo, sceneIds_withScene, List.mem_append,
    List.mem_singleton, leadsTo_withScene_iff structured fresh unnamed known]
  constructor
  · rintro ⟨old | rfl, unled⟩
    · exact .inr ⟨old, unled⟩
    · exact .inl rfl
  · rintro (rfl | ⟨old, unled⟩)
    · exact ⟨.inr rfl, fun leads => fresh (leads.mem_sceneIds known)⟩
    · exact ⟨.inl old, unled⟩

end Reached

/-! ## Reports -/

/-- The warning of a scene that cannot be reached. -/
def unreachableIssue (id : String) : Issue :=
  { code := .unreachableScene
    message := "Scene '" ++ id ++ "' cannot be reached from the start scene."
    sceneId := some id }

/-- The issues of a structured project are the warnings of its unreachable scenes. -/
theorem issues_of_structured (structured : Structured project) :
    (report project).issues =
      (Reachability.report project).unreachable.map unreachableIssue := by
  obtain ⟨start, found⟩ := startScene?_of_structured structured
  have started : (Reachability.report project).start = some start.id := by
    simp only [Reachability.report, found]
  change errorIssues project ++ reachabilityIssues project = _
  rw [(errorIssues_eq_nil_iff project).mpr structured, List.nil_append]
  simp only [reachabilityIssues, started, Option.isNone_some, Bool.false_eq_true, if_false]
  rfl

/-- A detached scene that is added raises one warning, about itself. -/
theorem issues_withScene (structured : Structured project) (detached : scene.Detached)
    (fresh : scene.id ∉ project.sceneIds) (unnamed : scene.id ≠ terminalTarget) :
    (report (project.withScene now scene)).issues.Perm
      (unreachableIssue scene.id :: (report project).issues) := by
  rw [issues_of_structured (structured.withScene detached fresh), issues_of_structured structured,
    ← List.map_cons]
  exact (unreachable_withScene structured fresh unnamed).map unreachableIssue

end Validation

end Gamebook
