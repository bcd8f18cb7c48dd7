import Gamebook.Story.Project

/-!
# Looking up scenes and choices

A lookup by id finds the first entity with that id. Where ids differ it finds every
entity under its own id, and it finds something exactly when the id is used at all.
-/

namespace Gamebook

variable {α : Type}

/-- Where keys differ, the first item with the key of an item is that item. -/
theorem find?_key_of_mem (key : α → String) {items : List α} (distinct : (items.map key).Nodup)
    {item : α} (member : item ∈ items) : items.find? (key · == key item) = some item := by
  induction items with
  | nil => exact absurd member List.not_mem_nil
  | cons first rest inductionHypothesis =>
    obtain ⟨fresh, restDistinct⟩ := List.nodup_cons.mp distinct
    rcases List.mem_cons.mp member with rfl | later
    · simp
    · have different : key first ≠ key item := by
        intro same
        exact fresh (same ▸ List.mem_map_of_mem later)
      simp [different, inductionHypothesis restDistinct later]

theorem Scene.choice?_of_mem {scene : Scene} (distinct : (scene.choices.map (·.id)).Nodup)
    {choice : Choice} (member : choice ∈ scene.choices) :
    scene.choice? choice.id = some choice := find?_key_of_mem Choice.id distinct member

namespace Project

variable {project : Project}

theorem mem_of_scene? {id : String} {scene : Scene} (found : project.scene? id = some scene) :
    scene ∈ project.scenes := List.mem_of_find?_eq_some found

theorem id_of_scene? {id : String} {scene : Scene} (found : project.scene? id = some scene) :
    scene.id = id := by
  simpa using List.find?_some found

/-- The start scene is one of the scenes. -/
theorem mem_of_startScene? {start : Scene} (found : project.startScene? = some start) :
    start ∈ project.scenes := by
  unfold startScene? at found
  split at found
  next id named => exact mem_of_scene? found
  next => exact List.mem_of_head? found

theorem id_mem_of_startScene? {start : Scene} (found : project.startScene? = some start) :
    start.id ∈ project.sceneIds := List.mem_map_of_mem (mem_of_startScene? found)

/-- A scene is found under an id exactly when some scene has it. -/
theorem scene?_isSome_iff (project : Project) (id : String) :
    (project.scene? id).isSome = true ↔ id ∈ project.sceneIds := by
  simp [scene?, sceneIds]

end Project

end Gamebook
