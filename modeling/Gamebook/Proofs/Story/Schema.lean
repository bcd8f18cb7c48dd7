import Gamebook.Proofs.Json.Distinct
import Gamebook.Proofs.Story.Lookup
import Gamebook.Text.Blank

/-!
# What the schema promises of a project

A project that fits its schema has trimmed ids of scenes and choices and trimmed keys
of rules, none of them empty, two moments of the calendar, and tables in which no name
comes twice. Ids of projects, characters and items, targets of choices and all titles
and texts are free, and so is every reference: nothing says that a target exists.
-/

namespace Gamebook

/-- A text that an id or a key can be: something without blanks at its ends. -/
def IsLabel (s : String) : Prop := s ≠ "" ∧ Text.trim s = s

instance (s : String) : Decidable (IsLabel s) := inferInstanceAs (Decidable (_ ∧ _))

/-- A day of the calendar with a time of day and a distance of less than a day. -/
structure Moment.OfCalendar (m : Moment) : Prop where
  year : 1 ≤ m.year ∧ m.year ≤ 9999
  day : ∃ last, Moment.daysInMonth? m.year m.month = some last ∧ 1 ≤ m.day ∧ m.day ≤ last
  time : m.hour < 24 ∧ m.minute < 60 ∧ m.second < 60 ∧ m.microsecond < 1000000
  offset : ∀ minutes, m.offset = some minutes → minutes.natAbs < 1440

/-- A choice whose id and keys are labels. -/
structure Choice.FitsSchema (choice : Choice) : Prop where
  id : IsLabel choice.id
  requirements : ∀ condition ∈ choice.requirements, IsLabel condition.key
  consequences : ∀ consequence ∈ choice.consequences, IsLabel consequence.key

instance (choice : Choice) : Decidable choice.FitsSchema :=
  decidable_of_iff (IsLabel choice.id ∧ (∀ condition ∈ choice.requirements, IsLabel condition.key) ∧
      ∀ consequence ∈ choice.consequences, IsLabel consequence.key)
    ⟨fun all => ⟨all.1, all.2.1, all.2.2⟩, fun fits => ⟨fits.id, fits.requirements,
      fits.consequences⟩⟩

/-- A scene whose id is a label and whose choices fit. -/
structure Scene.FitsSchema (scene : Scene) : Prop where
  id : IsLabel scene.id
  choices : ∀ choice ∈ scene.choices, choice.FitsSchema

instance (scene : Scene) : Decidable scene.FitsSchema :=
  decidable_of_iff (IsLabel scene.id ∧ ∀ choice ∈ scene.choices, choice.FitsSchema)
    ⟨fun all => ⟨all.1, all.2⟩, fun fits => ⟨fits.id, fits.choices⟩⟩

/-- A project that the schema admits. -/
structure Project.FitsSchema (project : Project) : Prop where
  created : project.created.OfCalendar
  updated : project.updated.OfCalendar
  scenes : ∀ scene ∈ project.scenes, scene.FitsSchema
  properties : ∀ item ∈ project.items, Value.Distinct (.object item.properties)
  declared : project.declared.keys.Nodup

/-- Every scene that a lookup finds has an id. -/
theorem Project.FitsSchema.id_of_scene? {project : Project} (fits : project.FitsSchema)
    {id : String} {scene : Scene} (found : project.scene? id = some scene) : id ≠ "" :=
  Project.id_of_scene? found ▸ (fits.scenes scene (Project.mem_of_scene? found)).id.1

/-- The start scene has an id. -/
theorem Project.FitsSchema.id_of_startScene? {project : Project} (fits : project.FitsSchema)
    {start : Scene} (found : project.startScene? = some start) : start.id ≠ "" := by
  unfold Project.startScene? at found
  split at found
  next id named =>
    exact Project.id_of_scene? found ▸ fits.id_of_scene? found
  next =>
    have member : start ∈ project.scenes := List.mem_of_head? found
    exact (fits.scenes start member).id.1

/-! ## A small story -/

/-- A hall with a lamp and a cellar that is dark without it. -/
def lampStory : Project where
  id := "lamp"
  name := "The Lamp"
  created := { year := 2024, month := 2, day := 29, offset := some 0 }
  updated := { year := 2024, month := 2, day := 29, hour := 23, offset := some (-90) }
  scenes :=
    [{ id := "hall", title := "The [Hall]", description := "A lamp: it burns.\n:: not a header"
       choices :=
         [{ id := "take", text := "Take the lamp", target := "hall"
            consequences :=
              [⟨.item, "lamp", .int 2, .add⟩, ⟨.attribute, "courage", .int 1, .remove⟩,
                ⟨.flag, "lit", .bool true, .set⟩] },
          { id := "down", text := "Climb | down", target := "cellar"
            requirements := [⟨.flag, "lit", .equal, .bool true⟩, ⟨.item, "lamp", .atLeast, .int 1⟩]
            consequences := [⟨.item, "lamp", .int 1, .remove⟩] }] },
      { id := "cellar", title := "Cellar", choices := [{ id := "rest", text := "Rest" }] }]
  items := [{ id := "lamp", name := "Lamp", properties := [("oil", .list [.int 3, .null])] }]
  declared := [("courage", .scalar (.int 0)), ("name", .text "Ada")]

theorem lampStory_fits : lampStory.FitsSchema where
  created := ⟨by decide, ⟨29, by decide⟩, by decide, by decide⟩
  updated := ⟨by decide, ⟨29, by decide⟩, by decide, by decide⟩
  scenes := by decide
  properties := by simp [lampStory, Value.Distinct, Value.DistinctMembers, Value.DistinctItems]
  declared := by decide

end Gamebook
