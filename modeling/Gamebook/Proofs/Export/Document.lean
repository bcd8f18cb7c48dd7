import Gamebook.Export.Artifact
import Gamebook.Proofs.Json.RoundTrip
import Gamebook.Proofs.Json.Whole
import Gamebook.Proofs.Story.Document
import Gamebook.Proofs.Story.Shape

/-!
# Documents of projects read back

The document of a project is read as the project again, both from the text of a document and
from the value that a store reads out of it, and the project that was read is written as the
same text. Nothing is asked of the story: scenes may be missing, and ids may come twice. What
has no place in documents must not be in the project: half characters, whole numbers with too
many digits, and properties that are foreign, infinite or undefined or nest too deep.
-/

namespace Gamebook

/-- A project whose texts have no halves and whose whole numbers have few enough digits. The
properties of its items are document values with finite numbers, nested less than 100 deep. -/
structure Project.Portable (project : Project) : Prop where
  parts : project.toValue.Portable
  properties : ∀ item ∈ project.items, ∀ property ∈ item.properties,
    property.2.Portable ∧ property.2.isSendable = true ∧ property.2.nesting < 100

namespace Project

variable {project : Project}

/-! ## Writing -/

/-- The properties of items are written as they are. -/
theorem Portable.finiteMembers_eq (portable : project.Portable) {item : Item}
    (member : item ∈ project.items) : Value.finiteMembers item.properties = item.properties :=
  Value.finiteMembers_eq fun property isProperty =>
    Value.finiteOnly_eq (portable.properties item member property isProperty).2.1

/-- The names of the properties of items have no halves. -/
theorem Portable.propertyNames (portable : project.Portable) {item : Item}
    (member : item ∈ project.items) :
    ∀ property ∈ item.properties, Text.holdsHalf property.1 = false := by
  have items : (Value.list (project.items.map Item.toValue)).Portable :=
    portable.parts.of_member "items" (by simp)
  have entity : item.toValue.Portable :=
    (Value.portable_list_iff _).mp items _ (List.mem_map_of_mem member)
  have properties : (Value.object item.properties).Portable := by
    have written : (Value.object (Value.finiteMembers item.properties)).Portable :=
      entity.of_member "properties" (by simp)
    rwa [portable.finiteMembers_eq member] at written
  exact fun property isProperty =>
    ((Value.portable_object_iff _).mp properties property isProperty).1

/-- The names of the declared variables have no halves. -/
theorem Portable.variableNames (portable : project.Portable) :
    ∀ name ∈ project.declared.keys, Text.holdsHalf name = false :=
  Value.Portable.names VariableValue.toValue
    (portable.parts.of_member "variables" (by simp))

/-- A portable project can be written. -/
theorem Portable.write_eq (portable : project.Portable) : project.write = .ok project.toValue := by
  have items : project.items.findSome? Item.writeFault? = none := by
    rw [List.findSome?_eq_none_iff]
    intro item member
    refine (Value.looseMembersFault?_eq_none_iff _ _).mpr fun property isProperty => ?_
    obtain ⟨kept, -, shallow⟩ := portable.properties item member property isProperty
    exact ⟨Value.nameFault?_eq_none (portable.propertyNames member property isProperty),
      kept.looseFault?_eq_none (Nat.le_trans (Nat.le_of_lt shallow) (by decide))⟩
  have names : project.declared.keys.findSome? Schema.nameFault? = none := by
    rw [List.findSome?_eq_none_iff]
    exact fun name isName => Value.nameFault?_eq_none (portable.variableNames name isName)
  rw [write, writeFault?, items, names]
  rfl

/-- The text of the document of a portable project. -/
theorem Portable.json_eq (portable : project.Portable) (indent : Option Nat) :
    Export.json indent project =
      .ok (String.ofList (Json.render ⟨indent, false⟩ 0 project.toValue)) := by
  rw [Export.json, portable.write_eq]
  simp only [Json.print, portable.parts.fault?_eq_none]
  rfl

/-! ## Reading -/

/-- What a portable project is written as has distinct names and nests less deep than either
dialect allows. -/
theorem Portable.shaped (portable : project.Portable) (fits : project.FitsSchema) :
    Value.Shaped 103 project.toValue := by
  refine toValue_shaped fits.declared 101 (by decide) fun item member => ?_
  refine Item.toValue_shaped 99 (portable.finiteMembers_eq member)
    (fits.properties item member) fun property isProperty => ?_
  exact Nat.le_of_lt_succ (portable.properties item member property isProperty).2.2

end Project

namespace Export

/-- A portable project that fits the schema is written with any indent. Its document is read as
the project, and so is the value that a store reads out of it, whatever the moment of reading;
and what is read is written as the same text again. -/
theorem json_reads_back {project : Project} (fits : project.FitsSchema)
    (portable : project.Portable) (indent : Option Nat) (now : Moment) :
    ∃ text, json indent project = .ok text ∧
      Project.ofText now text = .ok project ∧
      (∃ value, Json.read .stored text = .ok value ∧
        Schema.ofValue "Project" (Project.ofValue now) value = .ok project) ∧
      ∀ parsed, Project.ofText now text = .ok parsed → json indent parsed = .ok text := by
  have shaped := portable.shaped fits
  have written := portable.json_eq indent
  have entity := Project.ofValue_toValue fits (fun item member property isProperty =>
    (portable.properties item member property isProperty).2.1) now
  have back (dialect : Json.Dialect) : Json.read dialect
      (String.ofList (Json.render ⟨indent, false⟩ 0 project.toValue)) = .ok project.toValue := by
    refine Json.read_render portable.parts shaped.distinct (Nat.le_trans shaped.shallow ?_)
    cases dialect <;> decide
  have whole : Text.holdsHalf
      (String.ofList (Json.render ⟨indent, false⟩ 0 project.toValue)) = false := by
    rw [Text.holdsHalf_eq_false_iff, String.toList_ofList]
    exact Json.whole_render portable.parts 0
  have parsed : Project.ofText now
      (String.ofList (Json.render ⟨indent, false⟩ 0 project.toValue)) = .ok project := by
    simp only [Project.ofText, Schema.ofText, whole, back, entity, Schema.gather]
    rfl
  refine ⟨_, written, parsed, ⟨_, back .stored, ?_⟩, ?_⟩
  · rw [Schema.ofValue, entity]
    rfl
  · intro other isParsed
    obtain rfl : project = other := by
      rw [parsed] at isParsed
      exact Except.ok.inj isParsed
    exact written

theorem lampStory_portable : lampStory.Portable where
  parts := by decide +kernel
  properties := by
    intro item isItem property isProperty
    obtain rfl := List.mem_singleton.mp isItem
    obtain rfl := List.mem_singleton.mp isProperty
    exact ⟨by decide +kernel, by decide, by decide⟩

theorem lamp_json_reads_back :
    lampStory.FitsSchema ∧ lampStory.Portable ∧
    ∃ text, json (some 2) lampStory = .ok text ∧
      Project.ofText lampStory.created text = .ok lampStory ∧
      (∃ value, Json.read .stored text = .ok value ∧
        Schema.ofValue "Project" (Project.ofValue lampStory.created) value = .ok lampStory) ∧
      ∀ parsed, Project.ofText lampStory.created text = .ok parsed →
        json (some 2) parsed = .ok text :=
  ⟨lampStory_fits, lampStory_portable,
    json_reads_back lampStory_fits lampStory_portable (some 2) lampStory.created⟩

end Export

end Gamebook
