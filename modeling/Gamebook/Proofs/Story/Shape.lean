import Gamebook.Proofs.Json.Distinct
import Gamebook.Story.Document

/-!
# The shape of written entities

What an entity is written as is an object with distinct names at every depth, and its lists
and objects stand one in the other to a depth that its kind gives. Only the properties of
items are of any shape, so the depth of a project is that of its deepest property, or that of
a rule.
-/

namespace Gamebook

namespace Value

/-- Names are distinct at every depth, and at most so many lists and objects stand one in the
other. -/
structure Shaped (limit : Nat) (value : Value) : Prop where
  distinct : value.Distinct
  shallow : value.nesting ≤ limit

theorem Shaped.weaken {few many : Nat} {value : Value} (shaped : Shaped few value)
    (atMost : few ≤ many) : Shaped many value :=
  ⟨shaped.distinct, Nat.le_trans shaped.shallow atMost⟩

theorem shaped_text (limit : Nat) (s : String) : Shaped limit (.text s) :=
  ⟨trivial, Nat.zero_le limit⟩

theorem shaped_bool (limit : Nat) (b : Bool) : Shaped limit (.bool b) :=
  ⟨trivial, Nat.zero_le limit⟩

theorem shaped_int (limit : Nat) (n : Int) : Shaped limit (.int n) :=
  ⟨trivial, Nat.zero_le limit⟩

theorem shaped_ofScalar (limit : Nat) (x : Scalar) : Shaped limit (ofScalar x) := by
  cases x <;> exact ⟨trivial, Nat.zero_le limit⟩

theorem shaped_ofText? (limit : Nat) (s : Option String) : Shaped limit (ofText? s) := by
  cases s <;> exact ⟨trivial, Nat.zero_le limit⟩

/-- A list is one deeper than its parts. -/
theorem shaped_list_map {α : Type} {limit : Nat} {write : α → Value} {parts : List α}
    (each : ∀ part ∈ parts, Shaped limit (write part)) :
    Shaped (limit + 1) (.list (parts.map write)) where
  distinct := by
    rw [Distinct, distinctItems_iff]
    intro item member
    obtain ⟨part, isPart, rfl⟩ := List.mem_map.mp member
    exact (each part isPart).distinct
  shallow := by
    refine Nat.succ_le_succ ((itemsNesting_le_iff _ limit).mpr fun item member => ?_)
    obtain ⟨part, isPart, rfl⟩ := List.mem_map.mp member
    exact (each part isPart).shallow

/-- An object with distinct names is one deeper than its values. -/
theorem shaped_object {limit : Nat} {members : List (String × Value)}
    (names : (Entries.keys members).Nodup)
    (each : ∀ member ∈ members, Shaped limit member.2) : Shaped (limit + 1) (.object members) where
  distinct := ⟨names, (distinctMembers_iff members).mpr fun member isMember =>
    (each member isMember).distinct⟩
  shallow := Nat.succ_le_succ ((membersNesting_le_iff members limit).mpr fun member isMember =>
    (each member isMember).shallow)

/-- A table with distinct names is one deeper than its values. -/
theorem shaped_table {α : Type} {limit : Nat} {write : α → Value} {entries : Entries α}
    (names : entries.keys.Nodup) (each : ∀ entry ∈ entries, Shaped limit (write entry.2)) :
    Shaped (limit + 1) (.object (entries.map fun entry => (entry.1, write entry.2))) := by
  refine shaped_object ?_ fun member isMember => ?_
  · rw [Entries.keys, List.map_map]
    exact names
  · obtain ⟨entry, isEntry, rfl⟩ := List.mem_map.mp isMember
    exact each entry isEntry

end Value

open Value

theorem Condition.toValue_shaped (condition : Condition) : Shaped 1 condition.toValue := by
  refine shaped_object (by simp) ?_
  simp only [List.forall_mem_cons]
  exact ⟨shaped_text _ _, shaped_text _ _, shaped_text _ _, shaped_ofScalar _ _, nofun⟩

theorem Consequence.toValue_shaped (consequence : Consequence) :
    Shaped 1 consequence.toValue := by
  refine shaped_object (by simp) ?_
  simp only [List.forall_mem_cons]
  exact ⟨shaped_text _ _, shaped_text _ _, shaped_ofScalar _ _, shaped_text _ _, nofun⟩

theorem Choice.toValue_shaped (choice : Choice) : Shaped 3 choice.toValue := by
  refine shaped_object (by simp) ?_
  simp only [List.forall_mem_cons]
  exact ⟨shaped_text _ _, shaped_text _ _, shaped_text _ _,
    shaped_list_map fun condition _ => condition.toValue_shaped,
    shaped_list_map fun consequence _ => consequence.toValue_shaped, nofun⟩

theorem Scene.toValue_shaped (scene : Scene) : Shaped 5 scene.toValue := by
  refine shaped_object (by simp) ?_
  simp only [List.forall_mem_cons]
  exact ⟨shaped_text _ _, shaped_text _ _, shaped_text _ _, shaped_ofText? _ _,
    shaped_list_map fun choice _ => choice.toValue_shaped, nofun⟩

theorem Attributes.toValue_shaped (attributes : Attributes) : Shaped 1 attributes.toValue := by
  refine shaped_object (by simp) ?_
  simp only [List.forall_mem_cons]
  exact ⟨shaped_int _ _, shaped_int _ _, shaped_int _ _, shaped_int _ _, nofun⟩

theorem Character.toValue_shaped (character : Character) : Shaped 2 character.toValue := by
  refine shaped_object (by simp) ?_
  simp only [List.forall_mem_cons]
  exact ⟨shaped_text _ _, shaped_text _ _, shaped_text _ _, character.attributes.toValue_shaped,
    shaped_ofText? _ _, shaped_text _ _, nofun⟩

/-- An item whose properties are written as they are is two deeper than the properties. -/
theorem Item.toValue_shaped {item : Item} (limit : Nat)
    (kept : finiteMembers item.properties = item.properties)
    (named : (Value.object item.properties).Distinct)
    (shallow : ∀ property ∈ item.properties, property.2.nesting ≤ limit) :
    Shaped (limit + 2) item.toValue := by
  have properties : Shaped (limit + 1) (.object (finiteMembers item.properties)) := by
    rw [kept]
    exact shaped_object named.1 fun property member =>
      ⟨(distinctMembers_iff _).mp named.2 property member, shallow property member⟩
  refine shaped_object (by simp) ?_
  simp only [List.forall_mem_cons]
  exact ⟨shaped_text _ _, shaped_text _ _, shaped_text _ _, shaped_text _ _, shaped_ofText? _ _,
    properties, nofun⟩

theorem GameSettings.toValue_shaped (settings : GameSettings) : Shaped 1 settings.toValue := by
  refine shaped_object (by simp) ?_
  simp only [List.forall_mem_cons]
  exact ⟨shaped_text _ _, shaped_text _ _, shaped_bool _ _, shaped_bool _ _, shaped_bool _ _, nofun⟩

theorem VariableValue.toValue_shaped (value : VariableValue) : Shaped 0 value.toValue := by
  cases value with
  | scalar x => exact shaped_ofScalar 0 x
  | text s => exact shaped_text 0 s

/-- A project is two deeper than its items and its scenes. -/
theorem Project.toValue_shaped {project : Project} (declared : project.declared.keys.Nodup)
    (limit : Nat) (deep : 5 ≤ limit)
    (items : ∀ item ∈ project.items, Shaped limit item.toValue) :
    Shaped (limit + 2) project.toValue := by
  refine shaped_object (by simp) ?_
  simp only [List.forall_mem_cons]
  exact ⟨shaped_text _ _, shaped_text _ _, shaped_text _ _, shaped_text _ _, shaped_text _ _,
    shaped_text _ _,
    shaped_list_map fun scene _ => scene.toValue_shaped.weaken deep,
    shaped_list_map fun character _ => character.toValue_shaped.weaken (by omega),
    shaped_list_map items,
    shaped_table declared fun entry _ => entry.2.toValue_shaped.weaken (Nat.zero_le limit),
    project.settings.toValue_shaped.weaken (by omega), shaped_ofText? _ _, nofun⟩

end Gamebook
