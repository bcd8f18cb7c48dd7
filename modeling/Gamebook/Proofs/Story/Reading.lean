import Gamebook.Service.Body

/-!
# Reading at another moment

The moment at which a project is read stands in for the moments that its document leaves out,
and nothing else of the project depends on it.
-/

namespace Gamebook

namespace Schema

variable {α β : Type}

theorem Checked.and_ok_iff {f : Checked (α → β)} {x : Checked α} {y : β} :
    Checked.and f x = .ok y ↔ ∃ g a, f = .ok g ∧ x = .ok a ∧ g a = y := by
  unfold Checked.and
  split <;> simp_all

theorem Checked.before_ok_iff {x : Checked α} {y : Checked Unit} {a : α} :
    Checked.before x y = .ok a ↔ x = .ok a ∧ y = .ok () := by
  cases x <;> cases y <;> simp [Checked.before, Checked.and, Except.map]

theorem Checked.under_ok_iff {step : Step} {x : Checked α} {a : α} :
    x.under step = .ok a ↔ x = .ok a := by
  cases x <;> simp [Checked.under]

theorem record_ok_iff {title : String} {value : Value} {read : Entries Value → Checked α} {x : α} :
    record title value read = .ok x ↔
      ∃ members, value.object? = some members ∧ read members = .ok x := by
  unfold record
  cases value.object? with
  | none => simp [Checked.fail]
  | some members => simp

/-- A field that may be missing gives something exactly when its value does. -/
theorem optional_some_iff {members : Entries Value} {field : Field}
    {read : Value → Checked (Option α)} {x : α} :
    optional members field none read = .ok (some x) ↔
      ∃ name value, field.find? members = some (name, value) ∧ read value = .ok (some x) := by
  unfold optional
  constructor
  · intro good
    split at good
    next name value isFound => exact ⟨name, value, isFound, Checked.under_ok_iff.mp good⟩
    next => exact nomatch good
  · rintro ⟨name, value, isFound, good⟩
    rw [isFound]
    exact Checked.under_ok_iff.mpr good

/-- Whether a field can be read does not depend on the value that stands in for it. -/
theorem optional_ok {members : Entries Value} {field : Field} {standard : α}
    {read : Value → Checked α} {x : α} (good : optional members field standard read = .ok x)
    (other : α) : ∃ y, optional members field other read = .ok y := by
  unfold optional at good ⊢
  split at good
  next => exact ⟨x, good⟩
  next => exact ⟨other, rfl⟩

end Schema

namespace Project

open Schema

/-- A project is what its members are read as, each field by itself, and no member is an extra
one. -/
structure ReadFrom (now : Moment) (members : Entries Value) (project : Project) : Prop where
  id : required members (.single "id") text = .ok project.id
  name : required members (.single "name") text = .ok project.name
  description : optional members (.single "description") "" text = .ok project.description
  genre : optional members (.single "genre") "" text = .ok project.genre
  created : optional members (.single "created") now Moment.ofValue = .ok project.created
  updated : optional members (.single "updated") now Moment.ofValue = .ok project.updated
  scenes : optional members (.single "scenes") [] (list Scene.ofValue) = .ok project.scenes
  characters : optional members (.single "characters") [] (list Character.ofValue) =
    .ok project.characters
  items : optional members (.single "items") [] (list Item.ofValue) = .ok project.items
  declared : optional members (.single "variables") [] (table VariableValue.ofValue) =
    .ok project.declared
  settings : optional members (.single "settings") {} GameSettings.ofValue = .ok project.settings
  start : optional members startField none text? = .ok project.startSceneId
  noExtras : onlyFields members fields = .ok ()

theorem ofValue_ok_iff {now : Moment} {value : Value} {project : Project} :
    Project.ofValue now value = .ok project ↔
      ∃ members, value.object? = some members ∧ ReadFrom now members project := by
  unfold Project.ofValue
  rw [record_ok_iff]
  constructor
  · rintro ⟨members, isObject, read⟩
    simp only [Checked.before_ok_iff, Checked.and_ok_iff, Checked.start, Except.ok.injEq] at read
    refine ⟨members, isObject, ?_⟩
    obtain ⟨⟨_, start, ⟨_, settings, ⟨_, declared, ⟨_, items, ⟨_, characters, ⟨_, scenes,
      ⟨_, updated, ⟨_, created, ⟨_, genre, ⟨_, description, ⟨_, name, ⟨_, id, rfl, isId, rfl⟩,
      isName, rfl⟩, isDescription, rfl⟩, isGenre, rfl⟩, isCreated, rfl⟩, isUpdated, rfl⟩,
      isScenes, rfl⟩, isCharacters, rfl⟩, isItems, rfl⟩, isDeclared, rfl⟩, isSettings, rfl⟩,
      isStart, rfl⟩, noExtras⟩ := read
    exact ⟨isId, isName, isDescription, isGenre, isCreated, isUpdated, isScenes, isCharacters,
      isItems, isDeclared, isSettings, isStart, noExtras⟩
  · rintro ⟨members, isObject, read⟩
    refine ⟨members, isObject, ?_⟩
    simp only [read.id, read.name, read.description, read.genre, read.created,
      read.updated, read.scenes, read.characters, read.items, read.declared, read.settings,
      read.start, read.noExtras]
    rfl

/-- The project with other moments. -/
def dated (project : Project) (created updated : Moment) : Project :=
  { project with created := created, updated := updated }

/-- At another moment the same project is read, but for its moments. -/
theorem ofValue_dated {now : Moment} {value : Value} {project : Project}
    (read : Project.ofValue now value = .ok project) (later : Moment) :
    ∃ created updated, Project.ofValue later value = .ok (project.dated created updated) := by
  obtain ⟨members, isObject, readFrom⟩ := ofValue_ok_iff.mp read
  obtain ⟨created, isCreated⟩ := optional_ok readFrom.created later
  obtain ⟨updated, isUpdated⟩ := optional_ok readFrom.updated later
  refine ⟨created, updated, ofValue_ok_iff.mpr ⟨members, isObject, ?_⟩⟩
  exact { readFrom with created := isCreated, updated := isUpdated }

end Project

end Gamebook
