import Gamebook.Proofs.Schema.Record
import Gamebook.Proofs.Story.Moment

/-!
# Entities read back

Every entity is read from what it is written as: all its fields are there under their
document names, with nothing beside them, so no standard value is taken and nothing is
complained of. Ids and keys must be labels, since reading trims them, and moments must be
of the calendar.
-/

namespace Gamebook

open Schema

/-! ## Names -/

theorem Kind.read_name (kind : Kind) : oneOf Kind.options (.text kind.name) = .ok kind := by
  cases kind <;> exact oneOf_text rfl rfl

theorem Operator.read_sign (operator : Operator) :
    oneOf Operator.options (.text operator.sign) = .ok operator := by
  cases operator <;> exact oneOf_text rfl rfl

theorem Operation.read_name (operation : Operation) :
    oneOf Operation.options (.text operation.name) = .ok operation := by
  cases operation <;> exact oneOf_text rfl rfl

theorem ItemType.read_name (type : ItemType) :
    oneOf ItemType.options (.text type.name) = .ok type := by
  cases type <;> exact oneOf_text rfl rfl

theorem Theme.read_name (theme : Theme) : oneOf Theme.options (.text theme.name) = .ok theme := by
  cases theme <;> exact oneOf_text rfl rfl

theorem Difficulty.read_name (difficulty : Difficulty) :
    oneOf Difficulty.options (.text difficulty.name) = .ok difficulty := by
  cases difficulty <;> exact oneOf_text rfl rfl

/-! ## Rules -/

/-- A condition is read from its document. -/
theorem Condition.ofValue_toValue {condition : Condition} (isLabel : IsLabel condition.key) :
    ofValue condition.toValue = .ok condition := by
  refine record_object fun members isMembers => ?_
  have distinct : members.keys.Nodup := by simp [isMembers]
  have kind : required members (.single "kind") (oneOf Kind.options) = .ok condition.kind :=
    required_of_mem distinct _ (by simp [isMembers, Field.single]) condition.kind.read_name
  have key : required members (.single "key") (label "condition key") = .ok condition.key :=
    required_of_mem distinct _ (by simp [isMembers, Field.single]) (label_text _ isLabel)
  have operator : optional members (.single "operator") (standardOperator members)
      (oneOf Operator.options) = .ok condition.operator :=
    optional_of_mem distinct _ (by simp [isMembers, Field.single]) condition.operator.read_sign
  have value : required members (.single "value") scalar = .ok condition.value :=
    required_of_mem distinct _ (by simp [isMembers, Field.single]) (scalar_ofScalar _)
  have only : onlyFields members fields = .ok () :=
    onlyFields_of_keys distinct (by simp [isMembers, fields, Field.single])
  rw [Entries.ofPairs_of_nodup distinct]
  simp only [kind, key, operator, value, only]
  rfl

/-- A consequence is read from its document. -/
theorem Consequence.ofValue_toValue {consequence : Consequence}
    (isLabel : IsLabel consequence.key) : ofValue consequence.toValue = .ok consequence := by
  refine record_object fun members isMembers => ?_
  have distinct : members.keys.Nodup := by simp [isMembers]
  have kind : required members (.single "kind") (oneOf Kind.options) = .ok consequence.kind :=
    required_of_mem distinct _ (by simp [isMembers, Field.single]) consequence.kind.read_name
  have key : required members (.single "key") (label "consequence key") = .ok consequence.key :=
    required_of_mem distinct _ (by simp [isMembers, Field.single]) (label_text _ isLabel)
  have value : required members (.single "value") scalar = .ok consequence.value :=
    required_of_mem distinct _ (by simp [isMembers, Field.single]) (scalar_ofScalar _)
  have operation : optional members (.single "operation") .set (oneOf Operation.options) =
      .ok consequence.operation :=
    optional_of_mem distinct _ (by simp [isMembers, Field.single]) consequence.operation.read_name
  have only : onlyFields members fields = .ok () :=
    onlyFields_of_keys distinct (by simp [isMembers, fields, Field.single])
  simp only [kind, key, value, operation, only]
  rfl

/-! ## Scenes -/

/-- A choice is read from its document. -/
theorem Choice.ofValue_toValue {choice : Choice} (fits : choice.FitsSchema) :
    ofValue choice.toValue = .ok choice := by
  refine record_object fun members isMembers => ?_
  have distinct : members.keys.Nodup := by simp [isMembers]
  have id : required members (.single "id") (label "choice id") = .ok choice.id :=
    required_of_mem distinct _ (by simp [isMembers, Field.single]) (label_text _ fits.id)
  have text : required members (.single "text") Schema.text = .ok choice.text :=
    required_of_mem distinct (.text choice.text) (by simp [isMembers, Field.single]) rfl
  have target : optional members targetField terminalTarget Schema.text = .ok choice.target :=
    optional_of_mem distinct (.text choice.target) (by simp [isMembers, targetField]) rfl
  have requirements : optional members (.single "requirements") []
      (Schema.list Condition.ofValue) = .ok choice.requirements :=
    optional_of_mem distinct _ (by simp [isMembers, Field.single])
      (list_map fun condition member => Condition.ofValue_toValue
        (fits.requirements condition member))
  have consequences : optional members (.single "consequences") []
      (Schema.list Consequence.ofValue) = .ok choice.consequences :=
    optional_of_mem distinct _ (by simp [isMembers, Field.single])
      (list_map fun consequence member => Consequence.ofValue_toValue
        (fits.consequences consequence member))
  have only : onlyFields members fields = .ok () :=
    onlyFields_of_keys distinct (by simp [isMembers, fields, Field.single, targetField])
  simp only [id, text, target, requirements, consequences, only]
  rfl

/-- A scene is read from its document. -/
theorem Scene.ofValue_toValue {scene : Scene} (fits : scene.FitsSchema) :
    ofValue scene.toValue = .ok scene := by
  refine record_object fun members isMembers => ?_
  have distinct : members.keys.Nodup := by simp [isMembers]
  have id : required members (.single "id") (label "scene id") = .ok scene.id :=
    required_of_mem distinct _ (by simp [isMembers, Field.single]) (label_text _ fits.id)
  have title : required members (.single "title") text = .ok scene.title :=
    required_of_mem distinct (.text scene.title) (by simp [isMembers, Field.single]) rfl
  have description : optional members (.single "description") "" text = .ok scene.description :=
    optional_of_mem distinct (.text scene.description)
      (by simp [isMembers, Field.single]) rfl
  have image : optional members (.single "image") none text? = .ok scene.image :=
    optional_of_mem distinct _ (by simp [isMembers, Field.single]) (text?_ofText? scene.image)
  have choices : optional members (.single "choices") [] (list Choice.ofValue) =
      .ok scene.choices :=
    optional_of_mem distinct _ (by simp [isMembers, Field.single])
      (list_map fun choice member => Choice.ofValue_toValue (fits.choices choice member))
  have only : onlyFields members fields = .ok () :=
    onlyFields_of_keys distinct (by simp [isMembers, fields, Field.single])
  simp only [id, title, description, image, choices, only]
  rfl

/-! ## Characters, items and settings -/

/-- Attributes are read from their document. -/
theorem Attributes.ofValue_toValue (attributes : Attributes) :
    ofValue attributes.toValue = .ok attributes := by
  refine record_object fun members isMembers => ?_
  have distinct : members.keys.Nodup := by simp [isMembers]
  have health : optional members (.single "health") 0 whole = .ok attributes.health :=
    optional_of_mem distinct (.int attributes.health)
      (by simp [isMembers, Field.single]) rfl
  have strength : optional members (.single "strength") 0 whole = .ok attributes.strength :=
    optional_of_mem distinct (.int attributes.strength)
      (by simp [isMembers, Field.single]) rfl
  have intelligence : optional members (.single "intelligence") 0 whole =
      .ok attributes.intelligence :=
    optional_of_mem distinct (.int attributes.intelligence)
      (by simp [isMembers, Field.single]) rfl
  have agility : optional members (.single "agility") 0 whole = .ok attributes.agility :=
    optional_of_mem distinct (.int attributes.agility)
      (by simp [isMembers, Field.single]) rfl
  have only : onlyFields members fields = .ok () :=
    onlyFields_of_keys distinct (by simp [isMembers, fields, Field.single])
  simp only [health, strength, intelligence, agility, only]
  rfl

/-- A character is read from its document. -/
theorem Character.ofValue_toValue (character : Character) :
    ofValue character.toValue = .ok character := by
  refine record_object fun members isMembers => ?_
  have distinct : members.keys.Nodup := by simp [isMembers]
  have id : required members (.single "id") text = .ok character.id :=
    required_of_mem distinct (.text character.id) (by simp [isMembers, Field.single]) rfl
  have name : required members (.single "name") text = .ok character.name :=
    required_of_mem distinct (.text character.name) (by simp [isMembers, Field.single]) rfl
  have description : optional members (.single "description") "" text =
      .ok character.description :=
    optional_of_mem distinct (.text character.description)
      (by simp [isMembers, Field.single]) rfl
  have attributes : optional members (.single "attributes") {} Attributes.ofValue =
      .ok character.attributes :=
    optional_of_mem distinct _ (by simp [isMembers, Field.single])
      character.attributes.ofValue_toValue
  have portrait : optional members (.single "portrait") none text? = .ok character.portrait :=
    optional_of_mem distinct _ (by simp [isMembers, Field.single]) (text?_ofText? _)
  have backstory : optional members (.single "backstory") "" text = .ok character.backstory :=
    optional_of_mem distinct (.text character.backstory)
      (by simp [isMembers, Field.single]) rfl
  have only : onlyFields members fields = .ok () :=
    onlyFields_of_keys distinct (by simp [isMembers, fields, Field.single])
  simp only [id, name, description, attributes, portrait, backstory, only]
  rfl

/-- An item is read from its document, if its properties hold finite numbers alone and have
distinct names. -/
theorem Item.ofValue_toValue {item : Item} (named : Value.Distinct (.object item.properties))
    (finite : ∀ property ∈ item.properties, property.2.isSendable = true) :
    ofValue item.toValue = .ok item := by
  refine record_object fun members isMembers => ?_
  have distinct : members.keys.Nodup := by simp [isMembers]
  have id : required members (.single "id") text = .ok item.id :=
    required_of_mem distinct (.text item.id) (by simp [isMembers, Field.single]) rfl
  have name : required members (.single "name") text = .ok item.name :=
    required_of_mem distinct (.text item.name) (by simp [isMembers, Field.single]) rfl
  have description : optional members (.single "description") "" text = .ok item.description :=
    optional_of_mem distinct (.text item.description)
      (by simp [isMembers, Field.single]) rfl
  have type : optional members typeField .misc (oneOf ItemType.options) = .ok item.type :=
    optional_of_mem distinct _ (by simp [isMembers, typeField]) item.type.read_name
  have image : optional members (.single "image") none text? = .ok item.image :=
    optional_of_mem distinct _ (by simp [isMembers, Field.single]) (text?_ofText? _)
  have properties : optional members (.single "properties") []
      (table fun value => .ok value.merged) = .ok item.properties := by
    have kept : Value.finiteMembers item.properties = item.properties :=
      Value.finiteMembers_eq fun property member => Value.finiteOnly_eq (finite property member)
    refine optional_of_mem distinct (.object item.properties) ?_
      (table_self named.1 fun property member => congrArg Except.ok
        (Value.merged_eq ((Value.distinctMembers_iff _).mp named.2 property member)))
    simp [isMembers, Field.single, kept]
  have only : onlyFields members fields = .ok () :=
    onlyFields_of_keys distinct (by simp [isMembers, fields, Field.single, typeField])
  simp only [id, name, description, type, image, properties, only]
  rfl

/-- Settings are read from their document. -/
theorem GameSettings.ofValue_toValue (settings : GameSettings) :
    ofValue settings.toValue = .ok settings := by
  refine record_object fun members isMembers => ?_
  have distinct : members.keys.Nodup := by simp [isMembers]
  have theme : optional members (.single "theme") .dark (oneOf Theme.options) =
      .ok settings.theme :=
    optional_of_mem distinct _ (by simp [isMembers, Field.single]) settings.theme.read_name
  have difficulty : optional members (.single "difficulty") .normal (oneOf Difficulty.options) =
      .ok settings.difficulty :=
    optional_of_mem distinct _ (by simp [isMembers, Field.single]) settings.difficulty.read_name
  have saving : optional members savingField true switch = .ok settings.enableSaving :=
    optional_of_mem distinct (.bool settings.enableSaving)
      (by simp [isMembers, savingField]) rfl
  have music : optional members musicField false switch = .ok settings.enableMusic :=
    optional_of_mem distinct (.bool settings.enableMusic)
      (by simp [isMembers, musicField]) rfl
  have voice : optional members voiceField false switch = .ok settings.enableVoice :=
    optional_of_mem distinct (.bool settings.enableVoice)
      (by simp [isMembers, voiceField]) rfl
  have only : onlyFields members fields = .ok () :=
    onlyFields_of_keys distinct
      (by simp [isMembers, fields, Field.single, savingField, musicField, voiceField])
  simp only [theme, difficulty, saving, music, voice, only]
  rfl

/-- The value of a declared variable is read from its document. -/
theorem VariableValue.ofValue_toValue (value : VariableValue) :
    ofValue value.toValue = .ok value := by
  cases value with
  | scalar x => cases x <;> rfl
  | text s => rfl

/-! ## Projects -/

/-- A project that fits the schema is read from its document, whatever the moment of reading, if
the properties of its items hold finite numbers alone. The texts of its moments have no halves. -/
theorem Project.ofValue_toValue {project : Project} (fits : project.FitsSchema)
    (finite : ∀ item ∈ project.items, ∀ property ∈ item.properties,
      property.2.isSendable = true) (now : Moment) :
    ofValue now project.toValue = .ok project := by
  refine record_object fun members isMembers => ?_
  have distinct : members.keys.Nodup := by simp [isMembers]
  have id : required members (.single "id") text = .ok project.id :=
    required_of_mem distinct (.text project.id) (by simp [isMembers, Field.single]) rfl
  have name : required members (.single "name") text = .ok project.name :=
    required_of_mem distinct (.text project.name) (by simp [isMembers, Field.single]) rfl
  have description : optional members (.single "description") "" text = .ok project.description :=
    optional_of_mem distinct (.text project.description)
      (by simp [isMembers, Field.single]) rfl
  have genre : optional members (.single "genre") "" text = .ok project.genre :=
    optional_of_mem distinct (.text project.genre)
      (by simp [isMembers, Field.single]) rfl
  have created : optional members (.single "created") now Moment.ofValue = .ok project.created :=
    optional_of_mem distinct _ (by simp [isMembers, Field.single])
      (Moment.ofValue_text fits.created)
  have updated : optional members (.single "updated") now Moment.ofValue = .ok project.updated :=
    optional_of_mem distinct _ (by simp [isMembers, Field.single])
      (Moment.ofValue_text fits.updated)
  have scenes : optional members (.single "scenes") [] (list Scene.ofValue) =
      .ok project.scenes :=
    optional_of_mem distinct _ (by simp [isMembers, Field.single])
      (list_map fun scene member => Scene.ofValue_toValue (fits.scenes scene member))
  have characters : optional members (.single "characters") [] (list Character.ofValue) =
      .ok project.characters :=
    optional_of_mem distinct _ (by simp [isMembers, Field.single])
      (list_map fun character _ => character.ofValue_toValue)
  have items : optional members (.single "items") [] (list Item.ofValue) = .ok project.items :=
    optional_of_mem distinct _ (by simp [isMembers, Field.single])
      (list_map fun item member =>
        Item.ofValue_toValue (fits.properties item member) (finite item member))
  have declared : optional members (.single "variables") [] (table VariableValue.ofValue) =
      .ok project.declared :=
    optional_of_mem distinct _ (by simp [isMembers, Field.single])
      (table_map VariableValue.toValue fits.declared fun entry _ => entry.2.ofValue_toValue)
  have settings : optional members (.single "settings") {} GameSettings.ofValue =
      .ok project.settings :=
    optional_of_mem distinct _ (by simp [isMembers, Field.single])
      project.settings.ofValue_toValue
  have start : optional members startField none text? = .ok project.startSceneId :=
    optional_of_mem distinct _ (by simp [isMembers, startField]) (text?_ofText? _)
  have only : onlyFields members fields = .ok () :=
    onlyFields_of_keys distinct (by simp [isMembers, fields, Field.single, startField])
  simp only [id, name, description, genre, created, updated, scenes, characters, items, declared,
    settings, start, only]
  rfl

end Gamebook
