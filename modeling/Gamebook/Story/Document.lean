import Gamebook.Json.Reader
import Gamebook.Schema.Lenient
import Gamebook.Schema.Loose
import Gamebook.Story.Project

/-!
# Projects as documents

Every entity is written as a record with all its fields, and read from a record in
which fields with a standard value may be missing and no other members may stand.
Field names in documents join words by capitals; the plain names join them by
underscores and are read as well. A flag condition without an operator compares for
equality, any other without one asks for at least the value. Dates that are missing
are those of the given moment. Only the loose properties of items and the names of
variables can keep a record from being written.
-/

namespace Gamebook

open Schema (Checked Complaint Field Mismatch Origin)

/-! ## Reading -/

namespace Condition

/-- The fields of a condition. -/
def fields : List Field := ["kind", "key", "operator", "value"].map .single

/-- The operator a condition has when it names none. -/
def standardOperator (members : Entries Value) : Operator :=
  match members.get? "kind" with
  | some (.text kind) => if kind = Kind.flag.name then .equal else .atLeast
  | _ => .atLeast

/-- Reads a condition. Its members are merged before the operator is settled. -/
def ofValue (value : Value) : Checked Condition :=
  Schema.record "Condition" value fun given =>
    let members := Entries.ofPairs given
    let kind := Schema.required members (.single "kind") (Schema.oneOf Kind.options)
    let key := Schema.required members (.single "key") (Schema.label "condition key")
    let operator := Schema.optional members (.single "operator") (standardOperator members)
      (Schema.oneOf Operator.options)
    let value := Schema.required members (.single "value") Schema.scalar
    (Checked.start mk |>.and kind |>.and key |>.and operator |>.and value).before
      (Schema.onlyFields members fields)

end Condition

namespace Consequence

/-- The fields of a consequence. -/
def fields : List Field := ["kind", "key", "value", "operation"].map .single

/-- Reads a consequence. -/
def ofValue (value : Value) : Checked Consequence :=
  Schema.record "Consequence" value fun members =>
    let kind := Schema.required members (.single "kind") (Schema.oneOf Kind.options)
    let key := Schema.required members (.single "key") (Schema.label "consequence key")
    let value := Schema.required members (.single "value") Schema.scalar
    let operation := Schema.optional members (.single "operation") .set
      (Schema.oneOf Operation.options)
    (Checked.start mk |>.and kind |>.and key |>.and value |>.and operation).before
      (Schema.onlyFields members fields)

end Consequence

namespace Choice

/-- The field that names the target. -/
def targetField : Field := ⟨"nextSceneId", "next_scene_id"⟩

/-- The fields of a choice. -/
def fields : List Field :=
  [.single "id", .single "text", targetField, .single "requirements", .single "consequences"]

/-- Reads a choice. -/
def ofValue (value : Value) : Checked Choice :=
  Schema.record "Choice" value fun members =>
    let id := Schema.required members (.single "id") (Schema.label "choice id")
    let text := Schema.required members (.single "text") Schema.text
    let target := Schema.optional members targetField terminalTarget Schema.text
    let requirements := Schema.optional members (.single "requirements") []
      (Schema.list Condition.ofValue)
    let consequences := Schema.optional members (.single "consequences") []
      (Schema.list Consequence.ofValue)
    (Checked.start mk |>.and id |>.and text |>.and target |>.and requirements
      |>.and consequences).before
      (Schema.onlyFields members fields)

end Choice

namespace Scene

/-- The fields of a scene. -/
def fields : List Field := ["id", "title", "description", "image", "choices"].map .single

/-- Reads a scene. -/
def ofValue (value : Value) : Checked Scene :=
  Schema.record "Scene" value fun members =>
    let id := Schema.required members (.single "id") (Schema.label "scene id")
    let title := Schema.required members (.single "title") Schema.text
    let description := Schema.optional members (.single "description") "" Schema.text
    let image := Schema.optional members (.single "image") none Schema.text?
    let choices := Schema.optional members (.single "choices") [] (Schema.list Choice.ofValue)
    (Checked.start mk |>.and id |>.and title |>.and description |>.and image |>.and choices).before
      (Schema.onlyFields members fields)

end Scene

namespace Attributes

/-- The fields of the attributes. -/
def fields : List Field := ["health", "strength", "intelligence", "agility"].map .single

/-- Reads attributes. -/
def ofValue (value : Value) : Checked Attributes :=
  Schema.record "CharacterAttributes" value fun members =>
    let health := Schema.optional members (.single "health") 0 Schema.whole
    let strength := Schema.optional members (.single "strength") 0 Schema.whole
    let intelligence := Schema.optional members (.single "intelligence") 0 Schema.whole
    let agility := Schema.optional members (.single "agility") 0 Schema.whole
    (Checked.start mk |>.and health |>.and strength |>.and intelligence |>.and agility).before
      (Schema.onlyFields members fields)

end Attributes

namespace Character

/-- The fields of a character. -/
def fields : List Field :=
  ["id", "name", "description", "attributes", "portrait", "backstory"].map .single

/-- Reads a character. -/
def ofValue (value : Value) : Checked Character :=
  Schema.record "Character" value fun members =>
    let id := Schema.required members (.single "id") Schema.text
    let name := Schema.required members (.single "name") Schema.text
    let description := Schema.optional members (.single "description") "" Schema.text
    let attributes := Schema.optional members (.single "attributes") {} Attributes.ofValue
    let portrait := Schema.optional members (.single "portrait") none Schema.text?
    let backstory := Schema.optional members (.single "backstory") "" Schema.text
    (Checked.start mk |>.and id |>.and name |>.and description |>.and attributes
      |>.and portrait |>.and backstory).before
      (Schema.onlyFields members fields)

end Character

namespace Item

/-- The field that names the type. -/
def typeField : Field := ⟨"type", "item_type"⟩

/-- The fields of an item. -/
def fields : List Field :=
  [.single "id", .single "name", .single "description", typeField, .single "image",
    .single "properties"]

/-- Reads an item. Its properties may be any values. -/
def ofValue (value : Value) : Checked Item :=
  Schema.record "Item" value fun members =>
    let id := Schema.required members (.single "id") Schema.text
    let name := Schema.required members (.single "name") Schema.text
    let description := Schema.optional members (.single "description") "" Schema.text
    let type := Schema.optional members typeField .misc (Schema.oneOf ItemType.options)
    let image := Schema.optional members (.single "image") none Schema.text?
    let properties := Schema.optional members (.single "properties") []
      (Schema.table fun value => .ok value.merged)
    (Checked.start mk |>.and id |>.and name |>.and description |>.and type |>.and image
      |>.and properties).before
      (Schema.onlyFields members fields)

end Item

namespace GameSettings

/-- The field of the saving switch. -/
def savingField : Field := ⟨"enableSaving", "enable_saving"⟩

/-- The field of the music switch. -/
def musicField : Field := ⟨"enableMusic", "enable_music"⟩

/-- The field of the voice switch. -/
def voiceField : Field := ⟨"enableVoice", "enable_voice"⟩

/-- The fields of the settings. -/
def fields : List Field :=
  [.single "theme", .single "difficulty", savingField, musicField, voiceField]

/-- Reads settings. -/
def ofValue (value : Value) : Checked GameSettings :=
  Schema.record "GameSettings" value fun members =>
    let theme := Schema.optional members (.single "theme") .dark (Schema.oneOf Theme.options)
    let difficulty := Schema.optional members (.single "difficulty") .normal
      (Schema.oneOf Difficulty.options)
    let saving := Schema.optional members savingField true Schema.switch
    let music := Schema.optional members musicField false Schema.switch
    let voice := Schema.optional members voiceField false Schema.switch
    (Checked.start mk |>.and theme |>.and difficulty |>.and saving |>.and music |>.and voice).before
      (Schema.onlyFields members fields)

end GameSettings

/-- Reads the value of a declared variable: a scalar or a text, each kept as what it is. -/
def VariableValue.ofValue : Value → Checked VariableValue
  | .text s => .ok (.text s)
  | value =>
    match Schema.scalar value with
    | .ok x => .ok (.scalar x)
    | .error problems => .error (problems ++ [⟨.notText, [.name "str"]⟩])

/-- A moment of a year that has a number; the year before the first has none. -/
def Moment.numbered (m : Moment) : Except Moment.Fault Moment :=
  if m.year = 0 then .error .yearZero else .ok m

/-- A moment that was read, unless that failed. -/
def Moment.ofReading (reading : Except Moment.Fault Moment) : Checked Moment :=
  match reading.bind Moment.numbered with
  | .ok m => .ok m
  | .error fault => Checked.fail (.unreadableMoment fault.text)

/-- The complaint of a whole count beyond 64 bits: it lies beyond the calendar, unless no
floating-point number comes near it. -/
def Moment.vastComplaint (count : Int) : Complaint :=
  match Binary64.ofInt count with
  | .ok _ => .vastCount (if count < 0 then Moment.Fault.tooEarly else .tooLate).text
  | .error _ => .notMoment

/-- Reads a moment: a text, or a count of seconds. -/
def Moment.ofValue : Value → Checked Moment
  | .text s =>
    Schema.wholeText s fun s =>
      match Moment.read s with
      | .ok m => Moment.ofReading (.ok m)
      | .error fault => Checked.fail (.unreadableDate fault.text)
  | .int n =>
    if Moment.isNarrow n then Moment.ofReading (Moment.ofCount n)
    else Checked.fail (Moment.vastComplaint n)
  | .float x => Moment.ofReading (Moment.ofFloat x)
  | _ => Checked.fail .notMoment

namespace Project

/-- The field that names the start scene. -/
def startField : Field := ⟨"startSceneId", "start_scene_id"⟩

/-- The fields of a project. -/
def fields : List Field :=
  ["id", "name", "description", "genre", "created", "updated", "scenes", "characters", "items",
    "variables", "settings"].map .single ++ [startField]

/-- Reads a project; the dates are those of the given moment when they are missing. -/
def ofValue (now : Moment) (value : Value) : Checked Project :=
  Schema.record "Project" value fun members =>
    let id := Schema.required members (.single "id") Schema.text
    let name := Schema.required members (.single "name") Schema.text
    let description := Schema.optional members (.single "description") "" Schema.text
    let genre := Schema.optional members (.single "genre") "" Schema.text
    let created := Schema.optional members (.single "created") now Moment.ofValue
    let updated := Schema.optional members (.single "updated") now Moment.ofValue
    let scenes := Schema.optional members (.single "scenes") [] (Schema.list Scene.ofValue)
    let characters := Schema.optional members (.single "characters") []
      (Schema.list Character.ofValue)
    let items := Schema.optional members (.single "items") [] (Schema.list Item.ofValue)
    let declared := Schema.optional members (.single "variables") []
      (Schema.table VariableValue.ofValue)
    let settings := Schema.optional members (.single "settings") {} GameSettings.ofValue
    let start := Schema.optional members startField none Schema.text?
    (Checked.start mk |>.and id |>.and name |>.and description |>.and genre |>.and created
      |>.and updated |>.and scenes |>.and characters |>.and items |>.and declared
      |>.and settings |>.and start).before
      (Schema.onlyFields members fields)

end Project

namespace Schema

variable {α : Type}

/-- What reading gives, with its problems gathered under a title. -/
def gather (title : String) (origin : Origin) : Checked α → Except Mismatch α
  | .ok x => .ok x
  | .error problems => .error ⟨title, origin, problems⟩

/-- Reads an entity from a value in memory. -/
def ofValue (title : String) (read : Value → Checked α) (value : Value) : Except Mismatch α :=
  gather title .value (read value)

/-- The problem of a text that holds no document, at the place of the whole. -/
def noDocument (title : String) (complaint : Complaint) : Mismatch :=
  ⟨title, .text, [⟨complaint, []⟩]⟩

/-- Reads an entity from the text of a document, which must have an encoding. -/
def ofText (title : String) (read : Value → Checked α) (source : String) : Except Mismatch α :=
  if Text.holdsHalf source then .error (noDocument title .brokenText)
  else
    match Json.read .project source with
    | .ok value => gather title .text (read value)
    | .error fault =>
      .error (noDocument title (.unreadableDocument (fault.projectMessage source.toList)))

end Schema

/-- Reads a project from the text of a document. -/
def Project.ofText (now : Moment) (source : String) : Except Mismatch Project :=
  Schema.ofText "Project" (Project.ofValue now) source

/-! ## Writing -/

/-- A condition as a document. -/
def Condition.toValue (condition : Condition) : Value :=
  .object [("kind", .text condition.kind.name), ("key", .text condition.key),
    ("operator", .text condition.operator.sign), ("value", .ofScalar condition.value)]

/-- A consequence as a document. -/
def Consequence.toValue (consequence : Consequence) : Value :=
  .object [("kind", .text consequence.kind.name), ("key", .text consequence.key),
    ("value", .ofScalar consequence.value), ("operation", .text consequence.operation.name)]

/-- A choice as a document. -/
def Choice.toValue (choice : Choice) : Value :=
  .object [("id", .text choice.id), ("text", .text choice.text),
    ("nextSceneId", .text choice.target),
    ("requirements", .list (choice.requirements.map Condition.toValue)),
    ("consequences", .list (choice.consequences.map Consequence.toValue))]

/-- A scene as a document. -/
def Scene.toValue (scene : Scene) : Value :=
  .object [("id", .text scene.id), ("title", .text scene.title),
    ("description", .text scene.description), ("image", .ofText? scene.image),
    ("choices", .list (scene.choices.map Choice.toValue))]

/-- Attributes as a document. -/
def Attributes.toValue (attributes : Attributes) : Value :=
  .object [("health", .int attributes.health), ("strength", .int attributes.strength),
    ("intelligence", .int attributes.intelligence), ("agility", .int attributes.agility)]

/-- A character as a document. -/
def Character.toValue (character : Character) : Value :=
  .object [("id", .text character.id), ("name", .text character.name),
    ("description", .text character.description),
    ("attributes", character.attributes.toValue), ("portrait", .ofText? character.portrait),
    ("backstory", .text character.backstory)]

/-- An item as a document. Numbers of its properties that no document can hold are left out. -/
def Item.toValue (item : Item) : Value :=
  .object [("id", .text item.id), ("name", .text item.name),
    ("description", .text item.description), ("type", .text item.type.name),
    ("image", .ofText? item.image), ("properties", .object (Value.finiteMembers item.properties))]

/-- Settings as a document. -/
def GameSettings.toValue (settings : GameSettings) : Value :=
  .object [("theme", .text settings.theme.name), ("difficulty", .text settings.difficulty.name),
    ("enableSaving", .bool settings.enableSaving), ("enableMusic", .bool settings.enableMusic),
    ("enableVoice", .bool settings.enableVoice)]

/-- The value of a declared variable as a document. -/
def VariableValue.toValue : VariableValue → Value
  | .scalar x => .ofScalar x
  | .text s => .text s

/-- A project as a document. -/
def Project.toValue (project : Project) : Value :=
  .object [("id", .text project.id), ("name", .text project.name),
    ("description", .text project.description), ("genre", .text project.genre),
    ("created", .text project.created.text), ("updated", .text project.updated.text),
    ("scenes", .list (project.scenes.map Scene.toValue)),
    ("characters", .list (project.characters.map Character.toValue)),
    ("items", .list (project.items.map Item.toValue)),
    ("variables", .object (project.declared.map fun (key, value) => (key, value.toValue))),
    ("settings", project.settings.toValue), ("startSceneId", .ofText? project.startSceneId)]

/-- Why an item cannot be written, if it cannot. -/
def Item.writeFault? (item : Item) : Option Schema.WriteFault :=
  Schema.looseMembersFault? Schema.nestingLimit item.properties

/-- Why a project cannot be written, if it cannot: the first fault of its items, or else of the
names of its variables. -/
def Project.writeFault? (project : Project) : Option Schema.WriteFault :=
  project.items.findSome? Item.writeFault? <|>
    project.declared.keys.findSome? Schema.nameFault?

/-- An item as a document, if it can be written. -/
def Item.write (item : Item) : Except Schema.WriteFault Value :=
  match item.writeFault? with
  | some fault => .error fault
  | none => .ok item.toValue

/-- A project as a document, if it can be written. -/
def Project.write (project : Project) : Except Schema.WriteFault Value :=
  match project.writeFault? with
  | some fault => .error fault
  | none => .ok project.toValue

/-- Whether two item lists have equal properties. -/
def Item.sameProperties : List Item → List Item → Bool
  | [], [] => true
  | x :: xs, y :: ys =>
    Value.sameMembers x.properties y.properties && sameProperties xs ys
  | _, _ => false

/-- Whether two projects are equal in every part. -/
def Project.same (x y : Project) : Bool :=
  Value.same x.toValue y.toValue && Item.sameProperties x.items y.items

end Gamebook
