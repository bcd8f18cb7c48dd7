import Gamebook.Json.Reader
import Gamebook.Reply.Content
import Gamebook.Text.Letter

/-!
# Replies with an object

A reply that holds an object is read from it, whatever stands around: the text from
the first opening brace to the last closing one must be one document. Texts in the
object are trimmed, blank ones count as missing, and every missing part gets a
default and a note.
-/

namespace Gamebook.Reply

/-- The title of a scene without one. -/
def defaultSceneTitle : String := "Untitled Scene"

/-- The name of a character without one. -/
def defaultCharacterName : String := "Unnamed Character"

/-- The name of an item without one. -/
def defaultItemName : String := "Unnamed Item"

/-- The characters from the first opening brace to the last closing one. -/
def objectSlice? (cs : List Char) : Option (List Char) :=
  match cs.dropWhile (· != '\x7b') with
  | [] => none
  | body =>
    match body.reverse.dropWhile (· != '\x7d') with
    | [] => none
    | slice => some slice.reverse

/-- The members of the object in a reply. A slice that is no document holds none; a number with
too many digits is a fault. -/
def objectIn? (text : String) : Except NumberFault (Option (Entries Value)) :=
  match objectSlice? text.toList with
  | none => .ok none
  | some slice =>
    match Json.readCharacters .stored slice with
    | .ok value => .ok value.object?
    | .error ⟨.hugeNumber digits, _⟩ => .error (.digitsToRead digits)
    | .error _ => .ok none

/-- The first of some members that is a text with something in it, trimmed. -/
def textField? (members : Entries Value) (names : List String) : Option String :=
  names.findSome? fun name =>
    ((members.get? name).bind (·.text?)).bind fun text =>
      let trimmed := Text.trim text
      if trimmed.isEmpty then none else some trimmed

/-- A text that was found, or its default with a note. -/
def orDefault (found : Option String) (note standard : String) : String × List String :=
  match found with
  | some text => (text, [])
  | none => (standard, [note])

/-- A note when a condition holds. -/
def noteIf (condition : Bool) (note : String) : List String := if condition then [note] else []

/-! ## Scenes -/

/-- The text of a choice that is written as a text or as an object. -/
def choiceText? : Value → Option String
  | .text text =>
    let trimmed := Text.trim text
    if trimmed.isEmpty then none else some trimmed
  | .object members => textField? members ["text", "description", "label"]
  | _ => none

/-- The scene of an object. -/
def sceneOfObject (members : Entries Value) (ids : IdSource) : Scene × List String × IdSource :=
  let (title, titleNotes) :=
    orDefault (textField? members ["title", "name", "scene"]) "no title found; using default"
      defaultSceneTitle
  let description := (textField? members ["description", "text", "narration"]).getD ""
  let texts := (((members.get? "choices").bind (·.list?)).getD []).filterMap choiceText?
  let (choices, ids) := ids.drawChoices texts
  let (id, ids) := ids.drawTrimmed "scene"
  ({ id := id, title := title, description := description, choices := choices },
    titleNotes ++ noteIf description.isEmpty "no description found" ++
      noteIf choices.isEmpty "no choices found",
    ids)

/-! ## Characters -/

/-- The names of the attributes in order. -/
def attributeNames : List String := ["health", "strength", "intelligence", "agility"]

/-- Attributes from the values that were found. -/
def attributesOf (values : Entries Int) : Attributes :=
  let valueOf (name : String) : Int := (values.get? name).getD 0
  { health := valueOf "health", strength := valueOf "strength"
    intelligence := valueOf "intelligence", agility := valueOf "agility" }

/-- A note about the attributes that were not found. -/
def attributeNotes (values : Entries Int) : List String :=
  let missing := attributeNames.filter fun name => !values.has name
  noteIf (!missing.isEmpty) ("attributes defaulted to 0: " ++ String.intercalate ", " missing)

/-- The whole numbers among the attribute members of an object. -/
def attributeValues (members : Entries Value) : Entries Int :=
  attributeNames.filterMap fun name =>
    match members.get? name with
    | some (.int n) => some (name, n)
    | _ => none

/-- The character of an object. -/
def characterOfObject (members : Entries Value) (ids : IdSource) :
    Character × List String × IdSource :=
  let (name, nameNotes) :=
    orDefault (textField? members ["name", "character"]) "no name found; using default"
      defaultCharacterName
  let source := ((members.get? "attributes").bind (·.object?)).getD members
  let values := attributeValues source
  let (id, ids) := ids.draw "character"
  ({ id := id, name := name
     description := (textField? members ["description"]).getD ""
     attributes := attributesOf values
     backstory := (textField? members ["backstory", "history"]).getD "" },
    nameNotes ++ attributeNotes values, ids)

/-! ## Items -/

/-- Whether a text begins with another. -/
def beginsWith (start text : String) : Bool := start.toList.isPrefixOf text.toList

/-- The item type a text begins with, or the plain one with a note. -/
def itemTypeOf (text : Option String) : ItemType × List String :=
  let found :=
    text.bind fun text =>
      (ItemType.options.find? fun (name, _) => beginsWith name (Text.lower (Text.trim text))).map
        (·.2)
  match found with
  | some type => (type, [])
  | none => (.misc, ["item type not recognised; using misc"])

/-- The item of an object. -/
def itemOfObject (members : Entries Value) (ids : IdSource) : Item × List String × IdSource :=
  let (name, nameNotes) :=
    orDefault (textField? members ["name", "item"]) "no name found; using default" defaultItemName
  let (id, ids) := ids.draw "item"
  let (type, typeNotes) := itemTypeOf (textField? members ["type", "itemType", "category"])
  ({ id := id, name := name
     description := (textField? members ["description"]).getD ""
     type := type
     properties := ((members.get? "properties").bind (·.object?)).getD [] },
    nameNotes ++ typeNotes, ids)

end Gamebook.Reply
