import Gamebook.Reply.Object
import Gamebook.Reply.Pattern

/-!
# Replies in lines

A reply without an object is read line by line. Labels and bullets say what a line
is; the first line that says nothing is the title or the name, and later ones
belong to the description.
-/

namespace Gamebook.Reply

/-- The text that was found, unless it is empty or missing. -/
def filled (found : Option String) : Option String := found.filter fun text => !text.isEmpty

/-! ## Scenes -/

/-- What lines have told about a scene so far. -/
structure SceneParts where
  title : Option String := none
  description : List String := []
  choices : List String := []
  deriving DecidableEq, Repr

/-- The text of the choice on a line: behind a choice label, or else behind a bullet. -/
def choiceOnLine? (line : String) : Option String :=
  match choiceLabel? (cleanCharacters line.toList) <|> bullet? line.toList with
  | some text =>
    if text.all Text.isBlank then none else some (String.ofList (cleanCharacters text))
  | none => none

/-- Takes a line as plain text of a scene. -/
def SceneParts.plain (parts : SceneParts) (cleaned : String) : SceneParts :=
  if isSectionHeader cleaned then parts
  else if parts.title.isNone && parts.description.isEmpty then
    { parts with title := some cleaned }
  else { parts with description := parts.description ++ [cleaned] }

/-- Takes a line of a scene. -/
def SceneParts.take (parts : SceneParts) (line : String) : SceneParts :=
  match choiceOnLine? line with
  | some text => { parts with choices := parts.choices ++ [text] }
  | none =>
    match labelled? line.toList with
    | none => parts.plain (clean line)
    | some (label, value) =>
      if ["title", "scene", "scene title"].contains label && !value.isEmpty &&
          parts.title.isNone then
        { parts with title := some value }
      else if label = "description" && !value.isEmpty then
        { parts with description := parts.description ++ [value] }
      else if sectionHeaders.contains label && value.isEmpty then parts
      else parts.plain (clean line)

/-- The scene of some lines. -/
def sceneOfLines (lines : List String) (ids : IdSource) : Scene × List String × IdSource :=
  let parts := lines.foldl SceneParts.take {}
  let (title, titleNotes) :=
    orDefault (filled parts.title) "no title found; using default" defaultSceneTitle
  let (id, ids) := ids.drawTrimmed "scene"
  let (choices, ids) := ids.drawChoices parts.choices
  ({ id := id, title := title, description := String.intercalate " " parts.description
     choices := choices },
    titleNotes ++ noteIf parts.description.isEmpty "no description found" ++
      noteIf parts.choices.isEmpty "no choices found",
    ids)

/-! ## Characters -/

/-- What lines have told about a character so far. -/
structure CharacterParts where
  name : Option String := none
  description : List String := []
  backstory : List String := []
  values : Entries Int := []
  inBackstory : Bool := false
  deriving DecidableEq, Repr

/-- Keeps the first value of each attribute; a value with too many digits is a fault. -/
def recordValues (values : Entries Int) :
    List (String × List Char) → Except NumberFault (Entries Int)
  | [] => .ok values
  | (name, digits) :: rest =>
    match Numeral.read (String.ofList digits) with
    | .error fault => .error fault
    | .ok n => recordValues (if values.has name then values else values.put name n) rest

/-- Takes a line as plain text of a character. -/
def CharacterParts.plain (parts : CharacterParts) (cleaned : String) : CharacterParts :=
  if parts.name.isNone && parts.description.isEmpty then { parts with name := some cleaned }
  else if parts.inBackstory then { parts with backstory := parts.backstory ++ [cleaned] }
  else { parts with description := parts.description ++ [cleaned] }

/-- A value as a list of lines: none when it is empty. -/
def lineOf (value : String) : List String := if value.isEmpty then [] else [value]

/-- Takes a line of a character without attributes on it. -/
def CharacterParts.takeText (parts : CharacterParts) (line : String) : CharacterParts :=
  match labelled? line.toList with
  | none => parts.plain (clean line)
  | some (label, value) =>
    if ["name", "character"].contains label && !value.isEmpty && parts.name.isNone then
      { parts with name := some value }
    else if label = "backstory" then
      { parts with inBackstory := true, backstory := parts.backstory ++ lineOf value }
    else if label = "description" then
      { parts with inBackstory := false, description := parts.description ++ lineOf value }
    else if sectionHeaders.contains label && value.isEmpty then parts
    else parts.plain (clean line)

/-- Takes the lines of a character one after the other. -/
def CharacterParts.takeAll (parts : CharacterParts) :
    List String → Except NumberFault CharacterParts
  | [] => .ok parts
  | line :: rest =>
    match attributes line with
    | [] => (parts.takeText line).takeAll rest
    | found =>
      match recordValues parts.values found with
      | .error fault => .error fault
      | .ok values => { parts with values := values }.takeAll rest

/-- The character of some lines. -/
def characterOfLines (lines : List String) (ids : IdSource) :
    Except NumberFault (Character × List String × IdSource) :=
  (CharacterParts.takeAll {} lines).map fun parts =>
    let (name, nameNotes) :=
      orDefault (filled parts.name) "no name found; using default" defaultCharacterName
    let (id, ids) := ids.draw "character"
    ({ id := id, name := name, description := String.intercalate " " parts.description
       attributes := attributesOf parts.values
       backstory := String.intercalate " " parts.backstory },
      nameNotes ++ attributeNotes parts.values, ids)

/-! ## Items -/

/-- What lines have told about an item so far. -/
structure ItemParts where
  name : Option String := none
  type : Option String := none
  description : List String := []
  properties : Entries Value := []
  deriving Repr

/-- Takes a line as plain text of an item. -/
def ItemParts.plain (parts : ItemParts) (cleaned : String) : ItemParts :=
  if parts.name.isNone && parts.description.isEmpty then { parts with name := some cleaned }
  else { parts with description := parts.description ++ [cleaned] }

/-- Takes a line of an item. A bullet with an unknown label is a property. -/
def ItemParts.take (parts : ItemParts) (line : String) : ItemParts :=
  let bullet := bullet? line.toList
  match labelled? (bullet.getD line.toList) with
  | none => parts.plain (clean line)
  | some (label, value) =>
    if ["name", "item"].contains label && !value.isEmpty && parts.name.isNone then
      { parts with name := some value }
    else if label = "type" && !value.isEmpty then { parts with type := some value }
    else if label = "description" && !value.isEmpty then
      { parts with description := parts.description ++ [value] }
    else if sectionHeaders.contains label && value.isEmpty then parts
    else if bullet.isSome && !value.isEmpty then
      { parts with properties := parts.properties.put label (.text value) }
    else parts.plain (clean line)

/-- The item of some lines. -/
def itemOfLines (lines : List String) (ids : IdSource) : Item × List String × IdSource :=
  let parts := lines.foldl ItemParts.take {}
  let (name, nameNotes) :=
    orDefault (filled parts.name) "no name found; using default" defaultItemName
  let (id, ids) := ids.draw "item"
  let (type, typeNotes) := itemTypeOf parts.type
  ({ id := id, name := name, description := String.intercalate " " parts.description, type := type
     properties := parts.properties },
    nameNotes ++ typeNotes, ids)

end Gamebook.Reply
