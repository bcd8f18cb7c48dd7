import Gamebook.Json.Value
import Gamebook.Story.Document

/-!
# Generated content

What a generator is asked for is a scene, a character or an item. Content made from
a reply carries a note for every part that was not found and had to be replaced by
a default; content with notes is ambiguous. New entities get ids from a source that
gives hexadecimal texts one after the other.
-/

namespace Gamebook

/-- What a generator can be asked for. -/
inductive ContentKind
  | scene
  | character
  | item
  deriving DecidableEq, Repr

/-- The name of a content kind. -/
def ContentKind.name : ContentKind → String
  | .scene => "scene"
  | .character => "character"
  | .item => "item"

/-- The content kind with exactly this name. -/
def ContentKind.ofName? (name : String) : Option ContentKind :=
  [.scene, .character, .item].find? (·.name == name)

/-- An entity made from a reply. -/
inductive Entity
  | scene (scene : Scene)
  | character (character : Character)
  | item (item : Item)
  deriving Repr

/-- The kind of an entity. -/
def Entity.kind : Entity → ContentKind
  | .scene _ => .scene
  | .character _ => .character
  | .item _ => .item

/-- The title of the kind of an entity, for messages. -/
def ContentKind.title : ContentKind → String
  | .scene => "Scene"
  | .character => "Character"
  | .item => "Item"

/-- An entity as a document. -/
def Entity.toValue : Entity → Value
  | .scene s => s.toValue
  | .character c => c.toValue
  | .item i => i.toValue

/-- An entity as a document, if it can be written. -/
def Entity.write : Entity → Except Schema.WriteFault Value
  | .item i => i.write
  | other => .ok other.toValue

/-- An entity with a note for every default it needed. -/
structure Content where
  kind : ContentKind
  entity : Entity
  notes : List String
  deriving Repr

/-- Content is ambiguous when some default was needed. -/
def Content.isAmbiguous (content : Content) : Bool := !content.notes.isEmpty

/-- A sentence about ambiguous content. -/
def ambiguousText (kind : String) (notes : List String) : String :=
  let detail := String.intercalate "; " notes
  "Generated " ++ kind ++ " content was ambiguous: " ++
    (if detail.isEmpty then "no details" else detail)

/-- The entity of content that needed no default; otherwise the reason against it. -/
def Content.require (content : Content) : Except String Entity :=
  if content.isAmbiguous then .error (ambiguousText content.kind.name content.notes)
  else .ok content.entity

/-- The entity of content when it is of the expected kind; otherwise the reason against it. -/
def Content.expect (content : Content) (expected : ContentKind) : Except String Entity :=
  if content.entity.kind = expected then .ok content.entity
  else
    .error ("Expected a generated " ++ expected.title ++ ", got " ++ content.entity.kind.title)

/-! ## Ids -/

/-- A source of hexadecimal texts: first given ones, then consecutive numbers. -/
structure IdSource where
  given : List String := []
  counter : Nat := 0
  deriving DecidableEq, Repr

/-- The next hexadecimal text. -/
def IdSource.next (source : IdSource) : String × IdSource :=
  match source.given with
  | hex :: rest => (hex, { source with given := rest })
  | [] =>
    (String.ofList (Text.hexDigits 12 source.counter),
      { source with counter := source.counter + 1 })

/-- The next id for an entity: its label and the first twelve characters of the next text. -/
def IdSource.draw (source : IdSource) (label : String) : String × IdSource :=
  let (hex, rest) := source.next
  (label ++ "_" ++ String.ofList (hex.toList.take 12), rest)

/-- The next id for a scene or a choice, which has no blanks at its ends. -/
def IdSource.drawTrimmed (source : IdSource) (label : String) : String × IdSource :=
  let (id, rest) := source.draw label
  (Text.trim id, rest)

/-- The choices for some texts, each with a new id; all of them end the story. -/
def IdSource.drawChoices (source : IdSource) : List String → List Choice × IdSource
  | [] => ([], source)
  | text :: texts =>
    let (id, source) := source.drawTrimmed "choice"
    let (choices, source) := source.drawChoices texts
    ({ id := id, text := text } :: choices, source)

end Gamebook
