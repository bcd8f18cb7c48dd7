import Gamebook.Reply.Lines

/-!
# Content from replies

Any reply gives content of the kind that is asked for. An object in the reply comes
before lines, a reply without any is replaced by defaults, and so is one with a
number that is too long to read.
-/

namespace Gamebook.Reply

/-- The kind a value asks for, in any letter case and with blanks around it. Anything else asks
for a scene, with a note. -/
def resolveKind (value : Value) : Except NumberFault (ContentKind × List String) :=
  match value.text?.bind fun text => ContentKind.ofName? (Text.lower (Text.trim text)) with
  | some kind => .ok (kind, [])
  | none =>
    value.shown.map fun shown =>
      (.scene, ["unknown content kind " ++ shown ++ "; treated as scene"])

/-- An entity with nothing but a name. -/
def defaultEntity (kind : ContentKind) (ids : IdSource) : Entity × IdSource :=
  match kind with
  | .scene =>
    let (id, ids) := ids.drawTrimmed "scene"
    (.scene { id := id, title := defaultSceneTitle }, ids)
  | .character =>
    let (id, ids) := ids.draw "character"
    (.character { id := id, name := defaultCharacterName }, ids)
  | .item =>
    let (id, ids) := ids.draw "item"
    (.item { id := id, name := defaultItemName }, ids)

/-- The entity of an object. -/
def ofObject (kind : ContentKind) (members : Entries Value) (ids : IdSource) :
    Entity × List String × IdSource :=
  match kind with
  | .scene =>
    let (scene, notes, ids) := sceneOfObject members ids
    (.scene scene, notes, ids)
  | .character =>
    let (character, notes, ids) := characterOfObject members ids
    (.character character, notes, ids)
  | .item =>
    let (item, notes, ids) := itemOfObject members ids
    (.item item, notes, ids)

/-- The entity of some lines. -/
def ofLines (kind : ContentKind) (lines : List String) (ids : IdSource) :
    Except NumberFault (Entity × List String × IdSource) :=
  match kind with
  | .scene =>
    let (scene, notes, ids) := sceneOfLines lines ids
    .ok (.scene scene, notes, ids)
  | .character =>
    (characterOfLines lines ids).map fun (character, notes, ids) =>
      (.character character, notes, ids)
  | .item =>
    let (item, notes, ids) := itemOfLines lines ids
    .ok (.item item, notes, ids)

/-- The entity of a reply with something in it. -/
def entityOf (kind : ContentKind) (text : String) (lines : List String) (ids : IdSource) :
    Except NumberFault (Entity × List String × IdSource) :=
  match objectIn? text with
  | .error fault => .error fault
  | .ok (some members) => .ok (ofObject kind members ids)
  | .ok none => ofLines kind lines ids

/-- The content of a reply, after the notes that were made before. -/
def read (kind : ContentKind) (earlier : List String) (text : String) (ids : IdSource) :
    Content × IdSource :=
  let lines := (Text.lines text).filter fun line => !Text.isAllBlank line
  if lines.isEmpty then
    let (entity, ids) := defaultEntity kind ids
    (⟨kind, entity, earlier ++ ["no content to parse; using defaults"]⟩, ids)
  else
    match entityOf kind text lines ids with
    | .ok (entity, notes, ids) => (⟨kind, entity, earlier ++ notes⟩, ids)
    | .error fault =>
      let (entity, ids) := defaultEntity kind ids
      (⟨kind, entity, earlier ++ ["could not build " ++ kind.name ++ ": " ++ fault.message]⟩, ids)

end Gamebook.Reply
