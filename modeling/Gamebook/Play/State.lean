import Gamebook.Json.Value
import Gamebook.Story.Rule

/-!
# The state of a playthrough

A state says where the player is, what the store holds, under which kind each key
was first written, whether the story has ended, and which choices were taken. A key
read under another kind than its own counts as absent: nothing held, zero, or not
set. A saved state is read back only when every value fits the kind of its key.
-/

namespace Gamebook

/-- Whether a story goes on. -/
inductive Status
  | active
  | ended
  deriving DecidableEq, Repr

/-- The name of a status. -/
def Status.name : Status → String
  | .active => "active"
  | .ended => "ended"

/-- A snapshot of a playthrough. -/
structure PlayerState where
  sceneId : String
  values : Entries Scalar := []
  kinds : Entries Kind := []
  status : Status := .active
  history : List String := []
  deriving DecidableEq, Repr

namespace PlayerState

/-- Whether the story has ended. -/
def isEnded (state : PlayerState) : Bool := state.status == .ended

/-- Whether a key may be read under a kind: it has that kind or none. -/
def allows (state : PlayerState) (key : String) (kind : Kind) : Bool :=
  match state.kinds.get? key with
  | some bound => bound == kind
  | none => true

/-- The stored value of a key, or the given one. -/
def valueOr (state : PlayerState) (key : String) (standard : Scalar) : Scalar :=
  (state.values.get? key).getD standard

/-- How large an attribute is. -/
def attributeValue (state : PlayerState) (key : String) : Scalar :=
  if state.allows key .attribute then state.valueOr key (.int 0) else .int 0

/-- How many of an item are held. -/
def itemCount (state : PlayerState) (key : String) : Except NumberFault Int :=
  if state.allows key .item then (state.valueOr key (.int 0)).toWhole else .ok 0

/-- Whether a flag is set. -/
def flag (state : PlayerState) (key : String) : Bool :=
  state.allows key .flag && (state.valueOr key (.bool false)).isTrue

/-- The items held, by key, of which there is at least one. -/
def inventory (state : PlayerState) : Except NumberFault (List (String × Int)) :=
  let held := state.values.filter fun (key, value) =>
    state.kinds.get? key == some .item && Scalar.isLess (.int 0) value
  (held.mergeSort fun a b => textAtMost a.1 b.1).mapM fun (key, value) =>
    value.toWhole.map (key, ·)

/-- A state as a document. -/
def toValue (state : PlayerState) : Value :=
  .object [("currentSceneId", .text state.sceneId),
    ("variables", .object (state.values.map fun (key, x) => (key, .ofScalar x))),
    ("kinds", .object (state.kinds.map fun (key, kind) => (key, .text kind.name))),
    ("status", .text state.status.name), ("history", .ofTexts state.history)]

/-! ## Reading a saved state -/

/-- Why a document is no saved state. -/
inductive Fault
  | noScene
  | notObjects
  | unmatchedKinds
  | unknownKind (shown : String)
  | wrongValue (shown : String) (kind : Kind) (key : String)
  | unknownStatus (shown : String)
  | noHistory
  | number (fault : NumberFault)
  deriving DecidableEq, Repr

/-- The fault as a sentence. -/
def Fault.message : Fault → String
  | .noScene => "Invalid state payload: missing currentSceneId"
  | .notObjects => "Invalid state payload: variables and kinds must be objects"
  | .unmatchedKinds => "Invalid state payload: every variable needs a kind"
  | .unknownKind shown => shown ++ " is not a valid Kind"
  | .wrongValue shown kind key =>
    "Invalid state payload: " ++ shown ++ " is not a valid " ++ kind.name ++ " value for '" ++
      key ++ "'"
  | .unknownStatus shown => "Invalid state payload: unknown status " ++ shown
  | .noHistory => "Invalid state payload: history must be a list"
  | .number fault => fault.message

/-- The text of a value as a message shows it, for a fault. -/
def showing {α : Type} (value : Value) (fault : String → Fault) : Except Fault α :=
  match value.shown with
  | .ok shown => .error (fault shown)
  | .error number => .error (.number number)

/-- Whether a scalar can be stored under a kind. -/
def fits (kind : Kind) (x : Scalar) : Bool :=
  match kind with
  | .item => x.isCount
  | .attribute => x.isNumber
  | .flag => x.isBool

/-- Reads the kinds of a saved state. -/
def readKinds : List (String × Value) → Except Fault (Entries Kind)
  | [] => .ok []
  | (key, value) :: rest =>
    match value.text?.bind fun name => Entries.get? Kind.options name with
    | none => showing value .unknownKind
    | some kind =>
      match readKinds rest with
      | .ok kinds => .ok ((key, kind) :: kinds)
      | .error fault => .error fault

/-- Checks that every key has a value of its kind. -/
def checkValues (values : Entries Value) : Entries Kind → Except Fault Unit
  | [] => .ok ()
  | (key, kind) :: rest =>
    let value := (values.get? key).getD .null
    match value.scalar? with
    | none => showing value fun shown => .wrongValue shown kind key
    | some x =>
      if fits kind x then checkValues values rest
      else showing value fun shown => .wrongValue shown kind key

/-- Reads the status of a saved state. -/
def readStatus : Option Value → Except Fault Status
  | none => .ok .active
  | some value =>
    match value.text? with
    | some "active" => .ok .active
    | some "ended" => .ok .ended
    | _ => showing value .unknownStatus

/-- An entry of the history; anything but a text is kept as a message shows it. -/
def readEntry : Value → Except Fault String
  | .text id => .ok id
  | value =>
    match value.shown with
    | .ok shown => .ok shown
    | .error number => .error (.number number)

/-- Reads the history of a saved state: a list of entries, or the names of an object. -/
def readHistory : Option Value → Except Fault (List String)
  | none => .ok []
  | some (.list entries) => entries.mapM readEntry
  | some (.object members) => .ok (members.map (·.1))
  | some _ => .error .noHistory

/-- A member that must be an object, and is an empty one when it is missing. -/
def objectOf (members : Entries Value) (name : String) : Option (Entries Value) :=
  match members.get? name with
  | none => some []
  | some value => value.object?

/-- Reads a saved state. -/
def ofMembers (members : Entries Value) : Except Fault PlayerState :=
  match (members.get? "currentSceneId").bind (·.text?) with
  | none => .error .noScene
  | some sceneId =>
    if sceneId.isEmpty then .error .noScene
    else
      match objectOf members "variables", objectOf members "kinds" with
      | some values, some kindValues =>
        if !(values.keys.all kindValues.has && kindValues.keys.all values.has) then
          .error .unmatchedKinds
        else do
          let kinds ← readKinds kindValues
          checkValues values kinds
          let status ← readStatus (members.get? "status")
          let history ← readHistory (members.get? "history")
          let stored := values.filterMap fun (key, value) => value.scalar?.map (key, ·)
          .ok ⟨sceneId, stored, kinds, status, history⟩
      | _, _ => .error .notObjects

end PlayerState

end Gamebook
