import Gamebook.Json.Value
import Gamebook.Text.Letter

/-!
# Messages and completions

A message has one of three roles and a content that is more than blanks. A
completion is a message with the usage that the provider reported, whole numbers by
name. Outer blanks of roles and contents are dropped, and the letter case of a role
is no matter.
-/

namespace Gamebook

/-- Who speaks. -/
inductive Role
  | system
  | user
  | assistant
  deriving DecidableEq, Repr

/-- The name of a role. -/
def Role.name : Role → String
  | .system => "system"
  | .user => "user"
  | .assistant => "assistant"

/-- The role with exactly this name. -/
def Role.ofName? (name : String) : Option Role :=
  [.system, .user, .assistant].find? (·.name == name)

/-- One message to or from a provider. -/
structure Message where
  role : Role
  content : String
  deriving DecidableEq, Repr

/-- A message with the usage that came with it. -/
structure Completion where
  message : Message
  usage : Entries Int := []
  deriving DecidableEq, Repr

/-- Why values are no message or no completion. -/
inductive MessageFault
  | notText (field kind : String)
  | blank (field : String)
  | unknownRole (role : String)
  | usageValue (name : String)
  | usageKind (kind : String)
  deriving DecidableEq, Repr

/-- What kind of failure a fault makes. -/
inductive MessageFault.Nature
  | type
  | content
  | shape
  deriving DecidableEq, Repr

/-- What kind of failure the fault makes. -/
def MessageFault.nature : MessageFault → Nature
  | .notText .. | .usageValue _ => .type
  | .blank _ | .unknownRole _ => .content
  | .usageKind _ => .shape

/-- The fault as a sentence. -/
def MessageFault.message : MessageFault → String
  | .notText field kind => field ++ " must be a string, got <class '" ++ kind ++ "'>"
  | .blank field => field ++ " must be a non-empty string"
  | .unknownRole role =>
    "role must be one of ['assistant', 'system', 'user'], got " ++ Text.quoted role
  | .usageValue name => "usage value for " ++ Text.quoted name ++ " must be an int"
  | .usageKind kind => "'" ++ kind ++ "' object has no attribute 'items'"

namespace Message

/-- A text with something in it, trimmed. -/
def requireText (field : String) (value : Value) : Except MessageFault String :=
  match value.text? with
  | none => .error (.notText field value.fullKindName)
  | some text =>
    let trimmed := Text.trim text
    if trimmed.isEmpty then .error (.blank field) else .ok trimmed

/-- A message from its two values. The role is looked at first. -/
def ofValues (role content : Value) : Except MessageFault Message :=
  match requireText "role" role with
  | .error fault => .error fault
  | .ok name =>
    match Role.ofName? (Text.lower name) with
    | none => .error (.unknownRole (Text.lower name))
    | some role => (requireText "content" content).map fun content => ⟨role, content⟩

/-- A message of the user. -/
def ofUser (content : String) : Except MessageFault Message :=
  ofValues (.text Role.user.name) (.text content)

end Message

/-- The usage of a completion: whole numbers and nothing else. -/
def readUsage : List (String × Value) → Except MessageFault (Entries Int)
  | [] => .ok []
  | (name, .int n) :: rest => (readUsage rest).map ((name, n) :: ·)
  | (name, _) :: _ => .error (.usageValue name)

/-- A completion from a message and the usage that came with it. Nothing, zero and whatever is
empty are no usage. -/
def Completion.ofValues (message : Message) (usage : Value) : Except MessageFault Completion :=
  match usage with
  | .object members => (readUsage members).map fun usage => ⟨message, usage⟩
  | other => if other.isTrue then .error (.usageKind other.kindName) else .ok ⟨message, []⟩

end Gamebook
