import Gamebook.Json.Value
import Gamebook.Text.Utf8

/-!
# Loose values

Some members of a record may be any values. They are read with their objects
merged. They are written if they nest to at most 254 lists and objects, hold nothing
foreign and have names that can be encoded; the first part in document order that
breaks one of these rules is the fault. A text that is no name needs no encoding
yet, so half a character may stand in it.
-/

namespace Gamebook.Schema

/-- Why a record cannot be written. -/
inductive WriteFault
  | tooDeep
  | foreign
  | name (fault : Text.HalfFault)
  deriving DecidableEq, Repr

/-- The fault as a sentence. -/
def WriteFault.message : WriteFault → String
  | .tooDeep => "Maximum serialization depth exceeded"
  | .foreign => "Unable to serialize unknown type: <class '" ++ Value.fullKindName .foreign ++ "'>"
  | .name fault => fault.message

/-- The most lists and objects that may stand one in the other. -/
def nestingLimit : Nat := 254

/-- The fault of a name, if it cannot be encoded. -/
def nameFault? (name : String) : Option WriteFault :=
  (Text.halfFault? name.toList).map .name

mutual

/-- The first fault of a value in which so many lists and objects may stand one in the other. -/
def looseFault? (room : Nat) : Value → Option WriteFault
  | .list items => if room = 0 then some .tooDeep else looseItemsFault? (room - 1) items
  | .object members => if room = 0 then some .tooDeep else looseMembersFault? (room - 1) members
  | .foreign => some .foreign
  | _ => none

/-- The first fault of some items. -/
def looseItemsFault? (room : Nat) : List Value → Option WriteFault
  | [] => none
  | item :: rest => looseFault? room item <|> looseItemsFault? room rest

/-- The first fault of some members. -/
def looseMembersFault? (room : Nat) : List (String × Value) → Option WriteFault
  | [] => none
  | (name, value) :: rest =>
    nameFault? name <|> looseFault? room value <|> looseMembersFault? room rest

end

end Gamebook.Schema
