import Gamebook.Json.Value
import Gamebook.Text.Blank

/-!
# Keys

A document is kept under a key. Outer blanks do not belong to a key; what is left
must be something, must not look like a path and must not begin with a dot.
-/

namespace Gamebook.Archive

/-- Why a key is refused. -/
inductive KeyFault
  | notText
  | blank
  | pathLike (given : String)
  deriving DecidableEq, Repr

/-- The fault as a sentence. -/
def KeyFault.message : KeyFault → String
  | .notText => "key must be a string"
  | .blank => "key must be a non-empty string"
  | .pathLike given =>
    "key " ++ Text.quoted given ++ " must not contain path separators or start with '.'"

/-- Whether a key could be read as a path or is hidden. -/
def isPathLike (cs : List Char) : Bool :=
  cs.contains '/' || cs.contains '\\' || cs.head? == some '.'

/-- The key proper of a given key. -/
def checkKey (given : String) : Except KeyFault String :=
  let key := Text.trimBlanks given.toList
  if key.isEmpty then .error .blank
  else if isPathLike key then .error (.pathLike given)
  else .ok (String.ofList key)

/-- The given key that a value is. -/
def keyOf (value : Value) : Except KeyFault String :=
  match value.text? with
  | some given => .ok given
  | none => .error .notText

end Gamebook.Archive
