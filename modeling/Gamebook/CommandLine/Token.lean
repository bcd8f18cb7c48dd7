import Gamebook.Text.Digit
import Gamebook.Text.Part

/-!
# Words of a command line

Each argument is a plain word, an option of the command with or without a value
attached, or an option nobody knows. A long option may be shortened as long as
only one option begins that way. A word that begins with a dash is plain when it
is the dash alone, looks like a negative number or has a space inside. After the
first double dash every argument is plain.
-/

namespace Gamebook.CommandLine

/-- An option of a command. -/
structure Switch where
  /-- All spellings, dashes included. -/
  names : List String
  /-- Whether a value belongs to it. -/
  takesValue : Bool
  deriving DecidableEq, Repr

/-- What an argument is. -/
inductive Token
  | word (text : String)
  | known (switch : Switch) (attached : Option String)
  | unknown
  | divider
  deriving DecidableEq, Repr

/-- Whether characters look like a negative number. One line end behind it does not count. -/
def looksNegative (cs : List Char) : Bool :=
  let isDigit (c : Char) : Bool := (Text.digitValue? c).isSome
  match if cs.getLast? = some '\n' then cs.dropLast else cs with
  | '-' :: body =>
    match body.dropWhile isDigit with
    | [] => !body.isEmpty
    | '.' :: fraction => !fraction.isEmpty && fraction.all isDigit
    | _ => false
  | _ => false

/-- The characters before the first equals sign and, if there is one, those after it. -/
def splitAtSign (cs : List Char) : List Char × Option (List Char) :=
  match cs.span (· ≠ '=') with
  | (before, _ :: after) => (before, some after)
  | (before, []) => (before, none)

/-- The option with exactly this spelling. -/
def findSwitch (switches : List Switch) (name : List Char) : Option Switch :=
  switches.find? fun switch => switch.names.contains (String.ofList name)

/-- The options with a spelling that begins this way, once for each such spelling. -/
def switchesFrom (switches : List Switch) (start : List Char) : List Switch :=
  switches.flatMap fun switch =>
    (switch.names.filter fun name => start.isPrefixOf name.toList).map fun _ => switch

/-- Whether an option is spelled with two dashes. -/
def isLong (cs : List Char) : Bool := ['-', '-'].isPrefixOf cs

/-- The readings of an argument as a shortened option or as a short one with its value. -/
def candidates (switches : List Switch) (cs : List Char) : List Token :=
  if isLong cs then
    let (start, value) := splitAtSign cs
    (switchesFrom switches start).map fun switch => .known switch (value.map String.ofList)
  else
    match findSwitch switches (cs.take 2) with
    | some switch => [.known switch (some (String.ofList (cs.drop 2)))]
    | none => []

/-- What an argument is, before any double dash; nothing when it could be several options. -/
def classify (switches : List Switch) (argument : String) : Option Token :=
  let cs := argument.toList
  if cs.head? != some '-' || cs == ['-'] then some (.word argument)
  else
    match findSwitch switches cs with
    | some switch => some (.known switch none)
    | none =>
      let (name, value) := splitAtSign cs
      match value, findSwitch switches name with
      | some value, some switch => some (.known switch (some (String.ofList value)))
      | _, _ =>
        match candidates switches cs with
        | [token] => some token
        | _ :: _ :: _ => none
        | [] => some (if looksNegative cs || cs.contains ' ' then .word argument else .unknown)

/-- What the arguments are; nothing when one of them could be several options. -/
def tokens (switches : List Switch) : List String → Option (List Token)
  | [] => some []
  | "--" :: rest => some (.divider :: rest.map .word)
  | argument :: rest =>
    match classify switches argument, tokens switches rest with
    | some token, some others => some (token :: others)
    | _, _ => none

end Gamebook.CommandLine
