import Gamebook.Json.Value

/-!
# Writing documents

A document is written on one line, or with every item and member on a line of its
own, indented by its depth. Members keep their order. Inside a text only the double
quote, the backslash and the controls are escaped; a layout for plain characters
also escapes everything beyond the printable first 128, halves of characters too. A
value is printable unless it holds a whole number with too many digits or something
foreign; the first such part in document order is the fault.
-/

namespace Gamebook.Json

/-- How a document is laid out. -/
structure Layout where
  /-- Blanks for each level of depth; none puts everything on one line. -/
  indent : Option Nat
  /-- Whether only printable characters of the first 128 are written. -/
  plain : Bool := false
  deriving DecidableEq, Repr

/-- Everything on one line. -/
def oneLine : Layout := ⟨none, false⟩

/-- Why a value cannot be written. -/
inductive PrintFault
  | number (fault : NumberFault)
  | foreign
  deriving DecidableEq, Repr

/-- The fault as a sentence. -/
def PrintFault.message : PrintFault → String
  | .number fault => fault.message
  | .foreign => "Object of type Opaque is not JSON serializable"

mutual

/-- The first part of a value that cannot be written. -/
def fault? : Value → Option PrintFault
  | .int n => if Numeral.isWritable n then none else some (.number .digitsToWrite)
  | .list items => itemsFault? items
  | .object members => membersFault? members
  | .foreign => some .foreign
  | _ => none

/-- The first part of some items that cannot be written. -/
def itemsFault? : List Value → Option PrintFault
  | [] => none
  | item :: rest => fault? item <|> itemsFault? rest

/-- The first part of some members that cannot be written. -/
def membersFault? : List (String × Value) → Option PrintFault
  | [] => none
  | (_, value) :: rest => fault? value <|> membersFault? rest

end

/-- Four hexadecimal digits after the mark of a numbered character. -/
def numbered (n : Nat) : List Char := '\\' :: 'u' :: Text.hexDigits 4 n

/-- One character inside a text. -/
def escaped (plain : Bool) (c : Char) : List Char :=
  if c = '"' then ['\\', '"']
  else if c = '\\' then ['\\', '\\']
  else if c = '\n' then ['\\', 'n']
  else if c = '\r' then ['\\', 'r']
  else if c = '\t' then ['\\', 't']
  else if c.toNat = 8 then ['\\', 'b']
  else if c.toNat = 12 then ['\\', 'f']
  else if c.toNat < 0x20 then numbered c.toNat
  else if !plain || c.toNat < 0x7F then [c]
  else if c.toNat < 0x10000 then numbered c.toNat
  else
    match Text.half? c with
    | some half => numbered half
    | none =>
      let offset := c.toNat - 0x10000
      numbered (0xD800 + offset / 0x400) ++ numbered (0xDC00 + offset % 0x400)

/-- A text between double quotes. -/
def writeText (plain : Bool) (s : String) : List Char :=
  '"' :: s.toList.flatMap (escaped plain) ++ ['"']

/-- A floating-point number; the undefined and the infinite ones are written as words. -/
def writeFloat : Binary64 → List Char
  | .nan => "NaN".toList
  | .infinity negative => (if negative then "-Infinity" else "Infinity").toList
  | .finite negative units h => (Decimal.text (.finite negative units h)).toList

/-- The gap before an item at a given depth. -/
def lineGap (layout : Layout) (depth : Nat) : List Char :=
  match layout.indent with
  | none => []
  | some width => '\n' :: List.replicate (width * depth) ' '

/-- The mark between two neighbours at a given depth. -/
def separator (layout : Layout) (depth : Nat) : List Char :=
  match layout.indent with
  | none => [',', ' ']
  | some _ => ',' :: lineGap layout depth

mutual

/-- The text of a value at a given depth. -/
def render (layout : Layout) (depth : Nat) : Value → List Char
  | .null => "null".toList
  | .bool b => (if b then "true" else "false").toList
  | .int n => (Numeral.text n).toList
  | .float x => writeFloat x
  | .text s => writeText layout.plain s
  | .list [] => ['[', ']']
  | .list (item :: rest) =>
    '[' :: lineGap layout (depth + 1) ++ render layout (depth + 1) item ++
      renderItems layout (depth + 1) rest ++ lineGap layout depth ++ [']']
  | .object [] => ['\x7b', '\x7d']
  | .object ((key, value) :: rest) =>
    '\x7b' :: lineGap layout (depth + 1) ++ writeText layout.plain key ++ [':', ' '] ++
      render layout (depth + 1) value ++ renderMembers layout (depth + 1) rest ++
      lineGap layout depth ++ ['\x7d']
  | .foreign => []

/-- The text of the items after the first one. -/
def renderItems (layout : Layout) (depth : Nat) : List Value → List Char
  | [] => []
  | item :: rest =>
    separator layout depth ++ render layout depth item ++ renderItems layout depth rest

/-- The text of the members after the first one. -/
def renderMembers (layout : Layout) (depth : Nat) : List (String × Value) → List Char
  | [] => []
  | (key, value) :: rest =>
    separator layout depth ++ writeText layout.plain key ++ [':', ' '] ++
      render layout depth value ++ renderMembers layout depth rest

end

/-- The document of a value. -/
def print (layout : Layout) (value : Value) : Except PrintFault String :=
  match fault? value with
  | some fault => .error fault
  | none => .ok (String.ofList (render layout 0 value))

end Gamebook.Json
