import Gamebook.Number.Fault

/-!
# Where and why reading a document stopped

Two kinds of documents are read. Project documents come from authors and are read
strictly; stored documents come from a store or from a generator. Both follow the
same grammar and stop at the first fault, but they describe it differently: a
project document names the fault by line and byte column, a stored document by
line, column and character offset.
-/

namespace Gamebook.Json

/-- The two kinds of documents. -/
inductive Dialect
  | project
  | stored
  deriving DecidableEq, Repr

/-- What the reader met, or failed to meet. -/
inductive Cause
  /-- The text ends where a value must begin or goes on. -/
  | endInValue
  /-- The text ends inside a list. -/
  | endInList
  /-- The text ends inside an object, where the given part is missing. -/
  | endInObject (missing : Cause)
  /-- The text ends after the comma behind a member. -/
  | endAfterMember
  /-- The text ends inside a text value. -/
  | endInText
  /-- A character that begins no value. -/
  | noValue
  /-- A word that begins as one of the literals and goes on differently. -/
  | noLiteral
  /-- A list ends right after a comma. -/
  | commaBeforeListEnd
  /-- An object ends right after a comma. -/
  | commaBeforeObjectEnd
  /-- Neither a comma nor the end of the list follows an item. -/
  | noListSeparator
  /-- Neither a comma nor the end of the object follows a member. -/
  | noObjectSeparator
  /-- A member does not begin with its name. -/
  | noName
  /-- No colon follows a name. -/
  | noColon
  /-- Something follows the document. -/
  | trailing
  /-- Too many lists and objects are open at once. -/
  | tooDeep (inObject : Bool)
  /-- A number breaks off or goes on wrongly. -/
  | badNumber
  /-- A whole number has too many digits. -/
  | hugeNumber (digits : Nat)
  /-- A backslash does not begin an escape. -/
  | badEscape
  /-- The four digits of a numbered character are not there. -/
  | badNumberedCharacter
  /-- The second half of a numbered pair is not there. -/
  | unfinishedPair
  /-- A numbered half character stands alone. -/
  | loneHalf
  /-- A control character stands inside a text value. -/
  | control
  /-- The document begins with a byte order mark. -/
  | byteOrderMark
  deriving DecidableEq, Repr

/-- A cause and the number of characters from there to the end of the text. -/
structure Fault where
  cause : Cause
  left : Nat
  deriving DecidableEq, Repr

/-- The cause in the words of project documents. -/
def Cause.projectText : Cause → String
  | .endInValue => "EOF while parsing a value"
  | .endInList => "EOF while parsing a list"
  | .endInObject _ => "EOF while parsing an object"
  | .endAfterMember => "EOF while parsing a value"
  | .endInText => "EOF while parsing a string"
  | .noValue => "expected value"
  | .noLiteral => "expected ident"
  | .commaBeforeListEnd => "trailing comma"
  | .commaBeforeObjectEnd => "trailing comma"
  | .noListSeparator => "expected `,` or `]`"
  | .noObjectSeparator => "expected `,` or `\x7d`"
  | .noName => "key must be a string"
  | .noColon => "expected `:`"
  | .trailing => "trailing characters"
  | .tooDeep _ => "recursion limit exceeded"
  | .badNumber => "invalid number"
  | .hugeNumber _ => "number out of range"
  | .badEscape => "invalid escape"
  | .badNumberedCharacter => "invalid escape"
  | .unfinishedPair => "unexpected end of hex escape"
  | .loneHalf => "lone leading surrogate in hex escape"
  | .control => "control character (\\u0000-\\u001F) found while parsing a string"
  | .byteOrderMark => "expected value"

/-- The cause in the words of stored documents. -/
def Cause.storedText : Cause → String
  | .endInValue => "Expecting value"
  | .endInList => "Expecting ',' delimiter"
  | .endInObject .noName => "Expecting property name enclosed in double quotes"
  | .endInObject .noColon => "Expecting ':' delimiter"
  | .endInObject _ => "Expecting ',' delimiter"
  | .endAfterMember => "Expecting property name enclosed in double quotes"
  | .endInText => "Unterminated string starting at"
  | .noValue => "Expecting value"
  | .noLiteral => "Expecting value"
  | .commaBeforeListEnd => "Expecting value"
  | .commaBeforeObjectEnd => "Expecting property name enclosed in double quotes"
  | .noListSeparator => "Expecting ',' delimiter"
  | .noObjectSeparator => "Expecting ',' delimiter"
  | .noName => "Expecting property name enclosed in double quotes"
  | .noColon => "Expecting ':' delimiter"
  | .trailing => "Extra data"
  | .tooDeep inObject =>
    "maximum recursion depth exceeded while decoding a JSON " ++
      (if inObject then "object" else "array") ++ " from a unicode string"
  | .badNumber => "Expecting value"
  | .hugeNumber digits => (NumberFault.digitsToRead digits).message
  | .badEscape => "Invalid \\escape"
  | .badNumberedCharacter => "Invalid \\uXXXX escape"
  | .unfinishedPair => "Invalid \\uXXXX escape"
  | .loneHalf => "Invalid \\uXXXX escape"
  | .control => "Invalid control character at"
  | .byteOrderMark => "Unexpected UTF-8 BOM (decode using utf-8-sig)"

/-- The number of bytes that characters take. -/
def byteCount (cs : List Char) : Nat := (cs.map Char.utf8Size).foldl (· + ·) 0

/-- The line of a place, counted from one, and the characters before it on that line. -/
def lineAndColumn (before : List Char) : Nat × List Char :=
  (before.count '\n' + 1, (before.reverse.takeWhile (· != '\n')).reverse)

/-- The sentence for a fault of a project document. A fault at a line break counts to the
line that follows it, and a fault at the end points at the last byte. -/
def Fault.projectMessage (source : List Char) (fault : Fault) : String :=
  let offset := source.length - fault.left
  let atBreak := (source.drop offset).head? == some '\n'
  let before := if atBreak then source.take (offset + 1) else source.take offset
  let (line, onLine) := lineAndColumn before
  let column := byteCount onLine + (if atBreak || fault.left == 0 then 0 else 1)
  fault.cause.projectText ++ " at line " ++ Nat.repr line ++ " column " ++ Nat.repr column

/-- The sentence for a fault of a stored document. Depth and digit faults have no place. -/
def Fault.storedMessage (source : List Char) (fault : Fault) : String :=
  match fault.cause with
  | .tooDeep _ | .hugeNumber _ => fault.cause.storedText
  | cause =>
    let offset := source.length - fault.left
    let (line, onLine) := lineAndColumn (source.take offset)
    cause.storedText ++ ": line " ++ Nat.repr line ++ " column " ++
      Nat.repr (onLine.length + 1) ++ " (char " ++ Nat.repr offset ++ ")"

end Gamebook.Json
