import Gamebook.Json.Fault
import Gamebook.Json.Value

/-!
# Reading documents

A document is one value with blanks around it. The reader takes characters from
the front of the text and gives the value with what is left, or the first fault.
Every list and object that is opened takes at least one character, so the length
of the text bounds the work; a limit on open lists and objects, 200 for project
documents and 985 for stored ones, bounds the depth. Of two members of a stored
object with one name the later value counts, in the place of the earlier one; a
project object keeps both, so that both can be judged.
-/

namespace Gamebook.Json

/-- What a reader gives: a result and the characters left, or a fault. -/
abbrev Reading (α : Type) := Except Fault (α × List Char)

/-- Stops with a cause where the given characters are left. -/
def stop {α : Type} (cause : Cause) (cs : List Char) : Except Fault α :=
  .error ⟨cause, cs.length⟩

/-- The blanks between the parts of a document. -/
def isGap (c : Char) : Bool := c == ' ' || c == '\n' || c == '\r' || c == '\t'

/-- What is left after blanks. -/
def skipGap (cs : List Char) : List Char := cs.dropWhile isGap

/-- The most lists and objects that may be open at once. -/
def Dialect.depthLimit : Dialect → Nat
  | .project => 200
  | .stored => 985

/-! ## Texts -/

/-- The value of a hexadecimal digit. -/
def hexValue? (c : Char) : Option Nat :=
  if '0' ≤ c && c ≤ '9' then some (c.toNat - 48)
  else if 'a' ≤ c && c ≤ 'f' then some (c.toNat - 87)
  else if 'A' ≤ c && c ≤ 'F' then some (c.toNat - 55)
  else none

/-- The number that four hexadecimal digits spell. -/
def fourHex? (a b c d : Char) : Option Nat :=
  match hexValue? a, hexValue? b, hexValue? c, hexValue? d with
  | some a, some b, some c, some d => some (((a * 16 + b) * 16 + c) * 16 + d)
  | _, _, _, _ => none

/-- The character that a letter stands for after a backslash. -/
def escapedCharacter? : Char → Option Char
  | '"' => some '"'
  | '\\' => some '\\'
  | '/' => some '/'
  | 'b' => some (Char.ofNat 8)
  | 'f' => some (Char.ofNat 12)
  | 'n' => some '\n'
  | 'r' => some '\r'
  | 't' => some '\t'
  | _ => none

/-- How many of up to four characters are hexadecimal digits before the first other one. -/
def hexRun (cs : List Char) : Nat := ((cs.take 4).takeWhile fun c => (hexValue? c).isSome).length

/-- The fault of a numbered character whose digits, beginning at the given characters, are
not there. -/
def numberedFault {α : Type} (dialect : Dialect) (cs : List Char) : Except Fault α :=
  match dialect with
  | .stored => .error ⟨.badNumberedCharacter, cs.length + 1⟩
  | .project =>
    if byteCount (cs.take 4) < 4 then .error ⟨.endInText, 0⟩
    else .error ⟨.badNumberedCharacter, cs.length - hexRun cs⟩

/-- The fault of a first half that no second half follows in a project document. -/
def halfFault {α : Type} : List Char → Except Fault α
  | [] => .error ⟨.endInText, 0⟩
  | ['\\'] => .error ⟨.endInText, 0⟩
  | '\\' :: rest => .error ⟨.unfinishedPair, rest.length⟩
  | rest => .error ⟨.unfinishedPair, rest.length⟩

/-- Whether characters begin with the mark of a numbered character. -/
def beginsNumbered : List Char → Bool
  | '\\' :: 'u' :: _ => true
  | _ => false

/-- Puts a character in front of the text that a reader gives. -/
def prepend (c : Char) (reading : Reading (List Char)) : Reading (List Char) :=
  match reading with
  | .ok (cs, rest) => .ok (c :: cs, rest)
  | .error fault => .error fault

/-- Puts a first half that stayed alone in front of the text that a reader gives. -/
def settle (pending : Option Nat) (reading : Reading (List Char)) : Reading (List Char) :=
  match pending with
  | some half => prepend (Text.numbered half) reading
  | none => reading

/-- Reads a text up to its closing quote, when a first half may be waiting for its second one.
A stored text that never closes is faulted at its opening quote, one character before the ones
it begins with, which are given. -/
def readText (dialect : Dialect) (begun : List Char) (pending : Option Nat) (cs : List Char) :
    Reading (List Char) :=
  if dialect = .project && pending.isSome && !beginsNumbered cs then halfFault cs
  else
    match cs with
    | [] => .error ⟨.endInText, if dialect = .stored then begun.length + 1 else 0⟩
    | '"' :: rest => settle pending (.ok ([], rest))
    | '\\' :: 'u' :: a :: b :: c :: d :: rest =>
      match fourHex? a b c d with
      | none => numberedFault dialect (a :: b :: c :: d :: rest)
      | some n =>
        if dialect = .stored && rest.isEmpty then
          numberedFault dialect (a :: b :: c :: d :: rest)
        else
          match pending with
          | some first =>
            if Text.isSecondHalf n then
              prepend (Char.ofNat (Text.pairNumber first n)) (readText dialect begun none rest)
            else if dialect = .project then .error ⟨.loneHalf, rest.length + 1⟩
            else if Text.isFirstHalf n then
              settle pending (readText dialect begun (some n) rest)
            else settle pending (prepend (Text.numbered n) (readText dialect begun none rest))
          | none =>
            if Text.isFirstHalf n then readText dialect begun (some n) rest
            else if dialect = .project && Text.isSecondHalf n then
              .error ⟨.loneHalf, rest.length + 1⟩
            else prepend (Text.numbered n) (readText dialect begun none rest)
    | '\\' :: 'u' :: short => numberedFault dialect short
    | ['\\'] => .error ⟨.endInText, if dialect = .stored then begun.length + 1 else 0⟩
    | '\\' :: c :: rest =>
      match escapedCharacter? c with
      | some meant => settle pending (prepend meant (readText dialect begun none rest))
      | none => .error ⟨.badEscape, rest.length + (if dialect = .stored then 2 else 1)⟩
    | c :: rest =>
      if c.toNat < 0x20 then .error ⟨.control, rest.length + 1⟩
      else settle pending (prepend c (readText dialect begun none rest))

/-! ## Numbers and literals -/

/-- The digits of numbers. -/
def isFigure (c : Char) : Bool := '0' ≤ c && c ≤ '9'

/-- The number that figures spell. -/
def figuresValue (cs : List Char) : Nat := cs.foldl (fun n c => 10 * n + (c.toNat - 48)) 0

/-- Sign and figures of an exponent, behind its letter, and what is left. -/
def exponentParts (cs : List Char) : Bool × List Char × List Char :=
  let (negative, body) :=
    match cs with
    | '-' :: body => (true, body)
    | '+' :: body => (false, body)
    | body => (false, body)
  (negative, body.takeWhile isFigure, body.dropWhile isFigure)

/-- The parts of a number as far as they are there: figures of the whole part, figures of the
fraction, signed figures of the exponent, and what is left. -/
structure NumberParts where
  whole : List Char
  fraction : Option (List Char)
  exponent : Option (Bool × List Char)
  rest : List Char

/-- The number that its parts spell. -/
def NumberParts.value (negative : Bool) (parts : NumberParts) : Value :=
  match parts.fraction, parts.exponent with
  | none, none =>
    let n : Int := figuresValue parts.whole
    .int (if negative then -n else n)
  | fraction, exponent =>
    let places := fraction.getD []
    let figures := (parts.whole ++ places).dropWhile (· == '0')
    let power : Int :=
      match exponent with
      | none => 0
      | some (true, figures) => -(figuresValue figures : Int)
      | some (false, figures) => figuresValue figures
    .float (Binary64.ofDecimal negative (figuresValue figures) figures.length
      (power - places.length))

/-- Whether a character is the letter of an exponent. -/
def isExponentMark (c : Char) : Bool := c == 'e' || c == 'E'

/-- Takes an exponent if all of it is there. -/
def takeExponent (parts : NumberParts) : NumberParts :=
  match parts.rest with
  | [] => parts
  | c :: rest =>
    if isExponentMark c then
      match exponentParts rest with
      | (_, [], _) => parts
      | (negative, figures, left) =>
        { parts with exponent := some (negative, figures), rest := left }
    else parts

/-- The figures of a whole part: a zero in front stands alone. -/
def wholeFigures : List Char → List Char
  | '0' :: _ => ['0']
  | cs => cs.takeWhile isFigure

/-- The parts up to the fraction, which is there when a figure follows the point. -/
def takeFraction (whole : List Char) : List Char → NumberParts
  | '.' :: c :: more =>
    if isFigure c then
      ⟨whole, some ((c :: more).takeWhile isFigure), none, (c :: more).dropWhile isFigure⟩
    else ⟨whole, none, none, '.' :: c :: more⟩
  | rest => ⟨whole, none, none, rest⟩

/-- Takes the longest number at the front, without its sign; none when no figure is there. -/
def takeNumber? (cs : List Char) : Option NumberParts :=
  let whole := wholeFigures cs
  if whole.isEmpty then none
  else some (takeExponent (takeFraction whole (cs.drop whole.length)))

/-- The fault of a project number that stops before the given characters. -/
def numberFault {α : Type} : List Char → Except Fault α
  | [] => stop .endInValue []
  | cs => stop .badNumber cs

/-- What is left of an exponent after its sign. -/
def afterExponentSign : List Char → List Char
  | '-' :: rest => rest
  | '+' :: rest => rest
  | rest => rest

/-- The fault of a project number whose longest part is followed by the given characters, if
they show that the number goes on wrongly. -/
def continuationFault? (parts : NumberParts) : Option Fault :=
  match parts.rest with
  | [] => none
  | c :: rest =>
    if c == '.' && parts.fraction.isNone && parts.exponent.isNone then
      match (numberFault rest : Except Fault Unit) with
      | .error fault => some fault
      | .ok _ => none
    else if isExponentMark c && parts.exponent.isNone then
      match (numberFault (afterExponentSign rest) : Except Fault Unit) with
      | .error fault => some fault
      | .ok _ => none
    else if isFigure c && parts.fraction.isNone && parts.exponent.isNone then
      some ⟨.badNumber, parts.rest.length⟩
    else none

/-- Reads a number whose sign has been taken; the characters from the sign on are given too. -/
def readNumber (dialect : Dialect) (negative : Bool) (begun cs : List Char) : Reading Value :=
  match takeNumber? cs with
  | none =>
    match dialect with
    | .stored => stop .noValue begun
    | .project => numberFault cs
  | some parts =>
    let figures := parts.whole.length
    match dialect with
    | .stored =>
      if digitLimit < figures && parts.fraction.isNone && parts.exponent.isNone then
        stop (.hugeNumber figures) begun
      else .ok (parts.value negative, parts.rest)
    | .project =>
      if digitLimit < figures then
        .error ⟨.hugeNumber figures, cs.length - (digitLimit + 1)⟩
      else
        match continuationFault? parts with
        | some fault => .error fault
        | none => .ok (parts.value negative, parts.rest)

/-- Takes the letters of a word from the front, or gives what is left at the first that differs. -/
def takeWord : List Char → List Char → List Char ⊕ List Char
  | [], cs => .inl cs
  | _ :: _, [] => .inr []
  | letter :: letters, c :: cs => if letter = c then takeWord letters cs else .inr (c :: cs)

/-- Reads a literal whose letters are known by its first one. -/
def readLiteral (dialect : Dialect) (letters : String) (value : Value) (cs : List Char) :
    Reading Value :=
  match takeWord letters.toList cs with
  | .inl rest => .ok (value, rest)
  | .inr rest =>
    match dialect, rest with
    | .stored, _ => stop .noLiteral cs
    | .project, [] => stop .endInValue []
    | .project, rest => stop .noLiteral rest

/-- Reads a value that is neither a text nor a list nor an object. -/
def readAtom (dialect : Dialect) : List Char → Reading Value
  | [] => stop .endInValue []
  | 'n' :: rest => readLiteral dialect "null" .null ('n' :: rest)
  | 't' :: rest => readLiteral dialect "true" (.bool true) ('t' :: rest)
  | 'f' :: rest => readLiteral dialect "false" (.bool false) ('f' :: rest)
  | 'N' :: rest => readLiteral dialect "NaN" (.float .nan) ('N' :: rest)
  | 'I' :: rest => readLiteral dialect "Infinity" (.float (.infinity false)) ('I' :: rest)
  | '-' :: 'I' :: rest =>
    match readLiteral dialect "Infinity" (.float (.infinity true)) ('I' :: rest) with
    | .ok reading => .ok reading
    | .error fault =>
      match dialect with
      | .stored => stop .noValue ('-' :: 'I' :: rest)
      | .project => .error fault
  | '-' :: rest => readNumber dialect true ('-' :: rest) rest
  | c :: rest =>
    if isFigure c then readNumber dialect false (c :: rest) (c :: rest)
    else stop .noValue (c :: rest)

/-! ## Lists and objects -/

/-- The fault of opening one more list or object, if that is too many. A stored document
counts it as soon as it opens. -/
def openingFault? (dialect counted : Dialect) (inObject : Bool) (depth : Nat)
    (cs : List Char) : Option Fault :=
  if dialect = counted && dialect.depthLimit ≤ depth then some ⟨.tooDeep inObject, cs.length⟩
  else none

/-- The members of an object that are kept. -/
def keptMembers (dialect : Dialect) (members : List (String × Value)) : List (String × Value) :=
  match dialect with
  | .project => members
  | .stored => Entries.ofPairs members

/-- The fault of a project object that is one too many, if it is: its first value must begin
before that is judged. -/
def firstMemberFault? (dialect : Dialect) (depth : Nat) (cs : List Char) : Option Fault :=
  match skipGap cs with
  | [] => none
  | first => openingFault? dialect .project true depth first

/-- Reads the name of a member and the colon after it. -/
def readName (dialect : Dialect) (cs : List Char) : Reading String :=
  match readText dialect cs none cs with
  | .error fault => .error fault
  | .ok (name, rest) =>
    match skipGap rest with
    | ':' :: rest => .ok (String.ofList name, rest)
    | [] => stop (.endInObject .noColon) []
    | rest => stop .noColon rest

mutual

/-- Reads a value after blanks. -/
def readValue (dialect : Dialect) : Nat → Nat → List Char → Reading Value
  | 0, _, cs => stop .noValue cs
  | fuel + 1, depth, cs =>
    match skipGap cs with
    | '"' :: rest =>
      match readText dialect rest none rest with
      | .ok (text, rest) => .ok (.text (String.ofList text), rest)
      | .error fault => .error fault
    | '[' :: rest =>
      match openingFault? dialect .stored false depth rest with
      | some fault => .error fault
      | none =>
        match skipGap rest with
        | [] => stop (if dialect = .stored then .endInValue else .endInList) []
        | ']' :: rest => .ok (.list [], rest)
        | first =>
          match openingFault? dialect .project false depth first with
          | some fault => .error fault
          | none =>
            match readItems dialect fuel (depth + 1) first with
            | .ok (items, rest) => .ok (.list items, rest)
            | .error fault => .error fault
    | '\x7b' :: rest =>
      match openingFault? dialect .stored true depth rest with
      | some fault => .error fault
      | none =>
        match skipGap rest with
        | [] => stop (.endInObject .noName) []
        | '\x7d' :: rest => .ok (.object [], rest)
        | '"' :: rest =>
          match readMembers dialect fuel (depth + 1) true rest with
          | .ok (members, rest) => .ok (.object (keptMembers dialect members), rest)
          | .error fault => .error fault
        | rest => stop .noName rest
    | rest => readAtom dialect rest

/-- Reads the items of a list from the next one to the end of the list. -/
def readItems (dialect : Dialect) : Nat → Nat → List Char → Reading (List Value)
  | 0, _, cs => stop .noValue cs
  | fuel + 1, depth, cs =>
    match readValue dialect fuel depth cs with
    | .error fault => .error fault
    | .ok (item, rest) =>
      match skipGap rest with
      | [] => stop .endInList []
      | ']' :: rest => .ok ([item], rest)
      | ',' :: rest =>
        match skipGap rest with
        | [] => stop .endInValue []
        | ']' :: rest => stop .commaBeforeListEnd (']' :: rest)
        | rest =>
          match readItems dialect fuel depth rest with
          | .ok (items, rest) => .ok (item :: items, rest)
          | .error fault => .error fault
      | rest => stop .noListSeparator rest

/-- Reads the members of an object, whose next opening quote has been taken, to its end. The
depth of a project object is judged behind its first name. -/
def readMembers (dialect : Dialect) :
    Nat → Nat → Bool → List Char → Reading (List (String × Value))
  | 0, _, _, cs => stop .noValue cs
  | fuel + 1, depth, isFirst, cs =>
    match readName dialect cs with
    | .error fault => .error fault
    | .ok (name, rest) =>
      match (if isFirst then firstMemberFault? dialect (depth - 1) rest else none) with
      | some fault => .error fault
      | none =>
        match readValue dialect fuel depth rest with
        | .error fault => .error fault
        | .ok (value, rest) =>
          match skipGap rest with
          | [] => stop (.endInObject .noObjectSeparator) []
          | '\x7d' :: rest => .ok ([(name, value)], rest)
          | ',' :: rest =>
            match skipGap rest with
            | [] => stop .endAfterMember []
            | '"' :: rest =>
              match readMembers dialect fuel depth false rest with
              | .ok (members, rest) => .ok ((name, value) :: members, rest)
              | .error fault => .error fault
            | '\x7d' :: rest => stop .commaBeforeObjectEnd ('\x7d' :: rest)
            | rest => stop .noName rest
          | rest => stop .noObjectSeparator rest

end

/-- Reads a whole document of characters. -/
def readCharacters (dialect : Dialect) (cs : List Char) : Except Fault Value :=
  if dialect = .stored && cs.head? == some (Char.ofNat 0xFEFF) then stop .byteOrderMark cs
  else
    match readValue dialect (2 * cs.length + 2) 0 cs with
    | .error fault => .error fault
    | .ok (value, rest) =>
      match skipGap rest with
      | [] => .ok value
      | rest => stop .trailing rest

/-- Reads a whole document. -/
def read (dialect : Dialect) (source : String) : Except Fault Value :=
  readCharacters dialect source.toList

end Gamebook.Json
