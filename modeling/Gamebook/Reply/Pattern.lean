import Gamebook.Number.Numeral
import Gamebook.Text.Letter
import Gamebook.Text.Line
import Gamebook.Text.Word

/-!
# Shapes of reply lines

Lines of a reply are recognised by their shape: a label before a colon, a bullet or
a number, a numbered choice, the value of an attribute, a section header. Marks of
emphasis and headings are noise and are dropped before a line is used as text.
-/

namespace Gamebook.Reply

/-- Marks at the front of a heading or a quotation. -/
def isHeadingMark (c : Char) : Bool := c = '#' || c = '>' || Text.isBlank c

/-- Marks of emphasis. -/
def isEmphasis (c : Char) : Bool := c = '*' || c = '_' || c = '`'

/-- A line without heading marks in front, emphasis anywhere and blanks at the ends. -/
def cleanCharacters (line : List Char) : List Char :=
  Text.trimBlanks ((line.dropWhile isHeadingMark).filter fun c => !isEmphasis c)

/-- A line without its marks. -/
def clean (line : String) : String := String.ofList (cleanCharacters line.toList)

/-! ## Labels -/

/-- The letters of labels. -/
def isLabelLetter (c : Char) : Bool := ('A' ≤ c && c ≤ 'Z') || ('a' ≤ c && c ≤ 'z')

/-- Whether characters are a label: a letter, then up to 24 letters and spaces. -/
def isLabel : List Char → Bool
  | [] => false
  | first :: rest =>
    isLabelLetter first && rest.length ≤ 24 && rest.all fun c => isLabelLetter c || c = ' '

/-- The label before the first colon of a line, in lower case, and the trimmed text after it. -/
def labelled? (line : List Char) : Option (String × String) :=
  let cleaned := cleanCharacters line
  let label := Text.dropTrailingBlanks (cleaned.takeWhile (· != ':'))
  match cleaned.dropWhile (· != ':') with
  | ':' :: value =>
    if isLabel label then
      some ((String.ofList label).toLower, String.ofList (Text.trimBlanks value))
    else none
  | _ => none

/-! ## Bullets and numbers -/

/-- The marks of bullets. -/
def isBulletMark (c : Char) : Bool := c = '-' || c = '*' || c.toNat = 0x2022

/-- What follows a bullet or a number with a point or a bracket. -/
def afterBullet? (cs : List Char) : Option (List Char) :=
  match cs with
  | [] => none
  | c :: rest =>
    if isBulletMark c then some rest
    else
      match cs.takeWhile Text.isDigit, cs.dropWhile Text.isDigit with
      | _ :: _, '.' :: rest => some rest
      | _ :: _, ')' :: rest => some rest
      | _, _ => none

/-- The text of a bulleted or numbered line, behind at least one blank. -/
def bullet? (line : List Char) : Option (List Char) :=
  match afterBullet? (Text.dropBlanks line) with
  | some (c :: rest) => if Text.isBlank c then some (Text.dropBlanks rest) else none
  | _ => none

/-! ## Choice labels -/

/-- Whether a character is a letter in either case; the dotted and the undotted `i` count as one. -/
def isLetter (letter c : Char) : Bool :=
  c.toLower = letter || (letter = 'i' && (c.toNat = 0x130 || c.toNat = 0x131)) ||
    (letter = 's' && c.toNat = 0x17F)

/-- What follows a word in any letter case. -/
def afterWord? : List Char → List Char → Option (List Char)
  | [], cs => some cs
  | _ :: _, [] => none
  | letter :: letters, c :: cs => if isLetter letter c then afterWord? letters cs else none

/-- The marks between a choice label and its text. -/
def isChoiceMark (c : Char) : Bool := c = ':' || c = '.' || c = ')' || c = '-'

/-- The text behind a choice label with an optional number. -/
def choiceLabel? (cleaned : List Char) : Option (List Char) :=
  let body := Text.dropBlanks cleaned
  match afterWord? "choice".toList body <|> afterWord? "option".toList body with
  | none => none
  | some rest =>
    match Text.dropBlanks ((Text.dropBlanks rest).dropWhile Text.isDigit) with
    | c :: rest => if isChoiceMark c then some (Text.dropBlanks rest) else none
    | [] => none

/-! ## Attributes -/

/-- The words for the attributes. -/
def attributeWords : List String := ["health", "strength", "intelligence", "agility"]

/-- Whether characters begin inside no word. -/
def atWordEnd : List Char → Bool
  | [] => true
  | c :: _ => !Text.isWordCharacter c

/-- What follows an optional mark between an attribute and its value. -/
def afterValueMark : List Char → List Char
  | c :: rest => if c = ':' || c = '=' || c = '-' then rest else c :: rest
  | [] => []

/-- The digits that follow an attribute word. -/
def valueDigits (cs : List Char) : List Char × List Char :=
  let body := Text.dropBlanks (afterValueMark (Text.dropBlanks cs))
  (body.takeWhile Text.isDigit, body.dropWhile Text.isDigit)

/-- The attribute at the front of characters: its word, its digits, and what is left. -/
def attributeAt? (cs : List Char) : Option (List Char × List Char × List Char) :=
  attributeWords.findSome? fun word =>
    match afterWord? word.toList cs with
    | none => none
    | some rest =>
      if atWordEnd rest then
        match valueDigits rest with
        | ([], _) => none
        | (digits, left) => some (cs.take word.length, digits, left)
      else none

/-- The attributes in a line from left to right, with the digits of their values. The first
arguments say how many characters belong to the attribute before, and whether the last
character read was part of a word. -/
def attributesFrom : Nat → Bool → List Char → List (String × List Char)
  | _, _, [] => []
  | skip + 1, _, c :: rest => attributesFrom skip (Text.isWordCharacter c) rest
  | 0, inWord, c :: rest =>
    match (if inWord then none else attributeAt? (c :: rest)) with
    | some (word, digits, left) =>
      (Text.lower (String.ofList word), digits) ::
        attributesFrom (rest.length - left.length) (Text.isWordCharacter c) rest
    | none => attributesFrom 0 (Text.isWordCharacter c) rest

/-- The attributes in a line. -/
def attributes (line : String) : List (String × List Char) := attributesFrom 0 false line.toList

/-! ## Section headers -/

/-- The headers of sections. -/
def sectionHeaders : List String :=
  ["choices", "options", "player choices", "attributes", "properties", "stats"]

/-- Whether a line is a section header, with or without colons behind it. -/
def isSectionHeader (cleaned : String) : Bool :=
  let body := ((Text.lower cleaned).toList.reverse.dropWhile (· = ':')).reverse
  sectionHeaders.contains (String.ofList body)

/-! ## Suggestions -/

/-- The suggestion on a line: the text of a bullet that is not blank. -/
def suggestion? (line : String) : Option String :=
  match bullet? line.toList with
  | some text =>
    let trimmed := Text.trimBlanks text
    if trimmed.isEmpty then none else some (String.ofList trimmed)
  | none => none

/-- Takes suggestions line by line and stops after the line that fills the limit. -/
def takeSuggestions (limit : Int) : Nat → List String → List String
  | _, [] => []
  | count, line :: rest =>
    match suggestion? line with
    | some text =>
      text :: (if limit ≤ count + 1 then [] else takeSuggestions limit (count + 1) rest)
    | none => if limit ≤ count then [] else takeSuggestions limit count rest

/-- The first suggestions of a reply. -/
def suggestions (limit : Int) (text : String) : List String :=
  takeSuggestions limit 0 (Text.lines text)

end Gamebook.Reply
