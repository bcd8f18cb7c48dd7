import Gamebook.Text.Line
import Gamebook.Validation

/-!
# Stories as passage scripts

A passage script has a passage for each scene: a header with the title, the
description, and a link for each choice, which names its target by title. Choices
that end the story link to one generated ending passage. Titles and link texts
stand on one line, and a backslash before a reserved character takes its meaning
away, so a script can be read back whatever the author wrote. Rules have no place in
a script and are dropped.
-/

namespace Gamebook.Script

/-! ## Escaping -/

/-- The characters that shape headers and links. -/
def isReserved (c : Char) : Bool := c = '\\' || c = '[' || c = ']' || c = ':' || c = '|'

/-- One character with a backslash before it when it is reserved. -/
def escapeCharacter (c : Char) : List Char := if isReserved c then ['\\', c] else [c]

/-- Characters with every reserved one escaped. -/
def escapeCharacters (cs : List Char) : List Char := cs.flatMap escapeCharacter

/-- Takes away each backslash that stands before a character; that character stays. -/
def unescapeCharacters : List Char → List Char
  | '\\' :: c :: rest => c :: unescapeCharacters rest
  | c :: rest => c :: unescapeCharacters rest
  | [] => []

/-- A text with every reserved character escaped. -/
def escape (text : String) : String := String.ofList (escapeCharacters text.toList)

/-- A text without its escapes. -/
def unescape (text : String) : String := String.ofList (unescapeCharacters text.toList)

/-! ## Writing -/

/-- The text of the generated ending passage. -/
def endText : String := "The End."

/-- A text on one line, escaped. -/
def inlineText (text : String) : String := escape (Validation.passageTitle text)

/-- A line of a description, guarded when it could be read as a header. -/
def guardLine (line : String) : String :=
  match line.toList with
  | ':' :: ':' :: _ => "\\" ++ line
  | _ => line

/-- The title a link to a scene names. -/
def titleOf (scenes : List Scene) (id : String) : String :=
  match scenes.find? (·.id == id) with
  | some scene => Validation.passageTitle scene.title
  | none => ""

/-- The title a choice leads to. -/
def targetTitle (scenes : List Scene) (choice : Choice) : String :=
  if choice.isTerminal then Validation.endTitle else titleOf scenes choice.target

/-- The line of a choice. -/
def linkLine (scenes : List Scene) (choice : Choice) : String :=
  "[[" ++ inlineText choice.text ++ "|" ++ escape (targetTitle scenes choice) ++ "]]"

/-- The header line of a title. -/
def headerLine (title : String) : String := ":: " ++ inlineText title

/-- The lines of the passage of a scene. -/
def sceneLines (scenes : List Scene) (scene : Scene) : List String :=
  headerLine scene.title :: (Text.lines scene.description).map guardLine ++
    scene.choices.map (linkLine scenes)

/-- Whether some choice ends the story. -/
def hasEnding (project : Project) : Bool :=
  project.scenes.any fun scene => scene.choices.any (·.isTerminal)

/-- The lines of every passage in order. -/
def passageLines (project : Project) : List (List String) :=
  project.scenes.map (sceneLines project.scenes) ++
    if hasEnding project then [[headerLine Validation.endTitle, endText]] else []

/-- The script of a project: its passages with an empty line between neighbours. -/
def document (project : Project) : String :=
  String.intercalate "\n\n" ((passageLines project).map (String.intercalate "\n")) ++ "\n"

/-- The number of rules a script leaves out. -/
def droppedRules (project : Project) : Nat :=
  ((project.scenes.flatMap (·.choices)).map fun choice =>
    choice.requirements.length + choice.consequences.length).foldl (· + ·) 0

/-! ## Reading -/

/-- A link of a passage. -/
structure Link where
  text : String
  target : String
  deriving DecidableEq, Repr

/-- A passage read back from a script. -/
structure Passage where
  title : String
  body : String
  links : List Link
  deriving DecidableEq, Repr

/-- What a line of a passage is. -/
inductive LineKind
  | header (title : String)
  | link (link : Link)
  | body (line : String)
  deriving DecidableEq, Repr

/-- Takes escaped characters and plain ones from the front, up to a bar, a closing bracket or a
backslash that escapes nothing. -/
def takeLabel : List Char → List Char × List Char
  | '\\' :: c :: rest =>
    let (taken, left) := takeLabel rest
    ('\\' :: c :: taken, left)
  | c :: rest =>
    if c = '\\' || c = '|' || c = ']' then ([], c :: rest)
    else
      let (taken, left) := takeLabel rest
      (c :: taken, left)
  | [] => ([], [])

/-- The two labels of a line that is a link from end to end. -/
def linkLabels? : List Char → Option (List Char × List Char)
  | '[' :: '[' :: rest =>
    match takeLabel rest with
    | (text, '|' :: rest) =>
      match takeLabel rest with
      | (target, [']', ']']) => some (text, target)
      | _ => none
    | _ => none
  | _ => none

/-- What a line is: a header, a link, or body text, from which a guard is taken away. -/
def classify (line : String) : LineKind :=
  match line.toList with
  | ':' :: ':' :: ' ' :: title => .header (String.ofList (unescapeCharacters title))
  | cs =>
    match linkLabels? cs with
    | some (text, target) =>
      .link ⟨String.ofList (unescapeCharacters text), String.ofList (unescapeCharacters target)⟩
    | none =>
      match cs with
      | '\\' :: ':' :: ':' :: rest => .body (String.ofList (':' :: ':' :: rest))
      | _ => .body line

/-- Lines without the blank ones at the end. -/
def dropBlankEnd (lines : List String) : List String :=
  (lines.reverse.dropWhile Text.isAllBlank).reverse

/-- A passage whose lines are being read, those of the body in order. -/
structure Draft where
  title : String
  body : List String := []
  links : List Link := []
  deriving DecidableEq, Repr

/-- The passage of a draft. -/
def Draft.finish (draft : Draft) : Passage :=
  ⟨draft.title, String.intercalate "\n" (dropBlankEnd draft.body), draft.links⟩

/-- The passages of lines that follow the start of a draft. -/
def readAfter (draft : Draft) : List LineKind → List Passage
  | [] => [draft.finish]
  | .header title :: rest => draft.finish :: readAfter { title := title } rest
  | .link link :: rest => readAfter { draft with links := draft.links ++ [link] } rest
  | .body line :: rest => readAfter { draft with body := draft.body ++ [line] } rest

/-- The passages of lines. Lines before the first header belong to none. -/
def readLines : List LineKind → List Passage
  | [] => []
  | .header title :: rest => readAfter { title := title } rest
  | _ :: rest => readLines rest

/-- The passages of a script. -/
def read (text : String) : List Passage := readLines ((Text.lines text).map classify)

end Gamebook.Script
