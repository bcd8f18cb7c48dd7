import Gamebook.Export.Player
import Gamebook.Json.Printer
import Gamebook.Story.Document
import Gamebook.Validation

/-!
# Stories as pages

A page is one document that plays a story without anything else: its scenes stand
inside it as data, beside the script that plays them. Author text cannot end the
data early, because the characters that could are written by their numbers, and in
the visible text they are written as references.
-/

namespace Gamebook.Page

/-- The four colours of a theme: background, panel, text and accent. -/
def themeStyle : Theme → String
  | .dark => style "#111827" "#1f2937" "#e5e7eb" "#3b82f6"
  | .light => style "#f9fafb" "#ffffff" "#111827" "#2563eb"
  | .fantasy => style "#1c1917" "#292524" "#fef3c7" "#d97706"
  | .scifi => style "#020617" "#0f172a" "#cffafe" "#06b6d4"

/-- One character of visible text. -/
def visibleCharacter (c : Char) : List Char :=
  if c = '&' then "&amp;".toList
  else if c = '<' then "&lt;".toList
  else if c = '>' then "&gt;".toList
  else if c = '"' then "&quot;".toList
  else if c = '\'' then "&#x27;".toList
  else [c]

/-- A text as visible text of the page. -/
def visible (text : String) : String := String.ofList (text.toList.flatMap visibleCharacter)

/-- Whether a character could end the data or be read as markup. -/
def isRisky (c : Char) : Bool :=
  c = '<' || c = '>' || c = '&' || c.toNat = 0x2028 || c.toNat = 0x2029

/-- One character of the data. -/
def dataCharacter (c : Char) : List Char := if isRisky c then Json.numbered c.toNat else [c]

/-- The data of a story: its title, where it starts, the terminal target and every scene. -/
def storyData (project : Project) : Value :=
  .object [("title", .text project.name),
    ("startSceneId", .ofText? (project.startScene?.map (·.id))),
    ("terminal", .text terminalTarget),
    ("scenes", .list (project.scenes.map Scene.toValue))]

/-- The data as it stands in the page. -/
def dataBlock (project : Project) : Except Json.PrintFault String :=
  (Json.print Json.oneLine (storyData project)).map fun text =>
    String.ofList (text.toList.flatMap dataCharacter)

/-- The page of a story whose data is given. -/
def document (project : Project) (data : String) : String :=
  let title := visible project.name
  String.intercalate "\n"
    ["<!DOCTYPE html>",
      "<html lang=\"en\">",
      "<head>",
      "<meta charset=\"utf-8\">",
      "<meta name=\"viewport\" content=\"width=device-width, initial-scale=1\">",
      "<title>" ++ title ++ "</title>",
      "<style>" ++ themeStyle project.settings.theme ++ "</style>",
      "</head>",
      "<body>",
      "<main>",
      "<header><h1>" ++ title ++ "</h1><p>" ++ visible project.description ++ "</p></header>",
      "<section id=\"game\" aria-live=\"polite\"></section>",
      "<div class=\"controls\"><button id=\"restart\" type=\"button\">Restart</button></div>",
      "</main>",
      "<script type=\"application/json\" id=\"story-data\">" ++ data ++ "</script>",
      "<script>" ++ playerScript ++ "</script>",
      "</body>",
      "</html>",
      ""]

end Gamebook.Page
