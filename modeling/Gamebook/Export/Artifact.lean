import Gamebook.Export.Page
import Gamebook.Export.Script
import Gamebook.Text.Letter

/-!
# Artifacts

A project is written as a document, as a page or as a passage script. The document
holds everything and is written for unfinished projects too; a page and a script
are refused for a project with structural errors, all of which are given.
-/

namespace Gamebook

/-- What a project is written as. -/
inductive ExportFormat
  | json
  | html
  | twine
  deriving DecidableEq, Repr

namespace ExportFormat

/-- The name of a format. -/
def name : ExportFormat → String
  | .json => "json"
  | .html => "html"
  | .twine => "twine"

/-- The formats in order. -/
def all : List ExportFormat := [.json, .html, .twine]

/-- The names of the formats, for messages. -/
def nameList : String := String.intercalate ", " (all.map name)

/-- The media type of a format. -/
def mediaType : ExportFormat → String
  | .json => "application/json"
  | .html => "text/html"
  | .twine => "text/plain"

/-- The end of file names of a format. -/
def fileExtension : ExportFormat → String
  | .json => ".json"
  | .html => ".html"
  | .twine => ".twee"

/-- The format with exactly this name. -/
def ofName? (name : String) : Option ExportFormat := all.find? (·.name == name)

/-- Why a value names no format: what was asked for, as a message shows it. -/
inductive Fault
  | unsupported (shown : String)
  | number (fault : NumberFault)
  deriving DecidableEq, Repr

/-- The fault as a sentence. -/
def Fault.message : Fault → String
  | .unsupported shown =>
    "Unsupported export format " ++ shown ++ "; expected one of: " ++ nameList ++ "."
  | .number fault => fault.message

/-- The format a value names, in any letter case and with blanks around it. -/
def ofValue (value : Value) : Except Fault ExportFormat :=
  match value.text?.bind fun s => ofName? (Text.lower (Text.trim s)) with
  | some format => .ok format
  | none =>
    match value.shown with
    | .ok shown => .error (.unsupported shown)
    | .error fault => .error (.number fault)

end ExportFormat

namespace Export

/-- Why a project is not written. -/
inductive Fault
  | invalid (issues : List Issue)
  | write (fault : Schema.WriteFault)
  | print (fault : Json.PrintFault)
  deriving DecidableEq, Repr

/-- The fault as a sentence. -/
def Fault.message : Fault → String
  | .invalid issues => failureText (issues.map (·.message))
  | .write fault => fault.message
  | .print fault => fault.message

/-- The standard number of blanks for each level of a document. -/
def standardIndent : Nat := 2

/-- The project as a document. -/
def json (indent : Option Nat) (project : Project) : Except Fault String :=
  match project.write with
  | .error fault => .error (.write fault)
  | .ok value => (Json.print ⟨indent, false⟩ value).mapError .print

/-- The project as a page. -/
def page (project : Project) : Except Fault String :=
  match (Validation.report project).require with
  | .error issues => .error (.invalid issues)
  | .ok () =>
    match Page.dataBlock project with
    | .ok data => .ok (Page.document project data)
    | .error fault => .error (.print fault)

/-- The project as a passage script. -/
def script (project : Project) : Except Fault String :=
  match (Validation.scriptReport project).require with
  | .error issues => .error (.invalid issues)
  | .ok () => .ok (Script.document project)

/-- The project in a format, a document with the given indent. -/
def artifactWith (indent : Nat) (project : Project) : ExportFormat → Except Fault String
  | .json => json (some indent) project
  | .html => page project
  | .twine => script project

/-- The project in a format. -/
def artifact (project : Project) (format : ExportFormat) : Except Fault String :=
  artifactWith standardIndent project format

end Export

end Gamebook
