import Gamebook.Export.Artifact
import Gamebook.Service.Body

/-!
# Responses

A response has a status and carries nothing, a document, an artifact under a file
name, or a plain sentence. A refusal carries a document with its detail. Numbers
that no document can hold are left out of a document. What has no encoding breaks
the response, and so does a problem with a part of a body that could not be sent
back.
-/

namespace Gamebook.Service

/-- What a response carries. -/
inductive Content
  | nothing
  | document (value : Value)
  | artifact (mediaType text fileName : String)
  | plain (text : String)

/-- The answer to a request. -/
structure Response where
  status : Nat
  content : Content

namespace Response

/-- The response to a request that broke off. -/
def broken : Response := ⟨500, .plain "Internal Server Error"⟩

/-- A response with a document, which must have an encoding. -/
def document (status : Nat) (value : Value) : Response :=
  if value.holdsHalf then broken else ⟨status, .document value.finiteOnly⟩

/-- A response with a detail. -/
def detail (status : Nat) (value : Value) : Response :=
  document status (.object [("detail", value)])

/-- A response with a detail in words. -/
def sentence (status : Nat) (text : String) : Response := detail status (.text text)

/-- The response without anything. -/
def nothing : Response := ⟨204, .nothing⟩

/-- The response to a target that does not exist. -/
def notFound : Response := sentence 404 "Not Found"

/-- The response to a method that a target does not have. -/
def notAllowed : Response := sentence 405 "Method Not Allowed"

/-- The response to a body that gives no entity. -/
def ofBodyFault : BodyFault → Response
  | .missing => detail 422 (.list [problemValue "missing" "Field required" []])
  | .noDocument offset =>
    detail 422 (.list [problemValue "json_invalid" "JSON decode error" [.int offset]])
  | .unreadable => sentence 400 "There was an error parsing the body"
  | .mismatch body problems =>
    if problems.all fun problem => (problem.subject body).isSendable then
      detail 422 (.list (problems.map schemaProblemValue))
    else broken

/-- The response to a project with structural errors. -/
def ofIssues (issues : List Issue) : Response :=
  detail 422 (.object [("message", .text (failureText (issues.map (·.message)))),
    ("issues", .list (issues.map Issue.toValue))])

/-- Whether a text fits into a header. -/
def fitsHeader (text : String) : Bool := text.toList.all fun c => c.toNat < 0x100

/-- The media type with the encoding that texts name. -/
def fullMediaType (mediaType : String) : String :=
  if "text/".toList.isPrefixOf mediaType.toList then mediaType ++ "; charset=utf-8" else mediaType

/-- The response with an artifact as a file. A file name that fits into no header breaks it, and
so does a text without an encoding. -/
def artifact (format : ExportFormat) (name text : String) : Response :=
  let fileName := name ++ format.fileExtension
  if fitsHeader fileName && !Text.holdsHalf text then
    ⟨200, .artifact (fullMediaType format.mediaType) text fileName⟩
  else broken

end Response

/-- The header that names the file of an artifact. -/
def disposition (fileName : String) : String := "attachment; filename=\"" ++ fileName ++ "\""

/-- The media type of what a response carries. -/
def Content.mediaType? : Content → Option String
  | .nothing => none
  | .document _ => some "application/json"
  | .artifact mediaType _ _ => some mediaType
  | .plain _ => some "text/plain; charset=utf-8"

end Gamebook.Service
