import Gamebook.Json.Fault
import Gamebook.Text.Quoted

/-!
# Problems of a document against its schema

A document that does not fit its schema has problems, each at a place. Problems are
collected, not raised one by one: the parts of a record are read in field order,
and members that no field asked for come last in document order. The wording of a
few problems depends on where the document came from.
-/

namespace Gamebook.Schema

/-- Where a document came from. -/
inductive Origin
  /-- A value in memory. -/
  | value
  /-- The text of a document. -/
  | text
  /-- The body of a request. -/
  | request
  deriving DecidableEq, Repr

/-- One step into a document. -/
inductive Step
  | name (name : String)
  | index (index : Nat)
  deriving DecidableEq, Repr

/-- The step to a member. A half in its name is shown by replacement characters. -/
def Step.ofMember (name : String) : Step := .name (Text.withoutHalves name)

/-- What can be wrong with one part of a document. -/
inductive Complaint
  | missing
  | extra
  | notRecord (title : String)
  | notList
  | notObject
  | notText
  | brokenText
  | notOneOf (options : List String)
  | emptyText (what : String)
  | notBool
  | unreadableBool
  | notWhole
  | unreadableWhole
  | fractional
  | hugeWhole
  | notFinite
  | notNumber
  | notMoment
  | unreadableMoment (detail : String)
  | vastCount (detail : String)
  | unreadableDate (detail : String)
  | unreadableDocument (message : String)
  deriving DecidableEq, Repr

/-- A complaint and its place. -/
structure Problem where
  complaint : Complaint
  path : List Step
  deriving DecidableEq, Repr

/-- Options between single quotes, the last one after a word. -/
def optionList : List String → String
  | [] => ""
  | [option] => "'" ++ option ++ "'"
  | [first, last] => "'" ++ first ++ "' or '" ++ last ++ "'"
  | first :: rest => "'" ++ first ++ "', " ++ optionList rest

/-- The short name of a complaint. -/
def Complaint.tag (origin : Origin) : Complaint → String
  | .missing => "missing"
  | .extra => "extra_forbidden"
  | .notRecord _ => if origin = .request then "model_attributes_type" else "model_type"
  | .notList => "list_type"
  | .notObject => "dict_type"
  | .notText => "string_type"
  | .brokenText => "string_unicode"
  | .notOneOf _ => "enum"
  | .emptyText _ => "value_error"
  | .notBool => "bool_type"
  | .unreadableBool => "bool_parsing"
  | .notWhole => "int_type"
  | .unreadableWhole => "int_parsing"
  | .fractional => "int_from_float"
  | .hugeWhole => "int_parsing_size"
  | .notFinite => "finite_number"
  | .notNumber => "float_type"
  | .notMoment => "datetime_type"
  | .unreadableMoment _ => "datetime_parsing"
  | .vastCount _ => if origin = .text then "datetime_type" else "datetime_parsing"
  | .unreadableDate _ => "datetime_from_date_parsing"
  | .unreadableDocument _ => "json_invalid"

/-- The complaint as a sentence. -/
def Complaint.message (origin : Origin) : Complaint → String
  | .missing => "Field required"
  | .extra => "Extra inputs are not permitted"
  | .notRecord title =>
    match origin with
    | .value => "Input should be a valid dictionary or instance of " ++ title
    | .text => "Input should be an object"
    | .request => "Input should be a valid dictionary or object to extract fields from"
  | .notList =>
    if origin = .text then "Input should be a valid array" else "Input should be a valid list"
  | .notObject =>
    if origin = .text then "Input should be an object" else "Input should be a valid dictionary"
  | .notText => "Input should be a valid string"
  | .brokenText => "Input should be a valid string, unable to parse raw data as a unicode string"
  | .notOneOf options => "Input should be " ++ optionList options
  | .emptyText what => "Value error, " ++ what ++ " must be a non-empty string"
  | .notBool => "Input should be a valid boolean"
  | .unreadableBool => "Input should be a valid boolean, unable to interpret input"
  | .notWhole => "Input should be a valid integer"
  | .unreadableWhole => "Input should be a valid integer, unable to parse string as an integer"
  | .fractional => "Input should be a valid integer, got a number with a fractional part"
  | .hugeWhole => "Unable to parse input string as an integer, exceeded maximum size"
  | .notFinite => "Input should be a finite number"
  | .notNumber => "Input should be a valid number"
  | .notMoment => "Input should be a valid datetime"
  | .unreadableMoment detail => "Input should be a valid datetime, " ++ detail
  | .vastCount detail =>
    "Input should be a valid datetime" ++ (if origin = .text then "" else ", " ++ detail)
  | .unreadableDate detail => "Input should be a valid datetime or date, " ++ detail
  | .unreadableDocument message => "Invalid JSON: " ++ message

/-- A document that does not fit: what it should have been, where it came from, and every
problem in order. -/
structure Mismatch where
  title : String
  origin : Origin
  problems : List Problem
  deriving DecidableEq, Repr

/-- One step as a message shows it; a name with a dot inside stands between backquotes. -/
def Step.text : Step → String
  | .name key => if key.toList.contains '.' then "`" ++ key ++ "`" else key
  | .index place => Nat.repr place

/-- The lines for one problem: its place, if it has one, and the indented sentence. -/
def Problem.lines (origin : Origin) (problem : Problem) : List String :=
  let sentence := "  " ++ problem.complaint.message origin
  if problem.path.isEmpty then [sentence]
  else [String.intercalate "." (problem.path.map Step.text), sentence]

/-- All problems as a text of several lines. -/
def Mismatch.message (mismatch : Mismatch) : String :=
  let count := mismatch.problems.length
  let heading :=
    Nat.repr count ++ " validation error" ++ (if count = 1 then "" else "s") ++ " for " ++
      mismatch.title
  String.intercalate "\n" (heading :: mismatch.problems.flatMap (Problem.lines mismatch.origin))

end Gamebook.Schema
