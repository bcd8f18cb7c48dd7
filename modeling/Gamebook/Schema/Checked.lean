import Gamebook.Json.Value
import Gamebook.Schema.Problem

/-!
# Reading records out of document values

Reading a part gives a value or the problems found in it, never both. Two parts
read side by side give the problems of both in order, so one bad part hides no
other. A field is found by its document name, or else by its plain name; a member
that no field found is an extra one. Of several members with one name a field finds
the last, while an extra one is an extra one each time, and each value of a table
is read.
-/

namespace Gamebook.Schema

/-- What reading a part of a document gives. -/
abbrev Checked (α : Type) := Except (List Problem) α

namespace Checked

variable {α β : Type}

/-- A part with one problem at its own place. -/
def fail (complaint : Complaint) : Checked α := .error [⟨complaint, []⟩]

/-- A part that needs nothing of the document. -/
def start (x : α) : Checked α := .ok x

/-- Applies what the first part gives to what the second gives; problems add up. -/
def and (f : Checked (α → β)) (x : Checked α) : Checked β :=
  match f, x with
  | .ok f, .ok x => .ok (f x)
  | .error problems, .ok _ => .error problems
  | .ok _, .error problems => .error problems
  | .error problems, .error others => .error (problems ++ others)

/-- Keeps the first part, with the problems of both. -/
def before (x : Checked α) (y : Checked Unit) : Checked α := and (x.map fun x _ => x) y

/-- Moves the problems of a part one step into the document. -/
def under (step : Step) : Checked α → Checked α
  | .ok x => .ok x
  | .error problems => .error (problems.map fun p => { p with path := step :: p.path })

/-- Reads every part of a list under its index, counted from the given one. -/
def eachFrom (read : Value → Checked α) (index : Nat) : List Value → Checked (List α)
  | [] => .ok []
  | item :: rest =>
    and (((read item).under (.index index)).map List.cons) (eachFrom read (index + 1) rest)

/-- Reads every member of an object under its name. -/
def eachMember (read : Value → Checked α) : List (String × Value) → Checked (List (String × α))
  | [] => .ok []
  | (name, value) :: rest =>
    and (((read value).under (.ofMember name)).map fun x others => (name, x) :: others)
      (eachMember read rest)

end Checked

/-- The two names that a field can be found by. -/
structure Field where
  /-- The name in documents. -/
  label : String
  /-- The plain name, often the same. -/
  plain : String

/-- A field that has one name. -/
def Field.single (name : String) : Field := ⟨name, name⟩

/-- The name a field is found by, with its value. -/
def Field.find? (field : Field) (members : Entries Value) : Option (String × Value) :=
  match members.last? field.label with
  | some value => some (field.label, value)
  | none => (members.last? field.plain).map (field.plain, ·)

variable {α : Type}

/-- Reads a field that must be there. -/
def required (members : Entries Value) (field : Field) (read : Value → Checked α) : Checked α :=
  match field.find? members with
  | some (name, value) => (read value).under (.name name)
  | none => (Checked.fail .missing).under (.name field.label)

/-- Reads a field that has a value of its own when it is not there. -/
def optional (members : Entries Value) (field : Field) (standard : α)
    (read : Value → Checked α) : Checked α :=
  match field.find? members with
  | some (name, value) => (read value).under (.name name)
  | none => .ok standard

/-- Complains of every member that no field found. -/
def onlyFields (members : Entries Value) (fields : List Field) : Checked Unit :=
  let used := fields.filterMap fun field => (field.find? members).map (·.1)
  let extras := members.keys.filter fun name => !used.contains name
  if extras.isEmpty then .ok ()
  else .error (extras.map fun name => ⟨.extra, [.ofMember name]⟩)

/-- The members of a record. -/
def record (title : String) (value : Value) (read : Entries Value → Checked α) : Checked α :=
  match value.object? with
  | some members => read members
  | none => Checked.fail (.notRecord title)

/-- A list of parts. -/
def list (read : Value → Checked α) (value : Value) : Checked (List α) :=
  match value.list? with
  | some items => Checked.eachFrom read 0 items
  | none => Checked.fail .notList

/-- An object with a part under each name. -/
def table (read : Value → Checked α) (value : Value) : Checked (Entries α) :=
  match value.object? with
  | some members => (Checked.eachMember read members).map Entries.ofPairs
  | none => Checked.fail .notObject

/-- A text. -/
def text (value : Value) : Checked String :=
  match value.text? with
  | some s => .ok s
  | none => Checked.fail .notText

/-- A text or nothing. -/
def text? : Value → Checked (Option String)
  | .null => .ok none
  | value => (text value).map some

/-- A text with something beside blanks in it, which are dropped at both ends. -/
def label (what : String) (value : Value) : Checked String :=
  match text value with
  | .error problems => .error problems
  | .ok s =>
    let trimmed := Text.trim s
    if trimmed.isEmpty then Checked.fail (.emptyText what) else .ok trimmed

/-- Reads the characters of a text, which must all be whole ones. -/
def wholeText (s : String) (read : String → Checked α) : Checked α :=
  if Text.holdsHalf s then Checked.fail .brokenText else read s

/-- One of some named options. -/
def oneOf (options : List (String × α)) (value : Value) : Checked α :=
  match value.text? with
  | some s =>
    wholeText s fun s =>
      match Entries.get? options s with
      | some x => .ok x
      | none => Checked.fail (.notOneOf (options.map (·.1)))
  | none => Checked.fail (.notOneOf (options.map (·.1)))

/-- A truth value or a number, each kept as what it is. -/
def scalar (value : Value) : Checked Scalar :=
  match value.scalar? with
  | some x => .ok x
  | none =>
    .error [⟨.notBool, [.name "bool"]⟩, ⟨.notWhole, [.name "int"]⟩, ⟨.notNumber, [.name "float"]⟩]

/-! ## What a problem is about -/

/-- The part of a value that steps lead to, as far as they lead. -/
def reach (value : Value) : List Step → Value
  | [] => value
  | .name name :: rest =>
    match value.member? name with
    | some part => reach part rest
    | none => value
  | .index index :: rest =>
    match value.list?.bind (·[index]?) with
    | some part => reach part rest
    | none => value

/-- The last step to a problem that names no part, but the type that the part was tried as. -/
def Complaint.trial? : Complaint → Option Step
  | .notBool => some (.name "bool")
  | .notWhole => some (.name "int")
  | .notNumber => some (.name "float")
  | .notText => some (.name "str")
  | _ => none

/-- The part of a value that a problem is about: where a member is missing, what should have
it. -/
def Problem.subject (problem : Problem) (value : Value) : Value :=
  let isTrial := problem.path.getLast?.any fun step => problem.complaint.trial? == some step
  reach value (if isTrial then problem.path.dropLast else problem.path)

end Gamebook.Schema
