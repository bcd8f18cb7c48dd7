import Gamebook.Disk.Path
import Gamebook.Text.Utf8

/-!
# Disks

A disk is a tree of directories and files with a working directory. Following a
path visits its names one after the other, so every place on the way must be a
directory that exists. Names are bytes, so a half in a path must stand for one, and two
names with the same bytes are one name. An operation that is refused leaves the disk as it
was.
-/

namespace Gamebook

/-- A file with its bytes, or a directory with its entries. -/
inductive Node
  | file (bytes : ByteArray)
  | directory (entries : List (String × Node))

/-- A tree and the names that lead to the working directory. -/
structure Disk where
  root : Node := .directory []
  here : List String := []

namespace Disk

/-- Why an operation is refused. -/
inductive Refusal
  | missing
  | exists
  | notDirectory
  | isDirectory
  | nameTooLong
  /-- A refusal that only a disk outside this library knows. -/
  | other (number : Nat) (words : String)
  deriving DecidableEq, Repr

/-- The number and the words of a refusal. -/
def Refusal.text : Refusal → String
  | .missing => "[Errno 2] No such file or directory"
  | .exists => "[Errno 17] File exists"
  | .notDirectory => "[Errno 20] Not a directory"
  | .isDirectory => "[Errno 21] Is a directory"
  | .nameTooLong => "[Errno 36] File name too long"
  | .other number words => "[Errno " ++ Nat.repr number ++ "] " ++ words

/-- Why an operation on a path, or on two, failed. -/
inductive Fault
  | refused (refusal : Refusal) (path : Path)
  | notMoved (refusal : Refusal) (path target : Path)
  | nullByte
  | encoding (fault : Text.HalfFault)
  deriving DecidableEq, Repr

/-- Whether the fault is that no disk can have such a path. -/
def Fault.isUnspeakable : Fault → Bool
  | .nullByte | .encoding _ => true
  | _ => false

/-- The fault as a sentence. -/
def Fault.message : Fault → String
  | .refused refusal path => refusal.text ++ ": " ++ Text.quoted path.text
  | .notMoved refusal path target =>
    refusal.text ++ ": " ++ Text.quoted path.text ++ " -> " ++ Text.quoted target.text
  | .nullByte => "embedded null byte"
  | .encoding fault => fault.message

end Disk

namespace Node

/-- The entry below a directory that names lead to. -/
def find : Node → List String → Except Disk.Refusal Node
  | node, [] => .ok node
  | .file _, _ :: _ => .error .notDirectory
  | .directory entries, name :: rest =>
    match Entries.get? entries name with
    | some node => node.find rest
    | none => .error .missing

/-- The tree with the entry that names lead to replaced; nothing happens where no directory is. -/
def put : Node → List String → Node → Node
  | _, [], entry => entry
  | .file bytes, _ :: _, _ => .file bytes
  | .directory entries, name :: rest, entry =>
    match Entries.get? entries name, rest with
    | some node, rest => .directory (Entries.put name (node.put rest entry) entries)
    | none, [] => .directory (Entries.put name entry entries)
    | none, _ :: _ => .directory entries

/-- The tree without the entry that names lead to. -/
def erase : Node → List String → Node
  | node, [] => node
  | .file bytes, _ :: _ => .file bytes
  | .directory entries, [name] => .directory (Entries.erase entries name)
  | .directory entries, name :: rest =>
    match Entries.get? entries name with
    | some node => .directory (Entries.put name (node.erase rest) entries)
    | none => .directory entries

end Node

namespace Disk

/-- The most bytes a name may have. -/
def nameLimit : Nat := 255

/-- Follows names from a place to the place of the last one, which need not exist. -/
def follow (disk : Disk) (place : List String) : List String → Except Refusal (List String)
  | [] => .ok place
  | name :: rest =>
    match disk.root.find place with
    | .error refusal => .error refusal
    | .ok (.file _) => .error .notDirectory
    | .ok (.directory _) =>
      if name = ".." then disk.follow place.dropLast rest
      else if nameLimit < Text.nameSize name then .error .nameTooLong
      else disk.follow (place ++ [Text.listedName name]) rest

/-- The place a path leads to. -/
def locate (disk : Disk) (path : Path) : Except Fault (List String) :=
  match Text.pathFault? path.text.toList with
  | some fault => .error (.encoding fault)
  | none =>
    if path.text.toList.contains '\x00' then .error .nullByte
    else
      (disk.follow (if path.anchor = .here then disk.here else []) path.names).mapError
        (.refused · path)

/-- The entry a path leads to. -/
def entry (disk : Disk) (path : Path) : Except Fault Node := do
  let place ← disk.locate path
  (disk.root.find place).mapError (.refused · path)

/-- Whether a path leads to a directory. -/
def isDirectory (disk : Disk) (path : Path) : Bool :=
  match disk.entry path with
  | .ok (.directory _) => true
  | _ => false

/-- Whether a path leads to an entry. Only a name that is too long makes this a fault. -/
def has (disk : Disk) (path : Path) : Except Fault Bool :=
  match disk.entry path with
  | .ok _ => .ok true
  | .error (.refused .nameTooLong path) => .error (.refused .nameTooLong path)
  | .error _ => .ok false

/-- The bytes of a file. -/
def read (disk : Disk) (path : Path) : Except Fault ByteArray :=
  match disk.entry path with
  | .ok (.file bytes) => .ok bytes
  | .ok (.directory _) => .error (.refused .isDirectory path)
  | .error fault => .error fault

/-- The disk after writing a file, which replaces a file of this name. -/
def write (disk : Disk) (path : Path) (bytes : ByteArray) : Except Fault Disk := do
  let place ← disk.locate path
  if disk.isDirectory path then .error (.refused .isDirectory path)
  else .ok { disk with root := disk.root.put place (.file bytes) }

/-- The disk after moving a file over another name. -/
def move (disk : Disk) (path target : Path) : Except Fault Disk := do
  let bytes ← disk.read path
  let place ← disk.locate path
  let goal ← disk.locate target
  if disk.isDirectory target then .error (.notMoved .isDirectory path target)
  else .ok { disk with root := (disk.root.erase place).put goal (.file bytes) }

/-- The disk after removing a file. A file that does not exist needs no removing. -/
def remove (disk : Disk) (path : Path) : Except Fault Disk :=
  match disk.entry path with
  | .ok (.file _) => (disk.locate path).map fun place =>
    { disk with root := disk.root.erase place }
  | .ok (.directory _) => .error (.refused .isDirectory path)
  | .error (.refused .missing _) => .ok disk
  | .error fault => .error fault

/-- The disk after making one directory. -/
def makeDirectory (disk : Disk) (path : Path) : Except Fault Disk := do
  let place ← disk.locate path
  match disk.root.find place with
  | .ok _ => .error (.refused .exists path)
  | .error .missing => .ok { disk with root := disk.root.put place (.directory []) }
  | .error refusal => .error (.refused refusal path)

/-- Makes the directory of a row of names, given last name first, and those above it that
are missing. A directory that exists already is left alone. -/
def makeAll (disk : Disk) (anchor : Anchor) : List String → Except Fault Disk
  | [] => .ok disk
  | name :: above =>
    let path : Path := ⟨anchor, (name :: above).reverse⟩
    match disk.makeDirectory path with
    | .ok made => .ok made
    | .error (.refused .missing _) =>
      match disk.makeAll anchor above with
      | .ok made => made.makeDirectory path
      | .error fault => .error fault
    | .error fault => if disk.isDirectory path then .ok disk else .error fault

/-- The disk after making a directory and those above it. -/
def makeDirectories (disk : Disk) (path : Path) : Except Fault Disk :=
  disk.makeAll path.anchor path.names.reverse

/-- The names of the files of a directory. -/
def fileNames (disk : Disk) (path : Path) : List String :=
  match disk.entry path with
  | .ok (.directory entries) => entries.filterMap fun
    | (name, .file _) => some name
    | (_, .directory _) => none
  | _ => []

end Disk

end Gamebook
