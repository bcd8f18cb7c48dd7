import Gamebook.Entries
import Gamebook.Text.Part

/-!
# Paths

A path is a start and a row of names. Reading a path drops empty names and names
that stand for the place itself; a name for the place above is kept, since it
depends on the disk. Writing a path that was read gives its shortest spelling.
-/

namespace Gamebook.Disk

/-- Where a path begins. -/
inductive Anchor
  /-- At the working directory. -/
  | here
  /-- At the root. -/
  | root
  /-- At the root, spelled with two slashes. -/
  | doubleRoot
  deriving DecidableEq, Repr

/-- The spelling of the start of a path. -/
def Anchor.text : Anchor → String
  | .here => ""
  | .root => "/"
  | .doubleRoot => "//"

/-- A start and the names from there on. -/
structure Path where
  anchor : Anchor
  names : List String
  deriving DecidableEq, Repr

namespace Path

/-- The start that leading slashes spell: exactly two are kept, more count as one. -/
def anchorOf (cs : List Char) : Anchor :=
  match cs.takeWhile (· = '/') with
  | [] => .here
  | ['/', '/'] => .doubleRoot
  | _ => .root

/-- Whether a name leads anywhere. -/
def isStep (name : String) : Bool := !(name.isEmpty || name == ".")

/-- The path a text spells. -/
def ofText (text : String) : Path :=
  ⟨anchorOf text.toList, (Text.split '/' text).filter isStep⟩

/-- The shortest spelling of a path. -/
def text (path : Path) : String :=
  match path.anchor, path.names with
  | .here, [] => "."
  | anchor, names => anchor.text ++ String.intercalate "/" names

/-- The path of an entry of a directory. -/
def child (path : Path) (name : String) : Path := { path with names := path.names ++ [name] }

/-- The home directories that a tilde can stand for. -/
structure Homes where
  /-- The own home directory. -/
  own : String
  /-- The home directories of named accounts. -/
  accounts : Entries String := []
  deriving DecidableEq, Repr

/-- The home directory that a name with a leading tilde asks for. -/
def Homes.find? (homes : Homes) (name : List Char) : Option String :=
  match name with
  | ['~'] => some homes.own
  | '~' :: account => homes.accounts.get? (String.ofList account)
  | _ => none

/-- Whether the first name of a path asks for a home directory. -/
def isHomely (path : Path) : Bool :=
  match path.anchor, path.names with
  | .here, name :: _ => name.toList.head? == some '~'
  | _, _ => false

/-- The path with its leading tilde replaced; nothing when the home directory is not known. -/
def expandHome (homes : Homes) (path : Path) : Option Path :=
  if !path.isHomely then some path
  else
    match path.names with
    | name :: rest =>
      (homes.find? name.toList).map fun home =>
        let start := ofText home
        { start with names := start.names ++ rest }
    | [] => none

end Path

end Gamebook.Disk
