import Gamebook.Archive
import Gamebook.Story.Document

/-!
# Projects and saved games

A project and its one saved game are kept under two keys that begin with different
words, so they never meet. A project that was saved is found under its own id.
Deleting a project deletes its saved game after it.
-/

namespace Gamebook.Archive

/-- What the keys of projects begin with. -/
def projectMark : String := "project."

/-- What the keys of saved games begin with. -/
def gameMark : String := "save."

/-- Keeps a project under its id. -/
def saveProject (archive : Archive) (now : Moment) (project : Project) :
    Except Fault Unit × Archive :=
  match project.write with
  | .error fault => (.error (.project fault), archive)
  | .ok value => archive.save now (projectMark ++ project.id) value

/-- The project that is kept under an id. -/
def loadProject (archive : Archive) (now : Moment) (id : String) : Except Fault Project :=
  let key := projectMark ++ id
  match archive.load key with
  | .error fault => .error fault
  | .ok none | .ok (some .null) => .error (.noProject id)
  | .ok (some value) =>
    (Schema.ofValue "Project" (Project.ofValue now) value).mapError fun mismatch =>
      .failed key (.notProject mismatch)

/-- The ids of the projects in order of their keys. -/
def projectIds (archive : Archive) : List String :=
  archive.keys.filterMap fun key =>
    if projectMark.toList.isPrefixOf key.toList then
      some (String.ofList (key.toList.drop projectMark.length))
    else none

/-- Keeps a state as the saved game of a project. -/
def saveGame (archive : Archive) (now : Moment) (id : String) (state : PlayerState) :
    Except Fault Unit × Archive :=
  archive.save now (gameMark ++ id) state.toValue

/-- The saved game of a project, if there is one. -/
def loadGame (archive : Archive) (id : String) : Except Fault (Option PlayerState) :=
  let key := gameMark ++ id
  match archive.load key with
  | .error fault => .error fault
  | .ok none | .ok (some .null) => .ok none
  | .ok (some (.object members)) =>
    match PlayerState.ofMembers members with
    | .ok state => .ok (some state)
    | .error fault => .error (.failed key (.notState fault))
  | .ok (some _) => .error (.failed key .notObject)

/-- Forgets the saved game of a project. -/
def clearGame (archive : Archive) (id : String) : Except Fault Unit × Archive :=
  archive.delete (gameMark ++ id)

/-- Forgets a project and then its saved game. -/
def deleteProject (archive : Archive) (id : String) : Except Fault Unit × Archive :=
  match archive.delete (projectMark ++ id) with
  | (.error fault, archive) => (.error fault, archive)
  | (.ok (), archive) => archive.clearGame id

end Gamebook.Archive
