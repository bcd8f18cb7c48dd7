import Gamebook.Story.Project

/-!
# Reachability

A scene is reachable when following choices from the start scene leads to it,
whatever the choices require. The closure grows round by round: each round adds the
targets of all scenes found so far that are scenes of the project, and as many
rounds as there are scenes are enough. Of several scenes with one id only the first
is followed. Without a start scene nothing is reachable.
-/

namespace Gamebook

/-- The scenes a choice can lead to from the first scene with an id, among the known ids. -/
def Project.successors (project : Project) (id : String) : List String :=
  match project.scene? id with
  | none => []
  | some scene => (scene.choices.map (·.target)).filter project.sceneIds.contains

namespace Reachability

/-- Adds the successors of all found scenes. -/
def grow (project : Project) (found : List String) : List String :=
  (found ++ found.flatMap project.successors).eraseDups

/-- Grows for a number of rounds, or until a round adds nothing. -/
def closure (project : Project) : Nat → List String → List String
  | 0, found => found
  | rounds + 1, found =>
    let next := grow project found
    if next.length = found.length then found else closure project rounds next

/-- The start scene, and the ids that can and cannot be reached from it, each in order. -/
structure Report where
  start : Option String
  reachable : List String
  unreachable : List String
  deriving DecidableEq, Repr

/-- The report of a project. -/
def report (project : Project) : Report :=
  let known := sortedSet project.sceneIds
  match project.startScene? with
  | none => ⟨none, [], known⟩
  | some start =>
    let found := closure project project.scenes.length [start.id]
    ⟨some start.id, known.filter found.contains, known.filter fun id => !found.contains id⟩

/-- The number of different scene ids. -/
def Report.total (report : Report) : Nat := report.reachable.length + report.unreachable.length

/-- Whether every scene can be reached. -/
def Report.isComplete (report : Report) : Bool := report.unreachable.isEmpty

/-- The report as lines of text. -/
def Report.text (report : Report) : String :=
  let start :=
    match report.start with
    | none => "(none)"
    | some id => if id.isEmpty then "(none)" else id
  let head :=
    ["Scene Reachability", "==================", "Start scene: " ++ start,
      "Reachable scenes: " ++ Nat.repr report.reachable.length ++ " / " ++ Nat.repr report.total]
  let tail :=
    if report.unreachable.isEmpty then ["All scenes are reachable from the start scene."]
    else "Unreachable scenes detected:" :: report.unreachable.map ("- " ++ ·)
  String.intercalate "\n" (head ++ tail)

end Reachability

end Gamebook
