import Gamebook.Story.Project

/-!
# Metrics

The size of a project in numbers, and the items and flags its rules speak about.
An item is granted by a consequence that adds or sets it, and required by any
condition on it; a flag is set by any consequence on it.
-/

namespace Gamebook.Metrics

/-- The metrics of a project. The lists are in order and without repetition. -/
structure Report where
  scenes : Nat
  choices : Nat
  endings : Nat
  gated : Nat
  consequences : Nat
  average : Binary64
  most : Nat
  granted : List String
  required : List String
  flags : List String
  deriving DecidableEq, Repr

/-- The items a consequence can put into the player's hands. -/
def grantedBy (consequence : Consequence) : Option String :=
  if consequence.kind = .item && consequence.operation ≠ .remove then some consequence.key
  else none

/-- The item a condition asks for. -/
def requiredBy (condition : Condition) : Option String :=
  if condition.kind = .item then some condition.key else none

/-- The flag a consequence speaks about. -/
def flagOf (consequence : Consequence) : Option String :=
  if consequence.kind = .flag then some consequence.key else none

/-- The average to two places; no scenes have the average zero. -/
def averageOf (choices scenes : Nat) : Binary64 :=
  if scenes = 0 then Binary64.zeroNumber
  else Decimal.roundToHundredths (Binary64.ofCounts choices scenes)

/-- The metrics of a project. -/
def report (project : Project) : Report :=
  let choices := project.scenes.flatMap (·.choices)
  let consequences := choices.flatMap (·.consequences)
  let conditions := choices.flatMap (·.requirements)
  { scenes := project.scenes.length
    choices := choices.length
    endings := choices.countP (·.isTerminal)
    gated := choices.countP fun choice => !choice.requirements.isEmpty
    consequences := consequences.length
    average := averageOf choices.length project.scenes.length
    most := (project.scenes.map (·.choices.length)).foldl max 0
    granted := sortedSet (consequences.filterMap grantedBy)
    required := sortedSet (conditions.filterMap requiredBy)
    flags := sortedSet (consequences.filterMap flagOf) }

/-- Items that are asked for and never granted. -/
def Report.missing (report : Report) : List String :=
  report.required.filter fun key => !report.granted.contains key

/-- A line that lists keys, if there are any. -/
def listLine (heading : String) (keys : List String) : List String :=
  if keys.isEmpty then [] else [heading ++ String.intercalate ", " keys]

/-- The report as lines of text. -/
def Report.text (report : Report) : String :=
  let head :=
    ["Project Metrics", "===============", "Scenes: " ++ Nat.repr report.scenes,
      "Choices: " ++ Nat.repr report.choices,
      "Average choices per scene: " ++ Decimal.twoPlaces report.average,
      "Most choices in one scene: " ++ Nat.repr report.most,
      "Ending choices: " ++ Nat.repr report.endings,
      "Gated choices: " ++ Nat.repr report.gated,
      "Consequences: " ++ Nat.repr report.consequences]
  String.intercalate "\n" <|
    head ++ listLine "Items granted: " report.granted ++
      listLine "Items required: " report.required ++
      listLine "Required but never granted: " report.missing

end Gamebook.Metrics
