import Gamebook.Play.State

/-!
# Judging conditions

A condition holds, or there is a reason why not: it can never be judged, its key
has another kind, or what is stored does not compare as demanded. A reason quotes
the numbers it compares, so it can only be given when both can be written. Of
several conditions the first that fails gives the reason.
-/

namespace Gamebook

/-- Why a condition does not hold. -/
inductive Reason
  | malformed (problem : ConditionProblem)
  | bound (key : String) (holds wanted : Kind)
  | shortfall (kind : Kind) (key : String) (operator : Operator) (needed have_ : String)
  | flagDiffers (key : String) (expected : Bool)
  deriving DecidableEq, Repr

/-- A sentence about a key that has another kind. -/
def boundText (key : String) (holds wanted : Kind) : String :=
  "'" ++ key ++ "' holds a " ++ holds.name ++ ", not a " ++ wanted.name

/-- The reason as a sentence. -/
def Reason.text : Reason → String
  | .malformed problem => problem.text
  | .bound key holds wanted => boundText key holds wanted
  | .shortfall kind key operator needed have_ =>
    "requires " ++ kind.name ++ " '" ++ key ++ "' " ++ operator.sign ++ " " ++ needed ++
      " (have " ++ have_ ++ ")"
  | .flagDiffers key expected =>
    "requires flag '" ++ key ++ "' to be " ++ (if expected then "set" else "unset")

namespace Condition

/-- The kind a key has when it is another than the wanted one. -/
def conflict? (kinds : Entries Kind) (key : String) (wanted : Kind) : Option Kind :=
  (kinds.get? key).filter (· ≠ wanted)

/-- Compares what is stored with the value of a condition. -/
def compare (condition : Condition) (current : Scalar) : Except NumberFault (Option Reason) :=
  if condition.operator.holds current condition.value then .ok none
  else do
    let needed ← condition.value.text
    let have_ ← current.text
    .ok (some (.shortfall condition.kind condition.key condition.operator needed have_))

/-- Judges a condition that is well-formed and whose key has no other kind. -/
def judge (condition : Condition) (state : PlayerState) : Except NumberFault (Option Reason) :=
  match condition.kind with
  | .item => do
    let count ← state.itemCount condition.key
    condition.compare (.int count)
  | .attribute => condition.compare (state.attributeValue condition.key)
  | .flag =>
    let expected := condition.value.isTrue
    .ok (if state.flag condition.key = expected then none
      else some (.flagDiffers condition.key expected))

/-- Why a condition does not hold in a state, if it does not. -/
def reason? (condition : Condition) (state : PlayerState) : Except NumberFault (Option Reason) :=
  match condition.problem? with
  | some problem => .ok (some (.malformed problem))
  | none =>
    match conflict? state.kinds condition.key condition.kind with
    | some holds => .ok (some (.bound condition.key holds condition.kind))
    | none => condition.judge state

end Condition

/-- Why some conditions do not all hold: the reason of the first that fails. -/
def firstReason? (state : PlayerState) : List Condition → Except NumberFault (Option Reason)
  | [] => .ok none
  | condition :: rest =>
    match condition.reason? state with
    | .error fault => .error fault
    | .ok (some reason) => .ok (some reason)
    | .ok none => firstReason? state rest

end Gamebook
