import Gamebook.Number.Scalar

/-!
# Rules of a choice

A rule speaks about one key of the player's store under one of three kinds: how
many of an item are held, how large an attribute is, or whether a flag is set. A
condition compares what is stored with a value; a consequence changes what is
stored.
-/

namespace Gamebook

/-- What a key of the store stands for. -/
inductive Kind
  | item
  | attribute
  | flag
  deriving DecidableEq, Repr

/-- The name of a kind. -/
def Kind.name : Kind → String
  | .item => "item"
  | .attribute => "attribute"
  | .flag => "flag"

/-- The kinds with their names. -/
def Kind.options : List (String × Kind) :=
  [.item, .attribute, .flag].map fun kind => (kind.name, kind)

/-- How a condition compares. -/
inductive Operator
  | greater
  | less
  | equal
  | atLeast
  | atMost
  deriving DecidableEq, Repr

/-- The sign of an operator. -/
def Operator.sign : Operator → String
  | .greater => ">"
  | .less => "<"
  | .equal => "="
  | .atLeast => ">="
  | .atMost => "<="

/-- The operators with their signs. -/
def Operator.options : List (String × Operator) :=
  [.greater, .less, .equal, .atLeast, .atMost].map fun operator => (operator.sign, operator)

/-- Whether a comparison holds between two scalars; an undefined number meets none. -/
def Operator.holds (operator : Operator) (x y : Scalar) : Bool :=
  match operator, Scalar.order? x y with
  | _, none => false
  | .greater, some order => order == .gt
  | .less, some order => order == .lt
  | .equal, some order => order == .eq
  | .atLeast, some order => order != .lt
  | .atMost, some order => order != .gt

/-- How a consequence changes what is stored. -/
inductive Operation
  | add
  | remove
  | set
  deriving DecidableEq, Repr

/-- The name of an operation. -/
def Operation.name : Operation → String
  | .add => "add"
  | .remove => "remove"
  | .set => "set"

/-- The operations with their names. -/
def Operation.options : List (String × Operation) :=
  [.add, .remove, .set].map fun operation => (operation.name, operation)

/-- A demand on the player's store. -/
structure Condition where
  kind : Kind
  key : String
  operator : Operator
  value : Scalar
  deriving DecidableEq, Repr

/-- A change of the player's store. -/
structure Consequence where
  kind : Kind
  key : String
  value : Scalar
  operation : Operation
  deriving DecidableEq, Repr

/-- Why a condition can never be judged. -/
inductive ConditionProblem
  | flagOperator (key : String) (operator : Operator)
  | flagValue (key : String)
  | numberValue (kind : Kind) (key : String)
  deriving DecidableEq, Repr

/-- The problem as a sentence. -/
def ConditionProblem.text : ConditionProblem → String
  | .flagOperator key operator =>
    "flag '" ++ key ++ "' can only be compared with '=', not '" ++ operator.sign ++ "'"
  | .flagValue key => "flag '" ++ key ++ "' must be compared with true or false"
  | .numberValue kind key => kind.name ++ " '" ++ key ++ "' must be compared with a number"

/-- A flag is compared for equality with a truth value, all else with a number. -/
def Condition.problem? (condition : Condition) : Option ConditionProblem :=
  match condition.kind with
  | .flag =>
    if condition.operator ≠ .equal then some (.flagOperator condition.key condition.operator)
    else if !condition.value.isBool then some (.flagValue condition.key)
    else none
  | kind => if !condition.value.isNumber then some (.numberValue kind condition.key) else none

/-- Why a consequence can never be applied. -/
inductive ConsequenceProblem
  | flagAdded (key : String)
  | flagValue (key : String)
  | itemCount (key : String)
  | attributeValue (key : String)
  deriving DecidableEq, Repr

/-- The problem as a sentence. -/
def ConsequenceProblem.text : ConsequenceProblem → String
  | .flagAdded key => "flag '" ++ key ++ "' cannot be added to"
  | .flagValue key => "flag '" ++ key ++ "' can only be set to true or false"
  | .itemCount key => "item '" ++ key ++ "' needs a non-negative whole count"
  | .attributeValue key => "attribute '" ++ key ++ "' needs a numeric value"

/-- A flag is set to a truth value or removed, an item changes by a count, an attribute by a
number. -/
def Consequence.problem? (consequence : Consequence) : Option ConsequenceProblem :=
  match consequence.kind, consequence.operation with
  | .flag, .add => some (.flagAdded consequence.key)
  | .flag, .set => if consequence.value.isBool then none else some (.flagValue consequence.key)
  | .flag, .remove => none
  | .item, _ => if consequence.value.isCount then none else some (.itemCount consequence.key)
  | .attribute, _ =>
    if consequence.value.isNumber then none else some (.attributeValue consequence.key)

end Gamebook
