import Gamebook.Play.Evaluation

/-!
# Applying consequences

Consequences change the store one after the other, and each key keeps the kind it
was first written as. A consequence that can never be applied, or whose key has
another kind, refuses the whole batch. Removing stops at zero, an item is always a
whole count, and a flag that is removed is no longer set.
-/

namespace Gamebook

/-- Why a batch of consequences is refused. -/
inductive EffectRefusal
  | malformed (problem : ConsequenceProblem)
  | bound (key : String) (holds wanted : Kind)
  deriving DecidableEq, Repr

/-- The refusal as a sentence. -/
def EffectRefusal.text : EffectRefusal → String
  | .malformed problem => problem.text
  | .bound key holds wanted => boundText key holds wanted

/-- What the player has: values and kinds by key. -/
structure Store where
  values : Entries Scalar
  kinds : Entries Kind
  deriving DecidableEq, Repr

/-- What applying consequences gives. -/
inductive Applied
  | refused (refusal : EffectRefusal)
  | store (store : Store)
  deriving DecidableEq, Repr

namespace Consequence

/-- The number that a consequence leaves of the current one. -/
def count (consequence : Consequence) (current : Scalar) : Except NumberFault Scalar :=
  match consequence.operation with
  | .set => .ok consequence.value
  | .add => current.add consequence.value
  | .remove => (current.sub consequence.value).map Scalar.clamp

/-- The value that a well-formed consequence leaves under its key. -/
def result (consequence : Consequence) (values : Entries Scalar) :
    Except NumberFault Scalar :=
  let current := (values.get? consequence.key).getD (.int 0)
  match consequence.kind with
  | .item => do
    let counted ← consequence.count current
    let n ← counted.toWhole
    .ok (.int n)
  | .attribute => consequence.count current
  | .flag => .ok (.bool (consequence.operation ≠ .remove && consequence.value.isTrue))

/-- Applies one consequence to a store. -/
def apply (consequence : Consequence) (store : Store) : Except NumberFault Applied :=
  match consequence.problem? with
  | some problem => .ok (.refused (.malformed problem))
  | none =>
    match Condition.conflict? store.kinds consequence.key consequence.kind with
    | some holds => .ok (.refused (.bound consequence.key holds consequence.kind))
    | none =>
      (consequence.result store.values).map fun value =>
        .store ⟨store.values.put consequence.key value,
          store.kinds.put consequence.key consequence.kind⟩

end Consequence

/-- Applies consequences in order; the first refusal refuses all. -/
def applyAll (store : Store) : List Consequence → Except NumberFault Applied
  | [] => .ok (.store store)
  | consequence :: rest =>
    match consequence.apply store with
    | .error fault => .error fault
    | .ok (.refused refusal) => .ok (.refused refusal)
    | .ok (.store next) => applyAll next rest

/-- The store of a state. -/
def PlayerState.store (state : PlayerState) : Store := ⟨state.values, state.kinds⟩

end Gamebook
