import Gamebook.Proofs.Play.Kinds
import Gamebook.Validation

/-!
# Rules that can be used

A condition can be judged when it compares a number, or a flag for equality with a truth value. A
consequence can be applied when its value has its kind; clearing a flag needs no value, and a flag
is never added to. Nothing is wrong with a rule exactly when it can be used, and what is wrong with
one that cannot is reported under a code of its own only for the operator of a flag.
-/

namespace Gamebook

namespace Condition

/-- A condition about a flag that compares otherwise than for equality. -/
def ComparesFlag (condition : Condition) : Prop :=
  condition.kind = .flag ∧ condition.operator ≠ .equal

/-- A condition that can be judged. The count of an item may be compared with any number. -/
structure WellFormed (condition : Condition) : Prop where
  operator : ¬condition.ComparesFlag
  value : condition.value.OfKind (if condition.kind = .flag then .flag else .attribute)

/-- Nothing is wrong with a condition exactly when it can be judged. -/
theorem problem?_eq_none_iff (condition : Condition) :
    condition.problem? = none ↔ condition.WellFormed := by
  have usable : condition.WellFormed ↔ ¬condition.ComparesFlag ∧
      PlayerState.fits (if condition.kind = .flag then .flag else .attribute) condition.value := by
    rw [PlayerState.fits_iff]
    exact ⟨fun wellFormed => ⟨wellFormed.operator, wellFormed.value⟩,
      fun both => ⟨both.1, both.2⟩⟩
  rw [usable]
  unfold problem? ComparesFlag
  match condition.kind with
  | .flag => by_cases equality : condition.operator = .equal <;> simp [equality, PlayerState.fits]
  | .item => simp [PlayerState.fits]
  | .attribute => simp [PlayerState.fits]

/-- The problem of a condition has the code of flag operators exactly when a flag is compared
otherwise than for equality. -/
theorem flagOperator_iff (condition : Condition) :
    (∃ problem, condition.problem? = some problem ∧ problem.code = .flagOperator) ↔
      condition.ComparesFlag := by
  unfold problem? ComparesFlag
  match condition.kind with
  | .flag =>
    by_cases equality : condition.operator = .equal
    · cases condition.value.isBool <;> simp [equality, ConditionProblem.code]
    · simp [equality, ConditionProblem.code]
  | .item => cases condition.value.isNumber <;> simp [ConditionProblem.code]
  | .attribute => cases condition.value.isNumber <;> simp [ConditionProblem.code]

/-- Every other problem has the code of values. -/
theorem invalidValue_iff (condition : Condition) :
    (∃ problem, condition.problem? = some problem ∧ problem.code = .invalidValue) ↔
      ¬condition.WellFormed ∧ ¬condition.ComparesFlag := by
  rw [← problem?_eq_none_iff, ← flagOperator_iff]
  cases condition.problem? with
  | none => simp
  | some problem => cases problem <;> simp [ConditionProblem.code]

end Condition

namespace Consequence

/-- A consequence that can be applied. -/
structure WellFormed (consequence : Consequence) : Prop where
  operation : consequence.kind = .flag → consequence.operation ≠ .add
  value : (consequence.kind = .flag → consequence.operation ≠ .remove) →
    consequence.value.OfKind consequence.kind

/-- Nothing is wrong with a consequence exactly when it can be applied. -/
theorem problem?_eq_none_iff (consequence : Consequence) :
    consequence.problem? = none ↔ consequence.WellFormed := by
  have usable : consequence.WellFormed ↔
      (consequence.kind = .flag → consequence.operation ≠ .add) ∧
      ((consequence.kind = .flag → consequence.operation ≠ .remove) →
        PlayerState.fits consequence.kind consequence.value) := by
    rw [PlayerState.fits_iff]
    exact ⟨fun wellFormed => ⟨wellFormed.operation, wellFormed.value⟩,
      fun both => ⟨both.1, both.2⟩⟩
  rw [usable]
  unfold problem?
  match consequence.kind with
  | .flag => cases consequence.operation <;> simp [PlayerState.fits]
  | .item => simp [PlayerState.fits]
  | .attribute => simp [PlayerState.fits]

end Consequence

end Gamebook
