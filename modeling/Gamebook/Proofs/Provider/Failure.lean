import Gamebook.Provider.Failure
import Mathlib.Logic.Relation

/-!
# Which rule decides

A failure of a class counts as one of another when steps up the hierarchy lead from the one to
the other, through classes of a provider's own as through the others. A classifier gives a class
the category of the first of its rules whose class is reached so, and its standard category where
no rule has such a class.
-/

namespace Gamebook

namespace FailureClass

/-- One class stands directly below another. -/
inductive Extends : FailureClass → FailureClass → Prop
  | runtime : Extends .runtime .any
  | provider : Extends .provider .runtime
  | rateLimit : Extends .rateLimit .provider
  | system : Extends .system .any
  | connection : Extends .connection .system
  | connectionReset : Extends .connectionReset .connection
  | timeout : Extends .timeout .system
  | lookup : Extends .lookup .any
  | missingKey : Extends .missingKey .lookup
  | badValue : Extends .badValue .any
  | badType : Extends .badType .any
  | badShape : Extends .badShape .any
  | arithmetic : Extends .arithmetic .any
  | overflow : Extends .overflow .arithmetic
  | first (name : String) (first second : FailureClass) :
    Extends (.derived name first second) first
  | second (name : String) (first second : FailureClass) :
    Extends (.derived name first second) second

/-- Steps up the hierarchy lead from one class to another. -/
def CountsAs : FailureClass → FailureClass → Prop := Relation.ReflTransGen Extends

variable {c above : FailureClass}

theorem mem_lineage_self (c : FailureClass) : c ∈ c.lineage := by
  cases c <;> simp [lineage]

/-- The classes above a class are itself and those above the classes that it extends. -/
theorem mem_lineage_iff :
    above ∈ c.lineage ↔ above = c ∨ ∃ parent, c.Extends parent ∧ above ∈ parent.lineage := by
  constructor
  · intro member
    cases c with
    | any => exact .inl (by simpa [lineage] using member)
    | derived name first second =>
      rcases List.mem_cons.mp member with same | later
      · exact .inl same
      · rcases List.mem_append.mp later with inFirst | inSecond
        · exact .inr ⟨first, .first name first second, inFirst⟩
        · exact .inr ⟨second, .second name first second, inSecond⟩
    | _ =>
      rcases List.mem_cons.mp member with same | later
      · exact .inl same
      · refine .inr ⟨_, by constructor, ?_⟩
        exact later
  · rintro (rfl | ⟨parent, step, member⟩)
    · exact mem_lineage_self above
    · cases step with
      | first => exact List.mem_cons_of_mem _ (List.mem_append_left _ member)
      | second => exact List.mem_cons_of_mem _ (List.mem_append_right _ member)
      | _ => exact List.mem_cons_of_mem _ member

/-- Every step up leaves fewer classes above. -/
theorem Extends.lineage_lt {parent : FailureClass} (step : c.Extends parent) :
    parent.lineage.length < c.lineage.length := by
  cases step <;> simp only [lineage, List.length_cons, List.length_append] <;> omega

theorem isA_iff : c.isA above = true ↔ c.CountsAs above := by
  rw [isA, List.contains_iff_mem]
  constructor
  · intro member
    -- The hierarchy has no cycle, so the steps up come to an end.
    induction shorter : c.lineage.length using Nat.strongRecOn generalizing c with
    | ind size inductionHypothesis =>
      rcases mem_lineage_iff.mp member with rfl | ⟨parent, step, later⟩
      · exact .refl
      · exact .head step (inductionHypothesis _ (shorter ▸ step.lineage_lt) later rfl)
  · intro leads
    induction leads using Relation.ReflTransGen.head_induction_on with
    | refl => exact mem_lineage_self above
    | head step _ inductionHypothesis =>
      exact mem_lineage_iff.mpr (.inr ⟨_, step, inductionHypothesis⟩)

theorem isA_eq_false_iff : c.isA above = false ↔ ¬c.CountsAs above :=
  Bool.eq_false_iff.trans (not_congr isA_iff)

end FailureClass

namespace Classifier

/-- The category that the rules of a classifier give a class. -/
inductive Decides (classifier : Classifier) (cls : FailureClass) : FailureCategory → Prop
  | rule {before after : List (FailureClass × FailureCategory)} {above : FailureClass}
    {category : FailureCategory} (among : classifier.rules = before ++ (above, category) :: after)
    (covers : cls.CountsAs above) (first : ∀ rule ∈ before, ¬cls.CountsAs rule.1) :
    Decides classifier cls category
  | standard (none : ∀ rule ∈ classifier.rules, ¬cls.CountsAs rule.1) :
    Decides classifier cls classifier.standard

/-- Classifying follows the rules. -/
theorem decides_classify (classifier : Classifier) (cls : FailureClass) :
    classifier.Decides cls (classifier.classify cls) := by
  unfold classify
  split
  next above category found =>
    obtain ⟨covers, before, after, among, first⟩ := List.find?_eq_some_iff_append.mp found
    refine .rule among (FailureClass.isA_iff.mp covers) fun rule member => ?_
    exact FailureClass.isA_eq_false_iff.mp (by simpa using first rule member)
  next missing =>
    refine .standard fun rule member leads => ?_
    exact List.find?_eq_none.mp missing rule member (FailureClass.isA_iff.mpr leads)

/-- The rules give every class one category. -/
theorem Decides.eq_classify {classifier : Classifier} {cls : FailureClass}
    {category : FailureCategory} (decides : classifier.Decides cls category) :
    classifier.classify cls = category := by
  unfold classify
  cases decides with
  | @rule before after above category among covers first =>
    have found :
        classifier.rules.find? (fun rule => cls.isA rule.1) = some (above, category) := by
      refine List.find?_eq_some_iff_append.mpr
        ⟨FailureClass.isA_iff.mpr covers, before, after, among, fun rule member => ?_⟩
      simpa using FailureClass.isA_eq_false_iff.mpr (first rule member)
    rw [found]
  | standard none =>
    have missing : classifier.rules.find? (fun rule => cls.isA rule.1) = Option.none :=
      List.find?_eq_none.mpr fun rule member covers =>
        none rule member (FailureClass.isA_iff.mp covers)
    rw [missing]

end Classifier

end Gamebook
