import Gamebook.Proofs.Number.Numeral
import Gamebook.Proofs.Play.Faults

/-!
# How far numbers grow

A consequence moves the number under its key away from zero by no more than its own value, whatever
the operation. So where everything in the store is whole and within a bound, and the values of a
choice's consequences come to some weight, the store is whole and within bound and weight together
after the choice. As long as this lies below the numbers with too many digits to be written, play
meets no fault. The store need not be typed, and the values of conditions need only be writable.
-/

namespace Gamebook

/-! ## Scalars -/

namespace Scalar

/-- A scalar is a whole number, or a truth value counted as one, no further from zero than a
bound. -/
def Within (bound : Nat) (x : Scalar) : Prop := ∃ n, x.asNumber = .inl n ∧ n.natAbs ≤ bound

/-- How far a whole scalar is from zero. -/
def size (x : Scalar) : Nat :=
  match x.asNumber with
  | .inl n => n.natAbs
  | .inr _ => 0

variable {bound : Nat} {x y z : Scalar}

theorem within_int {n : Int} : (int n).Within bound ↔ n.natAbs ≤ bound := by
  simp [Within, asNumber]

theorem Within.mono {more : Nat} (within : x.Within bound) (atMost : bound ≤ more) :
    x.Within more := by
  obtain ⟨n, whole, size⟩ := within
  exact ⟨n, whole, size.trans atMost⟩

theorem Within.toWhole_ok (within : x.Within bound) :
    ∃ n, x.toWhole = .ok n ∧ n.natAbs ≤ bound := by
  obtain ⟨n, whole, size⟩ := within
  cases x with
  | bool b => exact ⟨n, congrArg Except.ok (Sum.inl.inj whole), size⟩
  | int m => exact ⟨n, congrArg Except.ok (Sum.inl.inj whole), size⟩
  | float x => nomatch whole

theorem Within.quotable (within : x.Within bound) (small : bound < Numeral.unwritable) :
    x.Quotable := by
  cases x with
  | int n => exact (Numeral.isWritable_iff n).mpr ((within_int.mp within).trans_lt small)
  | _ => trivial

/-- Whole numbers are combined as such. -/
theorem combine_within (onInts : Int → Int → Int) (onFloats : Binary64 → Binary64 → Binary64)
    (within : x.Within bound) (whole : y.Within y.size)
    (grows : ∀ m n, (onInts m n).natAbs ≤ m.natAbs + n.natAbs) :
    ∃ n, combine onInts onFloats x y = .ok (int n) ∧ n.natAbs ≤ bound + y.size := by
  obtain ⟨m, isFirst, first⟩ := within
  obtain ⟨n, isSecond, second⟩ := whole
  refine ⟨onInts m n, by simp only [combine, isFirst, isSecond], ?_⟩
  exact (grows m n).trans (Nat.add_le_add first second)

/-- What counts as true is not zero. -/
theorem one_le_size (whole : x.Within x.size) (isTrue : x.isTrue = true) : 1 ≤ x.size := by
  cases x with
  | bool b =>
    obtain rfl : b = true := isTrue
    exact Nat.le_refl 1
  | int n =>
    have notZero : n ≠ 0 := by simpa [Scalar.isTrue] using isTrue
    exact Int.natAbs_pos.mpr notZero
  | float x =>
    obtain ⟨_, isNone, _⟩ := whole
    cases isNone

end Scalar

/-! ## Stores -/

/-- Everything in a store is whole and within a bound. -/
def Store.Within (store : Store) (bound : Nat) : Prop :=
  ∀ entry ∈ store.values, entry.2.Within bound

variable {store : Store} {state : PlayerState} {bound : Nat}

theorem Store.Within.mono {more : Nat} (within : store.Within bound) (atMost : bound ≤ more) :
    store.Within more := fun entry member => (within entry member).mono atMost

/-- So is what is read from it, where nothing counts as zero. -/
theorem Store.Within.getD (within : store.Within bound) (key : String) :
    ((store.values.get? key).getD (.int 0)).Within bound := by
  cases found : store.values.get? key with
  | none => exact Scalar.within_int.mpr (Nat.zero_le bound)
  | some x => exact within (key, x) (Entries.mem_of_get? found)

namespace PlayerState

theorem attributeValue_within (within : state.store.Within bound) (key : String) :
    (state.attributeValue key).Within bound := by
  unfold attributeValue
  split
  · exact within.getD key
  · exact Scalar.within_int.mpr (Nat.zero_le bound)

theorem itemCount_within (within : state.store.Within bound) (key : String) :
    ∃ n, state.itemCount key = .ok n ∧ n.natAbs ≤ bound := by
  unfold itemCount
  split
  · exact (within.getD key).toWhole_ok
  · exact ⟨0, rfl, Nat.zero_le bound⟩

theorem inventory_within (within : state.store.Within bound) :
    ∃ items, state.inventory = .ok items ∧ ∀ item ∈ items, item.2.natAbs ≤ bound := by
  apply exists_mapM_ok
  rintro ⟨key, value⟩ member
  obtain ⟨stored, _⟩ := List.mem_filter.mp ((List.mergeSort_perm _ _).mem_iff.mp member)
  obtain ⟨count, isWhole, size⟩ := (within (key, value) stored).toWhole_ok
  exact ⟨(key, count), by simp only [isWhole, Except.map], size⟩

end PlayerState

/-! ## Conditions -/

section Judged

variable (within : state.store.Within bound) (small : bound < Numeral.unwritable)

include within small

/-- A condition with a value that can be written is judged. -/
theorem Condition.reason?_ok {condition : Condition} (quotable : condition.value.Quotable) :
    ∃ reason, condition.reason? state = .ok reason := by
  have compared {current : Scalar} (held : current.Within bound) :
      ∃ reason, condition.compare current = .ok reason := by
    cases result : condition.compare current with
    | ok reason => exact ⟨reason, rfl⟩
    | error fault =>
      exact absurd ⟨quotable, held.quotable small⟩
        ((compare_error_iff condition current fault).mp result).2.2
  unfold reason?
  split
  · exact ⟨_, rfl⟩
  · split
    · exact ⟨_, rfl⟩
    · unfold judge
      split
      · obtain ⟨count, counted, size⟩ := PlayerState.itemCount_within within condition.key
        obtain ⟨reason, judged⟩ := compared (Scalar.within_int.mpr size)
        exact ⟨reason, by simpa only [counted, Except.ok_bind] using judged⟩
      · exact compared (PlayerState.attributeValue_within within condition.key)
      · exact ⟨_, rfl⟩

theorem firstReason?_ok {conditions : List Condition}
    (quotable : ∀ condition ∈ conditions, condition.value.Quotable) :
    ∃ reason, firstReason? state conditions = .ok reason := by
  induction conditions with
  | nil => exact ⟨none, rfl⟩
  | cons condition rest inductionHypothesis =>
    obtain ⟨here, later⟩ := List.forall_mem_cons.mp quotable
    obtain ⟨reason, judged⟩ := Condition.reason?_ok within small here
    cases reason with
    | some reason => exact ⟨some reason, by simp only [firstReason?, judged]⟩
    | none =>
      obtain ⟨reason, others⟩ := inductionHypothesis later
      exact ⟨reason, by simpa only [firstReason?, judged] using others⟩

theorem Project.displayFrom_ok (index : Nat) {choices : List Choice}
    (quotable : ∀ choice ∈ choices, ∀ condition ∈ choice.requirements, condition.value.Quotable) :
    ∃ entries, displayFrom state index choices = .ok entries := by
  induction choices generalizing index with
  | nil => exact ⟨[], rfl⟩
  | cons choice rest inductionHypothesis =>
    obtain ⟨here, later⟩ := List.forall_mem_cons.mp quotable
    obtain ⟨reason, judged⟩ := firstReason?_ok within small here
    obtain ⟨entries, others⟩ := inductionHypothesis (index + 1) later
    exact ⟨_, (displayFrom_cons_iff _ _ _ _ _).mpr ⟨reason, entries, judged, others, rfl⟩⟩

end Judged

/-! ## Consequences -/

namespace Consequence

variable {consequence : Consequence}

/-- Counting moves a number by no more than the value of the consequence. -/
theorem count_within {current : Scalar} (held : current.Within bound)
    (whole : consequence.value.Within consequence.value.size) :
    ∃ x, consequence.count current = .ok x ∧ x.Within (bound + consequence.value.size) := by
  unfold count
  cases consequence.operation with
  | set => exact ⟨_, rfl, whole.mono (Nat.le_add_left _ _)⟩
  | add =>
    obtain ⟨n, sum, size⟩ :=
      Scalar.combine_within (· + ·) Binary64.add held whole Int.natAbs_add_le
    exact ⟨.int n, sum, Scalar.within_int.mpr size⟩
  | remove =>
    obtain ⟨n, difference, size⟩ :=
      Scalar.combine_within (· - ·) Binary64.sub held whole Int.natAbs_sub_le
    have clamped : (Scalar.int n).clamp = .int (max 0 n) := Scalar.clamp_int n
    refine ⟨.int (max 0 n), ?_, Scalar.within_int.mpr (by omega)⟩
    rw [Scalar.sub, difference, Except.map, clamped]

theorem result_within (within : store.Within bound)
    (whole : consequence.value.Within consequence.value.size) :
    ∃ x, consequence.result store.values = .ok x ∧ x.Within (bound + consequence.value.size) := by
  obtain ⟨x, counted, size⟩ := count_within (within.getD consequence.key) whole
  unfold result
  split
  · obtain ⟨n, isWhole, small⟩ := size.toWhole_ok
    exact ⟨.int n, by simp only [counted, isWhole, Except.ok_bind], Scalar.within_int.mpr small⟩
  · exact ⟨x, counted, size⟩
  · refine ⟨_, rfl, _, rfl, ?_⟩
    cases isSet : (consequence.operation ≠ .remove && consequence.value.isTrue) with
    | false => exact Nat.zero_le _
    | true =>
      have isTrue := ((Bool.and_eq_true _ _).mp isSet).2
      exact (Scalar.one_le_size whole isTrue).trans (Nat.le_add_left _ _)

theorem apply_within (within : store.Within bound)
    (whole : consequence.value.Within consequence.value.size) :
    ∃ applied, consequence.apply store = .ok applied ∧
      ∀ next, applied = .store next → next.Within (bound + consequence.value.size) := by
  obtain ⟨x, done, size⟩ := result_within within whole
  unfold apply
  split
  · exact ⟨_, rfl, nofun⟩
  · split
    · exact ⟨_, rfl, nofun⟩
    · refine ⟨_, by rw [done]; rfl, ?_⟩
      rintro _ ⟨⟩ entry member
      rcases Entries.mem_put member with rfl | old
      · exact size
      · exact (within entry old).mono (Nat.le_add_right _ _)

end Consequence

/-- How far some consequences together move a number at most. -/
def weightOf (consequences : List Consequence) : Nat :=
  (consequences.map (·.value.size)).sum

/-- Consequences with whole values are applied or refused, and what they leave is within the bound
and their weight. -/
theorem applyAll_within {consequences : List Consequence} (within : store.Within bound)
    (whole : ∀ consequence ∈ consequences, consequence.value.Within consequence.value.size) :
    ∃ applied, applyAll store consequences = .ok applied ∧
      ∀ next, applied = .store next → next.Within (bound + weightOf consequences) := by
  induction consequences generalizing store bound with
  | nil =>
    refine ⟨_, rfl, ?_⟩
    rintro _ ⟨⟩
    exact within
  | cons consequence rest inductionHypothesis =>
    obtain ⟨first, others⟩ := List.forall_mem_cons.mp whole
    obtain ⟨applied, done, size⟩ := Consequence.apply_within within first
    cases applied with
    | refused refusal => exact ⟨.refused refusal, by simp only [applyAll, done], nofun⟩
    | store middle =>
      obtain ⟨last, rested, lastSize⟩ := inductionHypothesis (size middle rfl) others
      refine ⟨last, by simpa only [applyAll, done] using rested, fun next isStore => ?_⟩
      refine (lastSize next isStore).mono (Nat.le_of_eq ?_)
      rw [weightOf, weightOf, List.map_cons, List.sum_cons, Nat.add_assoc]

/-! ## Choices -/

namespace Project

/-- The numbers of a project are whole: those that conditions compare can be written, and those that
the consequences of one choice name come to at most some weight. -/
structure WeighsAtMost (project : Project) (weight : Nat) : Prop where
  conditions : ∀ scene ∈ project.scenes, ∀ choice ∈ scene.choices,
    ∀ condition ∈ choice.requirements, condition.value.Quotable
  whole : ∀ scene ∈ project.scenes, ∀ choice ∈ scene.choices,
    ∀ consequence ∈ choice.consequences, consequence.value.Within consequence.value.size
  consequences : ∀ scene ∈ project.scenes, ∀ choice ∈ scene.choices,
    weightOf choice.consequences ≤ weight

variable {project : Project} {weight : Nat} (weighs : project.WeighsAtMost weight)
  (within : state.store.Within bound) (small : bound < Numeral.unwritable)

include weighs within small

theorem display_ok : ∃ entries, project.display state none = .ok entries := by
  unfold display
  cases here : project.currentScene? state with
  | none => exact ⟨[], rfl⟩
  | some scene => exact displayFrom_ok within small 0 (weighs.conditions scene (mem_of_scene? here))

theorem select_within (choiceId : String) :
    ∃ outcome, project.select state choiceId = .ok outcome ∧
      outcome.state.store.Within (bound + weight) := by
  have kept : state.store.Within (bound + weight) := within.mono (Nat.le_add_right _ _)
  unfold select
  split
  · exact ⟨_, rfl, kept⟩
  · cases found : project.currentChoice? state choiceId with
    | none => exact ⟨_, rfl, kept⟩
    | some choice =>
      obtain ⟨scene, here, offered⟩ := Option.bind_eq_some_iff.mp found
      have inProject : scene ∈ project.scenes := mem_of_scene? here
      have inScene : choice ∈ scene.choices := List.mem_of_find?_eq_some offered
      obtain ⟨reason, judged⟩ :=
        firstReason?_ok within small (weighs.conditions scene inProject choice inScene)
      obtain ⟨applied, done, size⟩ :=
        applyAll_within within (weighs.whole scene inProject choice inScene)
      have taken : ∃ result, project.take state choice = .ok result ∧
          ∀ next, result = .inr next → next.store.Within (bound + weight) := by
        unfold take
        rw [judged]
        cases reason with
        | some reason => exact ⟨_, rfl, nofun⟩
        | none =>
          cases project.reaches choice with
          | false => exact ⟨_, rfl, nofun⟩
          | true =>
            rw [done]
            cases applied with
            | refused refusal => exact ⟨_, rfl, nofun⟩
            | store next =>
              refine ⟨_, rfl, ?_⟩
              rintro _ ⟨⟩
              exact (size next rfl).mono
                (Nat.add_le_add_left (weighs.consequences scene inProject choice inScene) _)
      obtain ⟨result, isTaken, sizeAfter⟩ := taken
      simp only [isTaken, Except.map]
      cases result with
      | inl refusal => exact ⟨_, rfl, kept⟩
      | inr next => exact ⟨_, rfl, sizeAfter next rfl⟩

end Project

end Gamebook
