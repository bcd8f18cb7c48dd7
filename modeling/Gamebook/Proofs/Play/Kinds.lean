import Gamebook.Play.Effect
import Gamebook.Proofs.Entries
import Gamebook.Proofs.Fallible

/-!
# Stores whose values have the kind of their key

An item is a whole count, an attribute a number and a flag a truth value. A store is
typed when values and kinds have the same keys and every value has the kind of its key.
A consequence that is applied leaves a typed store typed: it leaves a value of its own
kind, and its key has that kind already or none.
-/

namespace Gamebook

/-- The scalars that a key of a kind can hold. -/
def Scalar.OfKind : Kind → Scalar → Prop
  | .item, x => ∃ n : Int, x = .int n ∧ 0 ≤ n
  | .attribute, x => (∃ n, x = .int n) ∨ ∃ number, x = .float number
  | .flag, x => ∃ b, x = .bool b

/-- The check of a saved state tells exactly the scalars of a kind. -/
theorem PlayerState.fits_iff (kind : Kind) (x : Scalar) :
    PlayerState.fits kind x = true ↔ x.OfKind kind := by
  cases kind <;> cases x <;>
    simp [PlayerState.fits, Scalar.OfKind, Scalar.isCount, Scalar.isNumber, Scalar.isBool]

/-- A store in which every key has a kind and a value of that kind. -/
structure Store.Typed (store : Store) : Prop where
  values : store.values.keys.Nodup
  kinds : store.kinds.keys.Nodup
  keys : ∀ key, key ∈ store.values.keys ↔ key ∈ store.kinds.keys
  typed : ∀ key kind, store.kinds.get? key = some kind →
    ∃ x, store.values.get? key = some x ∧ x.OfKind kind

theorem Store.typed_empty : Store.Typed ⟨[], []⟩ :=
  ⟨List.nodup_nil, List.nodup_nil, fun _ => Iff.rfl, fun _ _ bound => nomatch bound⟩

namespace Scalar

/-- Combining two numbers gives a number. -/
theorem combine_number {onInts : Int → Int → Int} {onFloats : Binary64 → Binary64 → Binary64}
    {x y z : Scalar} (combined : combine onInts onFloats x y = .ok z) : z.OfKind .attribute := by
  unfold combine at combined
  split at combined
  · exact .inl ⟨_, (Except.ok.inj combined).symm⟩
  · obtain ⟨first, _, rfl⟩ := Except.map_ok_iff.mp combined
    exact .inr ⟨_, rfl⟩
  · obtain ⟨second, _, rfl⟩ := Except.map_ok_iff.mp combined
    exact .inr ⟨_, rfl⟩
  · exact .inr ⟨_, (Except.ok.inj combined).symm⟩

/-- Stopping at zero leaves a number a number. -/
theorem clamp_number {x : Scalar} (number : x.OfKind .attribute) :
    x.clamp.OfKind .attribute := by
  unfold clamp
  split
  · exact number
  · exact .inl ⟨0, rfl⟩

/-- Whole numbers are compared as integers. -/
theorem isLess_int (m n : Int) : isLess (int m) (int n) = true ↔ m < n := by
  simp [isLess, order?, Int.compare_eq_lt]

/-- Stopping at zero leaves a whole number or zero, whichever is greater. -/
theorem clamp_int (n : Int) : (int n).clamp = int (max 0 n) := by
  unfold clamp
  split
  next positive => rw [Int.max_eq_right (Int.le_of_lt ((isLess_int 0 n).mp positive))]
  next stopped => rw [Int.max_eq_left (Int.not_lt.mp fun less => stopped ((isLess_int 0 n).mpr less))]

end Scalar

namespace Consequence

/-- What a key of the given kind holds before a consequence: its value, or zero. -/
def current (consequence : Consequence) (values : Entries Scalar) : Scalar :=
  (values.get? consequence.key).getD (.int 0)

/-- From a count and a count, counting gives a count. -/
theorem count_item {consequence : Consequence} {current counted : Scalar}
    (value : consequence.value.OfKind .item) (held : current.OfKind .item)
    (done : consequence.count current = .ok counted) : counted.OfKind .item := by
  obtain ⟨change, isChange, changeBound⟩ := value
  obtain ⟨amount, rfl, amountBound⟩ := held
  unfold count at done
  rw [isChange] at done
  split at done
  · exact ⟨change, (Except.ok.inj done).symm, changeBound⟩
  · have sum : Scalar.int (amount + change) = counted := Except.ok.inj done
    exact ⟨amount + change, sum.symm, by omega⟩
  · have difference : (Scalar.int (amount - change)).clamp = counted := Except.ok.inj done
    rw [Scalar.clamp_int] at difference
    exact ⟨max 0 (amount - change), difference.symm, Int.le_max_left 0 _⟩

/-- From numbers, counting gives a number. -/
theorem count_attribute {consequence : Consequence} {current counted : Scalar}
    (value : consequence.value.OfKind .attribute)
    (done : consequence.count current = .ok counted) : counted.OfKind .attribute := by
  unfold count at done
  split at done
  · exact Except.ok.inj done ▸ value
  · exact Scalar.combine_number done
  · obtain ⟨rest, difference, rfl⟩ := Except.map_ok_iff.mp done
    exact Scalar.clamp_number (Scalar.combine_number difference)

/-- A well-formed consequence has a value of its kind, unless it is about a flag. -/
theorem value_ofKind {consequence : Consequence} (wellFormed : consequence.problem? = none)
    (notFlag : consequence.kind ≠ .flag) : consequence.value.OfKind consequence.kind := by
  rw [← PlayerState.fits_iff]
  unfold problem? at wellFormed
  match kind : consequence.kind with
  | .item => simpa [kind, PlayerState.fits] using wellFormed
  | .attribute => simpa [kind, PlayerState.fits] using wellFormed
  | .flag => exact absurd kind notFlag

/-- A well-formed consequence leaves a value of its kind where the key held one before. -/
theorem result_ofKind {consequence : Consequence} {values : Entries Scalar} {value : Scalar}
    (wellFormed : consequence.problem? = none)
    (held : (consequence.current values).OfKind consequence.kind ∨ consequence.kind = .flag)
    (done : consequence.result values = .ok value) : value.OfKind consequence.kind := by
  unfold result at done
  match kind : consequence.kind with
  | .item =>
    have isCount : consequence.value.OfKind .item :=
      kind ▸ value_ofKind wellFormed (by simp [kind])
    have holds : (consequence.current values).OfKind .item := by simpa [kind] using held
    rw [kind] at done
    obtain ⟨counted, isCounted, done⟩ := Except.bind_ok_iff.mp done
    obtain ⟨n, rfl, bound⟩ := count_item isCount holds isCounted
    obtain ⟨whole, isWhole, same⟩ := Except.bind_ok_iff.mp done
    obtain rfl : n = whole := Except.ok.inj isWhole
    exact ⟨n, (Except.ok.inj same).symm, bound⟩
  | .attribute =>
    have isNumber : consequence.value.OfKind .attribute :=
      kind ▸ value_ofKind wellFormed (by simp [kind])
    rw [kind] at done
    exact count_attribute isNumber done
  | .flag =>
    rw [kind] at done
    exact ⟨_, (Except.ok.inj done).symm⟩

/-- What a consequence that is applied does: it is well-formed, its key has its kind or none,
and its result and its kind are written. -/
theorem apply_store_iff (consequence : Consequence) (store next : Store) :
    consequence.apply store = .ok (.store next) ↔
      consequence.problem? = none ∧
        Condition.conflict? store.kinds consequence.key consequence.kind = none ∧
        ∃ value, consequence.result store.values = .ok value ∧
          next = ⟨store.values.put consequence.key value,
            store.kinds.put consequence.key consequence.kind⟩ := by
  unfold apply
  cases consequence.problem? with
  | some problem => simp
  | none =>
    cases Condition.conflict? store.kinds consequence.key consequence.kind with
    | some holds => simp
    | none => simp [Except.map_ok_iff, @eq_comm _ next]

end Consequence

theorem applyAll_nil_iff (store next : Store) :
    applyAll store [] = .ok (.store next) ↔ store = next := by
  simp [applyAll]

/-- A batch is applied by applying its first consequence and then the others. -/
theorem applyAll_cons_iff (store next : Store) (consequence : Consequence)
    (rest : List Consequence) :
    applyAll store (consequence :: rest) = .ok (.store next) ↔
      ∃ middle, consequence.apply store = .ok (.store middle) ∧
        applyAll middle rest = .ok (.store next) := by
  cases first : consequence.apply store with
  | error fault => simp [applyAll, first]
  | ok applied => cases applied <;> simp [applyAll, first]

/-- A key has no conflict with a kind exactly when it has that kind or none. -/
theorem Condition.conflict?_eq_none_iff (kinds : Entries Kind) (key : String) (wanted : Kind) :
    conflict? kinds key wanted = none ↔ kinds.get? key = none ∨ kinds.get? key = some wanted := by
  unfold conflict?
  cases kinds.get? key with
  | none => simp
  | some holds => simp [Option.filter]

namespace Store

/-- A key without a kind has no value. -/
theorem Typed.noValue {store : Store} (typed : store.Typed) {key : String}
    (fresh : store.kinds.get? key = none) : store.values.get? key = none := by
  rw [Entries.get?_eq_none_iff, typed.keys]
  exact (Entries.get?_eq_none_iff _ _).mp fresh

/-- A key without a conflict holds a value of the kind, or it is new and counts as zero. -/
theorem Typed.current {store : Store} (typed : store.Typed) {consequence : Consequence}
    (free : Condition.conflict? store.kinds consequence.key consequence.kind = none) :
    (consequence.current store.values).OfKind consequence.kind ∨ consequence.kind = .flag := by
  rcases (Condition.conflict?_eq_none_iff _ _ _).mp free with fresh | bound
  · have noValue : store.values.get? consequence.key = none := by
      rw [Entries.get?_eq_none_iff, typed.keys]
      exact (Entries.get?_eq_none_iff _ _).mp fresh
    have zero : consequence.current store.values = .int 0 := by simp [Consequence.current, noValue]
    rw [zero]
    match consequence.kind with
    | .item => exact .inl ⟨0, rfl, Int.le_refl 0⟩
    | .attribute => exact .inl (.inl ⟨0, rfl⟩)
    | .flag => exact .inr rfl
  · obtain ⟨x, held, isOfKind⟩ := typed.typed _ _ bound
    have same : consequence.current store.values = x := by simp [Consequence.current, held]
    exact .inl (same ▸ isOfKind)

/-- A consequence that is applied leaves a typed store typed. -/
theorem Typed.apply {store next : Store} (typed : store.Typed) {consequence : Consequence}
    (applied : consequence.apply store = .ok (.store next)) : next.Typed := by
  obtain ⟨wellFormed, free, value, done, rfl⟩ :=
    (Consequence.apply_store_iff consequence store next).mp applied
  have isOfKind : value.OfKind consequence.kind :=
    Consequence.result_ofKind wellFormed (typed.current free) done
  refine ⟨Entries.keys_put_nodup _ _ typed.values, Entries.keys_put_nodup _ _ typed.kinds, ?_, ?_⟩
  · intro key
    rw [Entries.mem_keys_put, Entries.mem_keys_put, typed.keys]
  · intro key kind bound
    simp only [Entries.get?_put] at bound ⊢
    by_cases same : consequence.key = key
    · rw [if_pos same] at bound ⊢
      exact ⟨value, rfl, Option.some.inj bound ▸ isOfKind⟩
    · rw [if_neg same] at bound ⊢
      exact typed.typed key kind bound

/-- So does a whole batch. -/
theorem Typed.applyAll {store next : Store} (typed : store.Typed)
    {consequences : List Consequence}
    (applied : Gamebook.applyAll store consequences = .ok (.store next)) : next.Typed := by
  induction consequences generalizing store with
  | nil => exact (applyAll_nil_iff store next).mp applied ▸ typed
  | cons consequence rest inductionHypothesis =>
    obtain ⟨middle, first, others⟩ := (applyAll_cons_iff store next consequence rest).mp applied
    exact inductionHypothesis (typed.apply first) others

/-- A batch that is applied adds no keys but its own. -/
theorem mem_kinds_applyAll {store next : Store} {consequences : List Consequence}
    (applied : Gamebook.applyAll store consequences = .ok (.store next)) {key : String}
    (isKey : key ∈ next.kinds.keys) :
    key ∈ store.kinds.keys ∨ ∃ consequence ∈ consequences, consequence.key = key := by
  induction consequences generalizing store with
  | nil => exact .inl ((applyAll_nil_iff store next).mp applied ▸ isKey)
  | cons consequence rest inductionHypothesis =>
    obtain ⟨middle, first, others⟩ := (applyAll_cons_iff store next consequence rest).mp applied
    obtain ⟨_, _, value, _, rfl⟩ := (Consequence.apply_store_iff consequence store middle).mp first
    rcases inductionHypothesis others with before | ⟨later, member, named⟩
    · rcases (Entries.mem_keys_put _ _ _ _).mp before with rfl | old
      · exact .inr ⟨consequence, List.mem_cons_self, rfl⟩
      · exact .inl old
    · exact .inr ⟨later, List.mem_cons_of_mem _ member, named⟩

end Store

end Gamebook
