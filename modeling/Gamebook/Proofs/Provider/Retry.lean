import Gamebook.Proofs.Provider.Failure
import Gamebook.Provider.Retry
import Mathlib.Order.Bounds.Basic
import Mathlib.Order.Nat

/-!
# Attempts are exact

The outcomes of an operation are those of its calls one after the other, each beginning in the
state in which the one before it ended. An outcome is settled when it is a value or a failure
whose rule, or the standard category, does not ask for another attempt. An operation is called up
to the first outcome that is settled, or up to the last attempt that the policy allows, and this
outcome is the result; between the calls lie the delays of the policy, and the positive ones among
them are waited for.

All of this is said where the delays of a run can be computed. What happens where one cannot is
said beside the delays.
-/

namespace Gamebook

variable {σ α : Type}

/-! ## Outcomes -/

/-- The state after so many calls of an operation. -/
def stateAfter (operation : σ → Except Failure α × σ) (state : σ) : Nat → σ
  | 0 => state
  | calls + 1 => stateAfter operation (operation state).2 calls

/-- The outcome of a call of an operation, counted from one. -/
def outcome (operation : σ → Except Failure α × σ) (state : σ) (n : Nat) : Except Failure α :=
  (operation (stateAfter operation state (n - 1))).1

theorem stateAfter_succ (operation : σ → Except Failure α × σ) (state : σ) (calls : Nat) :
    stateAfter operation state (calls + 1) = (operation (stateAfter operation state calls)).2 := by
  induction calls generalizing state with
  | zero => rfl
  | succ calls inductionHypothesis => exact inductionHypothesis (operation state).2

/-- No other attempt is worth making after an outcome: it is a value, or a failure of a category
that is not attempted again. -/
inductive Classifier.Settles (classifier : Classifier) : Except Failure α → Prop
  | value (value : α) : Settles classifier (.ok value)
  | failure {failure : Failure} {category : FailureCategory}
    (decides : classifier.Decides failure.cls category) (final : category.isRetryable = false) :
    Settles classifier (.error failure)

/-- Attempting ends with a call, counted from one: its outcome is settled, or the policy allows no
more attempts. -/
def RetryPolicy.EndsWith (policy : RetryPolicy) (classifier : Classifier)
    (operation : σ → Except Failure α × σ) (state : σ) (n : Nat) : Prop :=
  1 ≤ n ∧ (classifier.Settles (outcome operation state n) ∨ (n : Int) = policy.maxAttempts)

/-- The delays after attempts in a row, from the given one on, and the random numbers that they
leave. -/
inductive RetryPolicy.Delays (policy : RetryPolicy) :
    List Scalar → Nat → List Scalar → List Scalar → Prop
  | done (draws : List Scalar) (attempt : Nat) : Delays policy draws attempt [] draws
  | next {draws rest final delays : List Scalar} {attempt : Nat} {delay : Scalar}
    (delayed : policy.delay draws attempt = .ok (delay, rest))
    (later : Delays policy rest (attempt + 1) delays final) :
    Delays policy draws attempt (delay :: delays) final

/-! ## One attempt -/

section Step

variable {policy : RetryPolicy} {classifier : Classifier}
  {operation : σ → Except Failure α × σ} {draws : List Scalar} {state : σ}

/-- An outcome is not settled when it is a failure that is worth another attempt. -/
theorem Classifier.not_settles_iff {outcome : Except Failure α} :
    ¬classifier.Settles outcome ↔ ∃ failure, outcome = .error failure ∧
      (classifier.classify failure.cls).isRetryable = true := by
  constructor
  · intro unsettled
    cases outcome with
    | ok value => exact absurd (.value value) unsettled
    | error failure =>
      refine ⟨failure, rfl, ?_⟩
      by_contra final
      exact unsettled (.failure (classifier.decides_classify _) (Bool.eq_false_iff.mpr final))
  · rintro ⟨failure, rfl, retryable⟩ settled
    cases settled with
    | failure decides final =>
      rw [decides.eq_classify, final] at retryable
      nomatch retryable

/-- A settled outcome ends the attempts. -/
theorem attemptFrom_settled (settled : classifier.Settles (operation state).1)
    (attempt remaining : Nat) :
    attemptFrom policy classifier operation draws attempt remaining state =
      ⟨(operation state).1, (operation state).2, 1, []⟩ := by
  unfold attemptFrom
  generalize operation state = called at settled
  obtain ⟨outcome, next⟩ := called
  cases settled with
  | value value => rfl
  | failure decides final => simp only [decides.eq_classify, final, Bool.false_eq_true, if_false]

/-- The last attempt that is allowed ends the attempts whatever its outcome is. -/
theorem attemptFrom_last (attempt : Nat) :
    attemptFrom policy classifier operation draws attempt 0 state =
      ⟨(operation state).1, (operation state).2, 1, []⟩ := by
  unfold attemptFrom
  obtain ⟨outcome, next⟩ := operation state
  cases outcome with
  | ok value => rfl
  | error failure =>
    dsimp only
    split <;> rfl

/-- After an outcome that is not settled comes a delay, and then the next attempt. -/
theorem attemptFrom_next (unsettled : ¬classifier.Settles (operation state).1)
    {attempt : Nat} {delay : Scalar} {rest : List Scalar}
    (delayed : policy.delay draws attempt = .ok (delay, rest)) (remaining : Nat) :
    attemptFrom policy classifier operation draws attempt (remaining + 1) state =
      (attemptFrom policy classifier operation rest (attempt + 1) remaining
        (operation state).2).after delay := by
  obtain ⟨failure, failed, retryable⟩ := Classifier.not_settles_iff.mp unsettled
  rw [attemptFrom]
  generalize operation state = called at failed
  obtain ⟨outcome, next⟩ := called
  obtain rfl : outcome = .error failure := failed
  simp only [retryable, if_true, delayed]

/-- A delay that cannot be computed ends the attempts with a fault of its own. -/
theorem attemptFrom_fault (unsettled : ¬classifier.Settles (operation state).1)
    {attempt : Nat} {fault : RetryFault} (faulty : policy.delay draws attempt = .error fault)
    (remaining : Nat) :
    attemptFrom policy classifier operation draws attempt (remaining + 1) state =
      ⟨.error fault.failure, (operation state).2, 1, []⟩ := by
  obtain ⟨failure, failed, retryable⟩ := Classifier.not_settles_iff.mp unsettled
  rw [attemptFrom]
  generalize operation state = called at failed
  obtain ⟨outcome, next⟩ := called
  obtain rfl : outcome = .error failure := failed
  simp only [retryable, if_true, faulty]

/-! ## Attempts in a row -/

/-- Attempts that follow some delays are as many more, and wait for the positive ones first. -/
theorem foldr_after (later : Attempts σ α) (delays : List Scalar) :
    delays.foldr Attempts.after later =
      { later with
        count := later.count + delays.length
        delays := delays.filter (Scalar.isLess (.int 0)) ++ later.delays } := by
  induction delays with
  | nil => rfl
  | cons delay delays inductionHypothesis =>
    rw [List.foldr_cons, inductionHypothesis, Attempts.after]
    cases positive : Scalar.isLess (.int 0) delay <;>
      simp [positive, Nat.add_assoc]

/-- While no outcome is settled and attempts remain, they go on after their delays. -/
theorem attemptFrom_delays {delays final : List Scalar} {attempt remaining : Nat}
    (delayed : policy.Delays draws attempt delays final)
    (unsettled : ∀ calls < delays.length,
      ¬classifier.Settles (operation (stateAfter operation state calls)).1)
    (room : delays.length ≤ remaining) :
    attemptFrom policy classifier operation draws attempt remaining state =
      delays.foldr Attempts.after
        (attemptFrom policy classifier operation final (attempt + delays.length)
          (remaining - delays.length) (stateAfter operation state delays.length)) := by
  induction delayed generalizing remaining state with
  | done => rfl
  | @next draws rest final delays attempt delay here later inductionHypothesis =>
    obtain ⟨remaining, rfl⟩ : ∃ fewer, remaining = fewer + 1 :=
      ⟨remaining - 1, (Nat.succ_pred_eq_of_pos (Nat.lt_of_lt_of_le (Nat.succ_pos _) room)).symm⟩
    have first : ¬classifier.Settles (operation state).1 := unsettled 0 (Nat.succ_pos _)
    have others := inductionHypothesis
      (fun calls fewer => unsettled (calls + 1) (Nat.succ_lt_succ fewer))
      (Nat.le_of_succ_le_succ room)
    rw [attemptFrom_next first here, others, List.foldr_cons, List.length_cons,
      Nat.add_sub_add_right, Nat.add_right_comm, Nat.add_assoc]
    rfl

end Step

/-! ## A whole run -/

section Run

variable {policy : RetryPolicy} {classifier : Classifier}
  {operation : σ → Except Failure α × σ} {draws delays final : List Scalar} {state : σ} {n : Nat}

/-- A policy that is accepted allows an attempt. -/
theorem RetryPolicy.one_le_of_check (accepted : policy.check = .ok policy) :
    1 ≤ policy.maxAttempts := by
  unfold RetryPolicy.check at accepted
  split at accepted
  next => nomatch accepted
  next allowed => exact Int.not_lt.mp allowed

/-- Some call ends the attempts, at the latest the last one that the policy allows. -/
theorem RetryPolicy.exists_end (allowed : 1 ≤ policy.maxAttempts) (classifier : Classifier)
    (operation : σ → Except Failure α × σ) (state : σ) :
    ∃ n, IsLeast {n | policy.EndsWith classifier operation state n} n := by
  classical
  have last : policy.EndsWith classifier operation state policy.maxAttempts.toNat :=
    ⟨by omega, .inr (by omega)⟩
  exact ⟨_, Nat.isLeast_find ⟨_, last⟩⟩

section Allowed

variable (allowed : 1 ≤ policy.maxAttempts)

include allowed

/-- Up to the call that ends the attempts no outcome is settled, and an attempt is left for each
delay. -/
theorem RetryPolicy.before_end
    (least : IsLeast {n | policy.EndsWith classifier operation state n} n)
    (before : delays.length < n) :
    (∀ calls < delays.length,
      ¬classifier.Settles (operation (stateAfter operation state calls)).1) ∧
      delays.length ≤ (policy.maxAttempts - 1).toNat := by
  have notBefore (m : Nat) (fewer : m < n) : ¬policy.EndsWith classifier operation state m :=
    fun ends => Nat.not_lt.mpr (least.2 ends) fewer
  constructor
  · intro calls fewer settled
    exact notBefore (calls + 1) (by omega) ⟨by omega, .inl settled⟩
  · by_contra short
    rcases least.1 with ⟨positive, settled | isLast⟩
    · exact notBefore policy.maxAttempts.toNat (by omega) ⟨by omega, .inr (by omega)⟩
    · omega

/-- Where all delays before the call that ends the attempts can be computed, its outcome is the
result. -/
theorem attempt_of_delays (least : IsLeast {n | policy.EndsWith classifier operation state n} n)
    (delayed : policy.Delays draws 1 delays final) (all : delays.length + 1 = n) :
    attempt policy classifier operation draws state =
      { result := outcome operation state n
        state := stateAfter operation state n
        count := n
        delays := delays.filter (Scalar.isLess (.int 0)) } := by
  subst all
  obtain ⟨unsettled, room⟩ := RetryPolicy.before_end allowed least (Nat.lt_succ_self delays.length)
  have ended (attempt : Nat) :
      attemptFrom policy classifier operation final attempt
          ((policy.maxAttempts - 1).toNat - delays.length)
          (stateAfter operation state delays.length) =
        ⟨outcome operation state (delays.length + 1),
          stateAfter operation state (delays.length + 1), 1, []⟩ := by
    rw [stateAfter_succ]
    rcases least.1.2 with settled | isLast
    · exact attemptFrom_settled settled _ _
    · have none : (policy.maxAttempts - 1).toNat - delays.length = 0 := by omega
      rw [none]
      exact attemptFrom_last _
  rw [attempt, attemptFrom_delays delayed unsettled room, ended, foldr_after, List.append_nil,
    Nat.add_comm 1]

/-- Where the delay after an earlier call cannot be computed, its fault is the result. -/
theorem attempt_of_fault (least : IsLeast {n | policy.EndsWith classifier operation state n} n)
    (delayed : policy.Delays draws 1 delays final) (earlier : delays.length + 1 < n)
    {fault : RetryFault} (faulty : policy.delay final (delays.length + 1 : Nat) = .error fault) :
    attempt policy classifier operation draws state =
      { result := .error fault.failure
        state := stateAfter operation state (delays.length + 1)
        count := delays.length + 1
        delays := delays.filter (Scalar.isLess (.int 0)) } := by
  obtain ⟨unsettled, room⟩ := RetryPolicy.before_end allowed least (Nat.lt_of_succ_lt earlier)
  have here : ¬classifier.Settles (operation (stateAfter operation state delays.length)).1 :=
    fun settled => Nat.not_lt.mpr (least.2 ⟨Nat.succ_pos _, .inl settled⟩) earlier
  obtain ⟨remaining, isRemaining⟩ :
      ∃ remaining, (policy.maxAttempts - 1).toNat - delays.length = remaining + 1 := by
    refine ⟨(policy.maxAttempts - 1).toNat - delays.length - 1, ?_⟩
    by_contra none
    exact Nat.not_lt.mpr (least.2 ⟨Nat.succ_pos _, .inr (by omega)⟩) earlier
  have broken := attemptFrom_fault here (Nat.add_comm 1 _ ▸ faulty) remaining
  rw [attempt, attemptFrom_delays delayed unsettled room, isRemaining, broken, foldr_after,
    List.append_nil, Nat.add_comm 1, stateAfter_succ]

end Allowed

/-- The operation is called up to the first outcome that is settled, or up to the last attempt that
the policy allows, its outcome is the result, and the positive ones among the delays between the
calls are waited for, as long as every delay can be computed. -/
theorem attempts_exact (accepted : policy.check = .ok policy) (classifier : Classifier)
    (operation : σ → Except Failure α × σ) (draws : List Scalar) (state : σ) :
    ∃ n, IsLeast {n | policy.EndsWith classifier operation state n} n ∧
      ∀ delays final, policy.Delays draws 1 delays final → delays.length + 1 = n →
        attempt policy classifier operation draws state =
          { result := outcome operation state n
            state := stateAfter operation state n
            count := n
            delays := delays.filter (Scalar.isLess (.int 0)) } := by
  have allowed := RetryPolicy.one_le_of_check accepted
  obtain ⟨n, least⟩ := RetryPolicy.exists_end allowed classifier operation state
  exact ⟨n, least, fun delays final delayed all => attempt_of_delays allowed least delayed all⟩

/-- An operation whose outcomes are written down. -/
def scripted : List (Except Failure String) → Except Failure String × List (Except Failure String)
  | [] => (.error ⟨.runtime, "no outcome is left"⟩, [])
  | outcome :: rest => (outcome, rest)

/-- A limit, a failure of a class of the provider's own, and a value. -/
def lateValue : List (Except Failure String) :=
  [.error ⟨.rateLimit, "slow down"⟩, .error ⟨.derived "Overloaded" .provider .timeout, "busy"⟩,
    .ok "a lamp", .ok "another lamp"]

theorem attempts_exact_lateValue :
    let half : Scalar := .float (Binary64.ofDecimal false 5 1 (-1))
    let whole : Scalar := .float (Binary64.ofDecimal false 1 1 0)
    RetryPolicy.check {} = .ok {} ∧ RetryPolicy.Delays {} [] 1 [half, whole] [] ∧
      attempt {} .standardRules scripted [] lateValue =
        { result := .ok "a lamp", state := [.ok "another lamp"], count := 3,
          delays := [half, whole] } := by
  intro half whole
  have accepted : RetryPolicy.check {} = .ok {} := by decide +kernel
  have first : RetryPolicy.delay {} [] 1 = .ok (half, []) := by decide +kernel
  have second : RetryPolicy.delay {} [] 2 = .ok (whole, []) := by decide +kernel
  have delayed : RetryPolicy.Delays {} [] 1 [half, whole] [] :=
    .next first (.next second (.done [] 3))
  have retried (failure : Failure)
      (retryable : (Classifier.standardRules.classify failure.cls).isRetryable = true) :
      ¬Classifier.standardRules.Settles (.error failure : Except Failure String) :=
    Classifier.not_settles_iff.mpr ⟨failure, rfl, retryable⟩
  have third : IsLeast {n | RetryPolicy.EndsWith {} .standardRules scripted lateValue n} 3 := by
    refine ⟨⟨by decide, .inl (.value "a lamp")⟩, fun n ⟨positive, ends⟩ => ?_⟩
    by_contra earlier
    rcases ends with settled | isLast
    · obtain rfl | rfl : n = 1 ∨ n = 2 := by omega
      · exact retried ⟨.rateLimit, "slow down"⟩ (by decide +kernel) settled
      · exact retried ⟨.derived "Overloaded" .provider .timeout, "busy"⟩ (by decide +kernel) settled
    · have isThird : (n : Int) = 3 := isLast
      omega
  obtain ⟨n, least, exact⟩ := attempts_exact accepted .standardRules scripted [] lateValue
  obtain rfl := least.unique third
  refine ⟨accepted, delayed, (exact _ _ delayed rfl).trans ?_⟩
  have positive : [half, whole].filter (Scalar.isLess (.int 0)) = [half, whole] := by
    decide +kernel
  rw [positive]
  rfl

end Run

end Gamebook
