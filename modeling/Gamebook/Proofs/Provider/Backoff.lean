import Gamebook.Proofs.Number.Power
import Gamebook.Proofs.Provider.Retry

/-!
# Delays that leave the floats

The delay after an attempt is bounded only after the factor has been raised to the number of the
attempts before, and a power of a float that lies beyond all floats is a fault. So a policy with a
float factor above one has a last attempt after which a delay can be computed, however small its
bound is; and when the attempts go on for longer, the fault takes the place of the failure of the
last call. Whole numbers do not overflow among themselves, but a whole number beyond all floats
meets a float sooner or later.
-/

namespace Gamebook

open Binary64 (quantity reach sliver nearestCount)

/-! ## When no delay can be computed -/

/-- A delay after an attempt is computed from numbers that leave the floats. Powers of a float
factor are taken to leave them from a limit on. -/
inductive RetryPolicy.Overflows (policy : RetryPolicy) (limit : ℚ) (attempt : Nat) : Prop
  /-- A float factor is raised to a float. -/
  | exponent {factor : Binary64} (isFactor : policy.factor = .float factor)
    (far : reach ≤ attempt - 1)
  | growth {units : Nat} {representable : Representable units}
    (isFactor : policy.factor = .float (.finite false units representable))
    (far : limit ≤ quantity units ^ nearestCount (attempt - 1))
  /-- A whole factor grows exactly, but has to be multiplied with a float. -/
  | product {factor : Int} {initial : Binary64} (isFactor : policy.factor.asNumber = .inl factor)
    (isInitial : policy.initial = .float initial) (far : reach ≤ (factor ^ (attempt - 1)).natAbs)
  | initial {factor : Binary64} (isFactor : policy.factor = .float factor)
    (far : policy.initial.IsFar)
  /-- A delay is varied by a float. -/
  | variation {delay : Scalar} (plain : policy.plainDelay attempt = .ok delay)
    (varied : policy.varies delay = true) (far : delay.IsFar ∨ policy.jitter.IsFar)

/-! ## Powers of scalars -/

namespace Scalar

theorem power_of_converted (x : Binary64) {n count : Nat} {exponent : Binary64}
    (converted : Binary64.ofInt n = .ok exponent)
    (truncated : exponent.truncate = .ok (count : Int)) :
    (float x).power n = (x.power count).map float := by
  rw [power, converted]
  simp only [asNumber, truncated, Int.toNat_natCast]

/-- A float is raised to the float nearest to a count. -/
theorem power_float (x : Binary64) (n : Nat) :
    (float x).power n =
      if reach ≤ n then .error .beyondFloat else (x.power (nearestCount n)).map float := by
  by_cases far : reach ≤ n
  · have refused : Binary64.ofInt n = .error .beyondFloat :=
      (Binary64.ofInt_error_iff n _).mpr ⟨rfl, by rwa [Int.natAbs_natCast]⟩
    rw [if_pos far, power, refused]
    rfl
  · obtain ⟨exponent, converted, truncated⟩ := Binary64.ofInt_count (not_le.mp far)
    rw [if_neg far]
    exact power_of_converted x converted truncated

theorem power_whole {x : Scalar} {m : Int} (whole : x.asNumber = .inl m) (n : Nat) :
    x.power n = .ok (int (m ^ n)) := by
  simp only [power, whole]
  by_cases unit : m = 1
  · rw [if_pos unit, unit, one_pow]
  · rw [if_neg unit]
    rfl

end Scalar

namespace RetryPolicy

variable {policy : RetryPolicy} {draws : List Scalar} {attempt : Nat}

/-! ## Single delays -/

/-- Varying a delay by a float fails when the delay or the jitter has no nearest float. -/
theorem vary_error_iff (policy : RetryPolicy) (delay : Scalar) (draw : Binary64)
    (fault : NumberFault) :
    policy.vary delay (.float draw) = .error fault ↔
      fault = .beyondFloat ∧ (delay.IsFar ∨ policy.jitter.IsFar) := by
  have small {n : Int} (few : n.natAbs ≤ 2) : ¬(Scalar.int n).IsFar :=
    Scalar.not_isFar_int (few.trans_lt (Nat.lt_trans (by decide) Binary64.reach_sizes.2.2.2.2))
  obtain ⟨doubled, isDoubled⟩ :
      ∃ z, (Scalar.float draw).mul (.int 2) = .ok (.float z) :=
    Scalar.combine_float_ok _ _ draw (small (by decide))
  obtain ⟨share, isShare⟩ : ∃ z, (Scalar.float doubled).sub (.int 1) = .ok (.float z) :=
    Scalar.combine_float_ok _ _ doubled (small (by decide))
  have begins : policy.vary delay (.float draw) = (do
      let scaled ← (Scalar.float share).mul delay
      let shift ← scaled.mul policy.jitter
      let moved ← delay.add shift
      .ok (if Scalar.isLess (.float Binary64.zeroNumber) moved then moved
        else .float Binary64.zeroNumber)) := by
    rw [vary, isDoubled, Except.ok_bind, isShare, Except.ok_bind]
  rw [begins]
  by_cases farDelay : delay.IsFar
  · have refused : (Scalar.float share).mul delay = .error .beyondFloat :=
      Scalar.combine_float_far _ _ share farDelay
    rw [refused, Except.error_bind]
    exact ⟨fun same => ⟨(Except.error.inj same).symm, .inl farDelay⟩,
      fun failed => congrArg Except.error failed.1.symm⟩
  · obtain ⟨scaled, isScaled⟩ : ∃ z, (Scalar.float share).mul delay = .ok (.float z) :=
      Scalar.combine_float_ok _ _ share farDelay
    rw [isScaled, Except.ok_bind]
    by_cases farJitter : policy.jitter.IsFar
    · have refused : (Scalar.float scaled).mul policy.jitter = .error .beyondFloat :=
        Scalar.combine_float_far _ _ scaled farJitter
      rw [refused, Except.error_bind]
      exact ⟨fun same => ⟨(Except.error.inj same).symm, .inr farJitter⟩,
        fun failed => congrArg Except.error failed.1.symm⟩
    · obtain ⟨shift, isShift⟩ : ∃ z, (Scalar.float scaled).mul policy.jitter = .ok (.float z) :=
        Scalar.combine_float_ok _ _ scaled farJitter
      obtain ⟨moved, isMoved⟩ : ∃ z, delay.add (.float shift) = .ok (.float z) :=
        Scalar.combine_ok_float _ _ farDelay shift
      rw [isShift, Except.ok_bind, isMoved, Except.ok_bind]
      exact iff_of_false nofun fun failed => failed.2.elim farDelay farJitter

/-- The random numbers are floats. -/
def FloatDraws (draws : List Scalar) : Prop := ∀ draw ∈ draws, ∃ x, draw = .float x

theorem nextDraw_float (drawn : FloatDraws draws) :
    ∃ x rest, nextDraw draws = (.float x, rest) ∧ FloatDraws rest := by
  cases draws with
  | nil => exact ⟨Binary64.ofDecimal false 5 1 (-1), [], by rw [nextDraw],
      fun _ among => absurd among List.not_mem_nil⟩
  | cons draw rest =>
    obtain ⟨x, rfl⟩ := drawn draw (List.mem_cons_self ..)
    exact ⟨x, rest, rfl, fun later among => drawn later (List.mem_cons_of_mem _ among)⟩

/-- Before it is varied, a delay fails with the power or with the product. -/
theorem plainDelay_error_iff (fault : NumberFault) :
    policy.plainDelay attempt = .error fault ↔
      policy.factor.power (attempt - 1) = .error fault ∨
        ∃ growth, policy.factor.power (attempt - 1) = .ok growth ∧
          fault = .beyondFloat ∧ policy.initial.Clash growth := by
  rw [plainDelay]
  cases policy.factor.power (attempt - 1) with
  | error cause => simp
  | ok growth => simp [Except.map_error_iff, Scalar.mul, Scalar.combine_error_iff]

/-- From the first attempt on, what fails is the computation of a number. -/
theorem delay_eq (positive : 1 ≤ attempt) (draws : List Scalar) :
    policy.delay draws attempt =
      (policy.plainDelay attempt >>= fun delay =>
        if policy.varies delay then
          (policy.vary delay (nextDraw draws).1).map fun moved => (moved, (nextDraw draws).2)
        else .ok (delay, draws)).mapError .number := by
  have counted : ¬(attempt : Int) < 1 := by omega
  rw [delay, if_neg counted, Int.toNat_natCast]
  cases policy.plainDelay attempt with
  | error cause => rfl
  | ok delay =>
    rw [Except.ok_bind]
    dsimp only
    split
    · cases policy.vary delay (nextDraw draws).1 <;> rfl
    · rfl

/-- A delay fails before it is varied, or when it is varied. -/
theorem delay_error_iff (positive : 1 ≤ attempt) (drawn : FloatDraws draws) (fault : RetryFault) :
    policy.delay draws attempt = .error fault ↔
      ∃ cause, fault = .number cause ∧ (policy.plainDelay attempt = .error cause ∨
        cause = .beyondFloat ∧ ∃ delay, policy.plainDelay attempt = .ok delay ∧
          policy.varies delay = true ∧ (delay.IsFar ∨ policy.jitter.IsFar)) := by
  obtain ⟨draw, rest, isNext, -⟩ := nextDraw_float drawn
  have varying (delay : Scalar) (cause : NumberFault) :
      (if policy.varies delay then
          (policy.vary delay (nextDraw draws).1).map fun moved => (moved, (nextDraw draws).2)
        else .ok (delay, draws)) = .error cause ↔
      cause = .beyondFloat ∧ policy.varies delay = true ∧
        (delay.IsFar ∨ policy.jitter.IsFar) := by
    by_cases varied : policy.varies delay = true
    · simp [varied, isNext, Except.map_error_iff, vary_error_iff]
    · simp [varied]
  simp only [delay_eq positive, Except.mapError_error_iff, Except.bind_error_iff, varying]
  grind

/-- The random numbers that are left are floats again. -/
theorem floatDraws_of_delay (drawn : FloatDraws draws) {delay : Scalar} {rest : List Scalar}
    (delayed : policy.delay draws attempt = .ok (delay, rest)) : FloatDraws rest := by
  obtain ⟨draw, fewer, isNext, left⟩ := nextDraw_float drawn
  have positive : 1 ≤ attempt := by
    by_contra none
    rw [RetryPolicy.delay, if_pos (by omega)] at delayed
    nomatch delayed
  rw [delay_eq positive, Except.mapError_ok_iff, Except.bind_ok_iff] at delayed
  obtain ⟨plain, -, delayed⟩ := delayed
  split at delayed
  · obtain ⟨moved, -, same⟩ := Except.map_ok_iff.mp delayed
    rw [isNext] at same
    exact (Prod.mk.inj same).2 ▸ left
  · exact (Prod.mk.inj (Except.ok.inj delayed)).2 ▸ drawn

/-- Only a finite number has a power that is a fault. -/
theorem finite_of_power_error {x : Binary64} {n : Nat} {fault : NumberFault}
    (refused : x.power n = .error fault) : fault = .powerRange ∧
      ∃ negative units representable, x = .finite negative units representable := by
  unfold Binary64.power at refused
  split at refused
  next => cases refused
  next =>
    split at refused
    next => cases refused
    next => cases refused
    next negative units representable =>
      refine ⟨?_, negative, units, representable, rfl⟩
      split at refused
      next => cases refused
      next => exact (Except.error.inj refused).symm

theorem not_isLess_one_of_check (accepted : policy.check = .ok policy) :
    policy.factor.isLess (.int 1) = false := by
  unfold check at accepted
  dsimp only at accepted
  split at accepted
  next => nomatch accepted
  next =>
    split at accepted
    next => nomatch accepted
    next =>
      split at accepted
      next => nomatch accepted
      next notLess => exact Bool.eq_false_iff.mpr notLess

/-- A finite factor of a policy that is accepted is at least one. -/
theorem factor_of_check (accepted : policy.check = .ok policy) {negative : Bool} {units : Nat}
    {representable : Representable units}
    (isFactor : policy.factor = .float (.finite negative units representable)) :
    negative = false ∧ Binary64.one ≤ units := by
  have notLess := not_isLess_one_of_check accepted
  have unit : (1 : Int) * Binary64.one = Binary64.one := Int.one_mul _
  rw [isFactor] at notLess
  simp only [Scalar.isLess, Scalar.order?, Binary64.orderInt?, unit, Option.map_some] at notLess
  have least : (Binary64.one : Int) ≤ Binary64.signed negative units := by
    by_contra less
    rw [compare_gt_iff_gt.mpr (not_le.mp less)] at notLess
    cases notLess
  cases negative with
  | false =>
    rw [Binary64.signed, if_neg Bool.false_ne_true] at least
    exact ⟨rfl, Int.ofNat_le.mp least⟩
  | true =>
    have positive := Decimal.one_pos
    rw [Binary64.signed, if_pos rfl] at least
    generalize Binary64.one = one at *
    omega

/-- A float factor grows to a float. -/
theorem growth_float {x : Binary64} {n : Nat} {growth : Scalar}
    (grown : (Scalar.float x).power n = .ok growth) : ∃ y, growth = .float y := by
  rw [Scalar.power_float] at grown
  by_cases far : reach ≤ n
  · rw [if_pos far] at grown
    nomatch grown
  · rw [if_neg far] at grown
    cases computed : x.power (nearestCount n) with
    | error fault =>
      rw [computed] at grown
      nomatch grown
    | ok y =>
      rw [computed] at grown
      exact ⟨y, (Except.ok.inj grown).symm⟩

/-- A product that fails has a float on one side and a number beyond all floats on the other. -/
theorem overflows_of_clash (limit : ℚ) {growth : Scalar}
    (grown : policy.factor.power (attempt - 1) = .ok growth) (clash : policy.initial.Clash growth) :
    policy.Overflows limit attempt := by
  cases isNumber : policy.factor.asNumber with
  | inl m =>
    rw [Scalar.power_whole isNumber] at grown
    obtain rfl := Except.ok.inj grown
    rcases Scalar.clash_iff.mp clash with ⟨⟨x, isInitial⟩, n, same, far⟩ | ⟨-, y, same⟩
    · obtain rfl := Scalar.int.inj same
      exact .product isNumber isInitial far
    · nomatch same
  | inr x =>
    have isFactor := Scalar.eq_float_of_asNumber isNumber
    rw [isFactor] at grown
    obtain ⟨y, rfl⟩ := growth_float grown
    rcases Scalar.clash_iff.mp clash with ⟨-, far⟩ | ⟨far, -⟩
    · exact absurd far (Scalar.not_isFar_float y)
    · exact .initial isFactor far

section Overflows

variable (accepted : policy.check = .ok policy)

include accepted

/-- A power of the factor that is a fault leaves the floats. -/
theorem overflows_of_power {fault : NumberFault}
    (refused : policy.factor.power (attempt - 1) = .error fault) :
    fault.failureClass = .overflow ∧ policy.Overflows ((1 - sliver) * reach) attempt := by
  cases isFactor : policy.factor with
  | bool b =>
    rw [isFactor, Scalar.power_whole rfl] at refused
    nomatch refused
  | int m =>
    rw [isFactor, Scalar.power_whole rfl] at refused
    nomatch refused
  | float x =>
    rw [isFactor, Scalar.power_float] at refused
    by_cases far : reach ≤ attempt - 1
    · rw [if_pos far] at refused
      obtain rfl := Except.error.inj refused
      exact ⟨rfl, .exponent isFactor far⟩
    · rw [if_neg far, Except.map_error_iff] at refused
      obtain ⟨rfl, negative, units, representable, rfl⟩ := finite_of_power_error refused
      obtain ⟨rfl, least⟩ := factor_of_check accepted isFactor
      refine ⟨rfl, .growth isFactor (not_lt.mp fun short => ?_)⟩
      obtain ⟨result, computed⟩ := Binary64.power_ok representable least short
      rw [computed] at refused
      nomatch refused

/-- A delay that fails leaves the floats. -/
theorem overflows_of_error (positive : 1 ≤ attempt) (drawn : FloatDraws draws) {fault : RetryFault}
    (failed : policy.delay draws attempt = .error fault) :
    fault.failure.cls = .overflow ∧ policy.Overflows ((1 - sliver) * reach) attempt := by
  obtain ⟨cause, rfl, inPlain | ⟨rfl, delay, plain, varied, far⟩⟩ :=
    (delay_error_iff positive drawn fault).mp failed
  · rcases (plainDelay_error_iff cause).mp inPlain with refused | ⟨growth, grown, rfl, clash⟩
    · exact overflows_of_power accepted refused
    · exact ⟨rfl, overflows_of_clash _ grown clash⟩
  · exact ⟨rfl, .variation plain varied far⟩

/-- A delay that leaves the floats fails. -/
theorem error_of_overflows (positive : 1 ≤ attempt) (drawn : FloatDraws draws)
    (overflows : policy.Overflows ((1 + sliver) * reach) attempt) :
    ∃ fault, policy.delay draws attempt = .error fault := by
  have ofPlain (cause : NumberFault) (failed : policy.plainDelay attempt = .error cause) :
      ∃ fault, policy.delay draws attempt = .error fault :=
    ⟨_, (delay_error_iff positive drawn _).mpr ⟨cause, rfl, .inl failed⟩⟩
  have ofPower (cause : NumberFault) (failed : policy.factor.power (attempt - 1) = .error cause) :=
    ofPlain cause ((plainDelay_error_iff cause).mpr (.inl failed))
  cases overflows with
  | exponent isFactor far =>
    refine ofPower .beyondFloat ?_
    rw [isFactor, Scalar.power_float, if_pos far]
  | @growth units representable isFactor far =>
    obtain ⟨-, least⟩ := factor_of_check accepted isFactor
    by_cases farther : reach ≤ attempt - 1
    · refine ofPower .beyondFloat ?_
      rw [isFactor, Scalar.power_float, if_pos farther]
    · refine ofPower .powerRange ?_
      rw [isFactor, Scalar.power_float, if_neg farther, Except.map_error_iff]
      exact Binary64.power_refused representable least far
  | @product m x isFactor isInitial far =>
    have grown := Scalar.power_whole isFactor (attempt - 1)
    refine ofPlain _ ((plainDelay_error_iff .beyondFloat).mpr (.inr ⟨_, grown, rfl, ?_⟩))
    exact Scalar.clash_iff.mpr (.inl ⟨⟨x, isInitial⟩, _, rfl, far⟩)
  | @initial x isFactor far =>
    cases grown : policy.factor.power (attempt - 1) with
    | error cause => exact ofPower cause grown
    | ok growth =>
      obtain ⟨y, rfl⟩ := growth_float (isFactor ▸ grown)
      refine ofPlain _ ((plainDelay_error_iff .beyondFloat).mpr (.inr ⟨_, grown, rfl, ?_⟩))
      exact Scalar.clash_iff.mpr (.inr ⟨far, y, rfl⟩)
  | variation plain varied far =>
    exact ⟨_, (delay_error_iff positive drawn _).mpr
      ⟨.beyondFloat, rfl, .inr ⟨rfl, _, plain, varied, far⟩⟩⟩

end Overflows

/-! ## Delays in a row -/

theorem Delays.floatDraws {delays final : List Scalar}
    (delayed : policy.Delays draws attempt delays final) (drawn : FloatDraws draws) :
    FloatDraws final := by
  induction delayed with
  | done => exact drawn
  | next here later inductionHypothesis =>
    exact inductionHypothesis (floatDraws_of_delay drawn here)

/-- Each of the delays in a row has been computed. -/
theorem Delays.computed {delays final : List Scalar}
    (delayed : policy.Delays draws attempt delays final) (drawn : FloatDraws draws) {k : Nat}
    (notBefore : attempt ≤ k) (within : k < attempt + delays.length) :
    ∃ earlier result, FloatDraws earlier ∧ policy.delay earlier k = .ok result := by
  induction delayed with
  | done => exact absurd within (Nat.not_lt.mpr notBefore)
  | @next draws rest final delays attempt delay here later inductionHypothesis =>
    rcases Nat.eq_or_lt_of_le notBefore with rfl | after
    · exact ⟨draws, _, drawn, here⟩
    · rw [List.length_cons] at within
      exact inductionHypothesis (floatDraws_of_delay drawn here) after (by omega)

/-- So many delays in a row are computed, or one of them fails. -/
theorem exists_delays (policy : RetryPolicy) (draws : List Scalar) (attempt count : Nat) :
    (∃ delays final, policy.Delays draws attempt delays final ∧ delays.length = count) ∨
      ∃ delays final fault, policy.Delays draws attempt delays final ∧ delays.length < count ∧
        policy.delay final (attempt + delays.length : Nat) = .error fault := by
  induction count generalizing draws attempt with
  | zero => exact .inl ⟨[], draws, .done draws attempt, rfl⟩
  | succ count inductionHypothesis =>
    cases here : policy.delay draws attempt with
    | error fault => exact .inr ⟨[], draws, fault, .done draws attempt, Nat.succ_pos count, here⟩
    | ok result =>
      obtain ⟨delay, rest⟩ := result
      rcases inductionHypothesis rest (attempt + 1) with
        ⟨delays, final, later, all⟩ | ⟨delays, final, fault, later, fewer, failed⟩
      · exact .inl ⟨delay :: delays, final, .next here later, congrArg (· + 1) all⟩
      · refine .inr ⟨delay :: delays, final, fault, .next here later, Nat.succ_lt_succ fewer, ?_⟩
        rwa [List.length_cons, Nat.add_comm delays.length, ← Nat.add_assoc]

/-- The delay after an attempt does not come near the end of the floats. -/
def IsSafe (policy : RetryPolicy) (attempt : Nat) : Prop :=
  ¬policy.Overflows ((1 - sliver) * reach) attempt

/-- The delay after an attempt is beyond the end of the floats. -/
def IsLost (policy : RetryPolicy) (attempt : Nat) : Prop :=
  policy.Overflows ((1 + sliver) * reach) attempt

/-! ## How long delays last -/

/-- A float factor above one has a last attempt that is followed by a delay. -/
theorem eventually_isLost (policy : RetryPolicy) {units : Nat}
    {representable : Representable units}
    (isFactor : policy.factor = .float (.finite false units representable))
    (more : Binary64.one < units) : ∃ last, ∀ attempt, last < attempt → policy.IsLost attempt := by
  refine ⟨2 * (2 ^ 52 * 1024) + 1, fun attempt after => .growth isFactor ?_⟩
  have half := Binary64.half_le_nearestCount (attempt - 1)
  have many : 2 ^ 52 * 1024 ≤ nearestCount (attempt - 1) := by omega
  exact Binary64.far_of_two_pow_le
    (Binary64.two_pow_le 52 (Binary64.above_one representable more) many)

theorem standard_factor : ∃ representable, (RetryPolicy.factor {}) =
    .float (.finite false (2 * Binary64.one) representable) :=
  ⟨by decide +kernel, by decide +kernel⟩

/-- The standard policy passes its own check, and its jitter is nothing. -/
theorem standard_check : check {} = .ok {} ∧
    (Scalar.float Binary64.zeroNumber).isEqual (.int 0) = true := by
  decide +kernel

theorem standard_isLost {attempt : Nat} (after : 1025 ≤ attempt) : IsLost {} attempt := by
  obtain ⟨representable, isFactor⟩ := standard_factor
  have count : 1024 ≤ nearestCount (attempt - 1) := by
    by_cases small : attempt - 1 < 2 ^ 53
    · rw [Binary64.nearestCount_of_small small]
      omega
    · have half := Binary64.half_le_nearestCount (attempt - 1)
      omega
  refine .growth isFactor (Binary64.far_of_two_pow_le ?_)
  rw [Binary64.quantity_mul_one]
  exact pow_le_pow_right₀ (by norm_num) count

theorem standard_isSafe {attempt : Nat} (before : attempt ≤ 1024) : IsSafe {} attempt := by
  obtain ⟨representable, isTwo⟩ := standard_factor
  obtain ⟨-, -, -, -, near⟩ := Binary64.reach_sizes
  rintro (⟨-, far⟩ | ⟨isFactor, far⟩ | ⟨isFactor, -, -⟩ | ⟨-, far⟩ | ⟨-, varied, -⟩)
  · omega
  · rw [isTwo] at isFactor
    obtain ⟨-, rfl⟩ := Binary64.finite.inj (Scalar.float.inj isFactor)
    rw [Binary64.nearestCount_of_small (by omega), Binary64.quantity_mul_one] at far
    have small : ((2 : Nat) : ℚ) ^ (attempt - 1) ≤ 2 ^ 1023 :=
      pow_le_pow_right₀ (by norm_num) (by omega)
    exact absurd far (not_le.mpr (Binary64.short_of_le_two_pow small))
  · rw [isTwo] at isFactor
    nomatch isFactor
  · exact absurd far (Scalar.not_isFar_float _)
  · have steady : RetryPolicy.jitter {} = .float Binary64.zeroNumber := rfl
    rw [varies, steady, standard_check.2, Bool.or_true, Bool.not_true, Bool.false_and] at varied
    nomatch varied

/-- The standard delays double, so they are computed up to the attempt before which the last power
of two has been reached. -/
theorem standard_delay_iff (drawn : FloatDraws draws) (positive : 1 ≤ attempt) :
    (∃ result, delay {} draws attempt = .ok result) ↔ attempt ≤ 1024 := by
  have accepted := standard_check.1
  constructor
  · rintro ⟨result, computed⟩
    by_contra after
    obtain ⟨fault, failed⟩ :=
      error_of_overflows accepted positive drawn (standard_isLost (not_le.mp after))
    rw [computed] at failed
    nomatch failed
  · intro before
    cases computed : delay {} draws attempt with
    | ok result => exact ⟨result, rfl⟩
    | error fault =>
      exact absurd (overflows_of_error accepted positive drawn computed).2 (standard_isSafe before)

end RetryPolicy

/-- A delay is computed where it is safe, and it fails with an overflow where it is lost. The
attempts have the outcome of the call that ends them where all delays before it are safe; a delay
before it that is lost puts an end to them, and the overflow takes the place of an outcome. -/
theorem backoff_overflows {policy : RetryPolicy} (accepted : policy.check = .ok policy)
    {draws : List Scalar} (drawn : RetryPolicy.FloatDraws draws) :
    (∀ k : Nat, 1 ≤ k →
      (policy.IsSafe k → ∃ result, policy.delay draws k = .ok result) ∧
        (policy.IsLost k → ∃ fault, policy.delay draws k = .error fault ∧
          fault.failure.cls = .overflow)) ∧
      ∀ {σ α : Type} (classifier : Classifier) (operation : σ → Except Failure α × σ) (state : σ),
        ∃ n, IsLeast {n | policy.EndsWith classifier operation state n} n ∧
          ((∀ k, 1 ≤ k → k < n → policy.IsSafe k) →
            (attempt policy classifier operation draws state).result = outcome operation state n) ∧
          ∀ k, 1 ≤ k → k < n → policy.IsLost k →
            (attempt policy classifier operation draws state).count ≤ k ∧
              ∃ failure, (attempt policy classifier operation draws state).result =
                .error failure ∧ failure.cls = .overflow := by
  have allowed := RetryPolicy.one_le_of_check accepted
  have fails {earlier : List Scalar} {k : Nat} (positive : 1 ≤ k)
      (drawn : RetryPolicy.FloatDraws earlier) (lost : policy.IsLost k) :=
    RetryPolicy.error_of_overflows accepted positive drawn lost
  refine ⟨fun k positive => ⟨fun safe => ?_, fun lost => ?_⟩, fun classifier operation state => ?_⟩
  · cases delayed : policy.delay draws k with
    | ok result => exact ⟨result, rfl⟩
    | error fault =>
      exact absurd (RetryPolicy.overflows_of_error accepted positive drawn delayed).2 safe
  · obtain ⟨fault, failed⟩ := fails positive drawn lost
    exact ⟨fault, failed, (RetryPolicy.overflows_of_error accepted positive drawn failed).1⟩
  · obtain ⟨n, least⟩ := RetryPolicy.exists_end allowed classifier operation state
    have one : 1 ≤ n := least.1.1
    refine ⟨n, least, ?_⟩
    rcases RetryPolicy.exists_delays policy draws 1 (n - 1) with
      ⟨delays, final, delayed, all⟩ | ⟨delays, final, fault, delayed, fewer, failed⟩
    · refine ⟨fun _ => ?_, fun k positive before lost => ?_⟩
      · rw [attempt_of_delays allowed least delayed (by omega)]
      · obtain ⟨earlier, result, drawn, computed⟩ := delayed.computed drawn positive (by omega)
        obtain ⟨fault, failed⟩ := fails positive drawn lost
        rw [computed] at failed
        nomatch failed
    · rw [Nat.add_comm 1] at failed
      obtain ⟨overflow, overflows⟩ := RetryPolicy.overflows_of_error accepted (Nat.succ_pos _)
        (delayed.floatDraws drawn) failed
      rw [attempt_of_fault allowed least delayed (by omega) failed]
      refine ⟨fun safe => ?_, fun k positive before lost => ⟨?_, _, rfl, overflow⟩⟩
      · exact absurd overflows (safe (delays.length + 1) (Nat.succ_pos _) (by omega))
      · by_contra notReached
        have passed : k < delays.length + 1 := not_le.mp notReached
        obtain ⟨earlier, result, drawn, computed⟩ := delayed.computed drawn positive (by omega)
        obtain ⟨fault, failed⟩ := fails positive drawn lost
        rw [computed] at failed
        nomatch failed

/-- The standard policy has a delay after attempt 1024 and none after the next one. -/
theorem backoff_overflows_standard :
    RetryPolicy.check {} = .ok {} ∧ RetryPolicy.FloatDraws [] ∧
      (∃ result, RetryPolicy.delay {} [] 1024 = .ok result) ∧
        ∃ fault, RetryPolicy.delay {} [] 1025 = .error fault ∧ fault.failure.cls = .overflow := by
  have accepted := RetryPolicy.standard_check.1
  have drawn : RetryPolicy.FloatDraws [] := fun _ among => absurd among List.not_mem_nil
  have single := (backoff_overflows accepted drawn).1
  exact ⟨accepted, drawn, (single 1024 (by decide)).1 (RetryPolicy.standard_isSafe (le_refl 1024)),
    (single 1025 (by decide)).2 (RetryPolicy.standard_isLost (le_refl 1025))⟩

/-- The bound does not help: the standard policy, whose delays stop growing at thirty, fails after
attempt 1025; and four attempts that all time out end in an overflow where the factor is large. -/
theorem bounded_backoff_fails :
    let steep : RetryPolicy :=
      { maxAttempts := 4, factor := .float (Binary64.ofDecimal false 1 1 200) }
    let slow : Except Failure String := .error ⟨.timeout, "slow"⟩
    RetryPolicy.check {} = .ok {} ∧
      RetryPolicy.delay {} [] 1024 = .ok (.float (Binary64.ofDecimal false 30 2 0), []) ∧
      RetryPolicy.delay {} [] 1025 = .error (.number .powerRange) ∧
      steep.check = .ok steep ∧
      (attempt steep .standardRules scripted [] [slow, slow, slow, slow]).result =
        .error ⟨.overflow, NumberFault.message .powerRange⟩ := by
  decide +kernel

end Gamebook
