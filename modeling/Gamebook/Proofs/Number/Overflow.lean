import Gamebook.Number.Scalar
import Gamebook.Proofs.Fallible
import Gamebook.Proofs.Number.Rounding

/-!
# Where whole numbers leave the floats

A whole number has a nearest float as long as it lies below the middle between the greatest
finite magnitude and the next power of two. The middle itself is a tie, which goes to the even
neighbour, and that is the one beyond all floats.
-/

namespace Gamebook

/-! ## Rounding and bounds -/

/-- A quotient rounds below an even bound exactly when it lies more than half below it. -/
theorem roundQuotient_lt_iff {numerator denominator bound : Nat} (positive : 0 < denominator)
    (even : bound % 2 = 0) :
    roundQuotient numerator denominator < bound ↔
      2 * numerator + denominator < 2 * bound * denominator := by
  have split := Nat.div_add_mod numerator denominator
  have small := Nat.mod_lt numerator positive
  unfold roundQuotient
  generalize numerator / denominator = quotient at split ⊢
  generalize numerator % denominator = remainder at split small ⊢
  subst split
  dsimp only
  rcases Nat.lt_trichotomy (quotient + 1) bound with less | rfl | more
  · have room := Nat.mul_le_mul_right denominator less
    exact iff_of_true (by split <;> omega) (by nlinarith)
  · have odd : (quotient % 2 == 0) = false := by
      rw [beq_eq_false_iff_ne]
      omega
    simp only [odd, Bool.and_false, Bool.or_false, decide_eq_true_eq]
    split
    next lower => exact iff_of_true (Nat.lt_succ_self quotient) (by nlinarith)
    next upper => exact iff_of_false (Nat.lt_irrefl _) (by nlinarith)
  · have room := Nat.mul_le_mul_right denominator (Nat.lt_succ_iff.mp more)
    exact iff_of_false (by split <;> omega) (by nlinarith)

theorem roundQuotient_le {numerator denominator bound : Nat} (positive : 0 < denominator)
    (atMost : numerator ≤ bound * denominator) : roundQuotient numerator denominator ≤ bound := by
  have quotient : numerator / denominator ≤ bound := Nat.div_le_of_le_mul (by linarith)
  rcases Nat.lt_or_eq_of_le quotient with less | same
  · unfold roundQuotient
    dsimp only
    split <;> omega
  · have none : numerator % denominator = 0 := by
      have split := Nat.div_add_mod numerator denominator
      rw [same] at split
      linarith [Nat.zero_le (numerator % denominator)]
    simp [roundQuotient, none, positive, same]

theorem le_roundQuotient {numerator denominator bound : Nat} (positive : 0 < denominator)
    (atLeast : bound * denominator ≤ numerator) :
    bound ≤ roundQuotient numerator denominator := by
  have quotient : bound ≤ numerator / denominator := (Nat.le_div_iff_mul_le positive).mpr atLeast
  unfold roundQuotient
  dsimp only
  split <;> omega

/-! ## Rounding whole units -/

theorem roundUnits_one (units : Nat) :
    roundUnits units 1 = roundQuotient units (step units) * step units := by
  simp only [roundUnits, Nat.div_one, Nat.one_mul, step]
  rfl

/-- Units with at most 53 bits are not rounded. -/
theorem roundUnits_of_small {units : Nat} (small : units < 2 ^ 53) :
    roundUnits units 1 = units := by
  rw [roundUnits_one, step_of_small small, Nat.mul_one]
  simp [roundQuotient, Nat.mod_one]

/-- Rounded units have 53 bits again. -/
theorem step_dvd_roundUnits (units : Nat) :
    step (roundUnits units 1) ∣ roundUnits units 1 := by
  rcases Nat.lt_or_ge units (2 ^ 53) with small | large
  · rw [roundUnits_of_small small, step_of_small small]
    exact Nat.one_dvd units
  · obtain ⟨least, below⟩ := units_bounds large
    have low := le_roundQuotient (step_pos units) least
    have high := roundQuotient_le (step_pos units) (Nat.le_of_lt below)
    rw [roundUnits_one]
    generalize roundQuotient units (step units) = mantissa at low high
    rcases Nat.lt_or_eq_of_le high with fits | rfl
    · have same : step (mantissa * step units) = step units :=
        congrArg (2 ^ ·) (spareBits_of_large (Nat.mul_le_mul_right _ low)
          (Nat.mul_lt_mul_of_pos_right fits (step_pos units)))
      rw [same]
      exact Nat.dvd_mul_left _ _
    · -- Rounding up has made one bit more, so the step is twice as wide.
      have wider : 2 ^ 53 * step units = 2 ^ 52 * 2 ^ (spareBits units + 1) := by
        rw [step, Nat.pow_succ 2 (spareBits units)]
        ring
      have twice : step (2 ^ 53 * step units) = 2 ^ (spareBits units + 1) := by
        rw [wider]
        exact congrArg (2 ^ ·) (spareBits_of_large (Nat.le_refl _)
          (Nat.mul_lt_mul_of_pos_right (by decide) (Nat.two_pow_pos _)))
      rw [twice, wider]
      exact Nat.dvd_mul_left _ _

/-- Units are rounded below a power of two exactly when they lie more than half a step below it. -/
theorem roundUnits_lt_iff (units spare : Nat) :
    roundUnits units 1 < 2 ^ 53 * 2 ^ spare ↔
      2 * units + 2 ^ spare < 2 * 2 ^ 53 * 2 ^ spare := by
  have positive : 0 < 2 ^ spare := Nat.two_pow_pos spare
  rcases Nat.lt_or_ge units (2 ^ 53) with small | large
  · rw [roundUnits_of_small small]
    exact iff_of_true (by nlinarith) (by nlinarith)
  · obtain ⟨least, below⟩ := units_bounds large
    have low := le_roundQuotient (step_pos units) least
    have high := roundQuotient_le (step_pos units) (Nat.le_of_lt below)
    rw [roundUnits_one]
    rcases Nat.lt_trichotomy (spareBits units) spare with fine | same | coarse
    · have narrow : 2 * step units ≤ 2 ^ spare := by
        rw [Nat.mul_comm, step, ← Nat.pow_succ]
        exact Nat.pow_le_pow_right (by decide) fine
      have atMost := Nat.mul_le_mul_right (step units) high
      exact iff_of_true (by omega) (by omega)
    · have width : step units = 2 ^ spare := congrArg (2 ^ ·) same
      rw [width, Nat.mul_lt_mul_right positive]
      exact roundQuotient_lt_iff positive (by decide)
    · have wide : 2 * 2 ^ spare ≤ step units := by
        rw [Nat.mul_comm, step, ← Nat.pow_succ]
        exact Nat.pow_le_pow_right (by decide) coarse
      have atLeast := Nat.mul_le_mul_right (step units) low
      exact iff_of_false (by omega) (by omega)

namespace Binary64

/-- The least size of whole numbers that are beyond all floats. -/
def reach : Nat := Nat.pow 2 1024 - Nat.pow 2 970

/-- The greatest magnitude and the reach, in units, as the powers of two they are made of. -/
theorem reach_sizes : Nat.pow 2 2098 = 2 ^ 53 * 2 ^ 2045 ∧ 2 ^ 2045 = 2 * 2 ^ 2044 ∧
    reach * one = 2 * 2 ^ 53 * 2 ^ 2044 - 2 ^ 2044 ∧ 0 < one ∧ 1023 < reach := by
  decide +kernel

end Binary64

/-- Rounded units are representable when they are not too many. -/
theorem representable_roundUnits_iff (units : Nat) :
    Representable (roundUnits units 1) ↔ 2 * units + 2 ^ 2045 < 2 * 2 ^ 53 * 2 ^ 2045 := by
  rw [← roundUnits_lt_iff, ← Binary64.reach_sizes.1]
  exact and_iff_left (Nat.mod_eq_zero_of_dvd (step_dvd_roundUnits units))

namespace Binary64

/-- Units are rounded to finite ones exactly when they lie within reach. -/
theorem representable_units_iff (units : Nat) :
    Representable (roundUnits units 1) ↔ units < reach * one := by
  obtain ⟨-, double, wide, -⟩ := reach_sizes
  rw [representable_roundUnits_iff, wide, double]
  generalize 2 ^ 2044 = half
  omega

/-- A count of ones is rounded to finite units exactly when it lies within reach. -/
theorem representable_ones_iff (count : Nat) :
    Representable (roundUnits (count * one) 1) ↔ count < reach := by
  obtain ⟨-, -, -, positive, -⟩ := reach_sizes
  rw [representable_units_iff, Nat.mul_lt_mul_right positive]

/-- A whole number has no nearest float exactly when it is beyond reach. -/
theorem ofInt_error_iff (n : Int) (fault : NumberFault) :
    ofInt n = .error fault ↔ fault = .beyondFloat ∧ reach ≤ n.natAbs := by
  have units : (n * one : Int).natAbs = n.natAbs * one := by
    rw [Int.natAbs_mul, Int.natAbs_natCast]
  rw [← Nat.not_lt, ← representable_ones_iff, ← units]
  unfold ofInt ofSigned ofQuotient ofUnits
  generalize roundUnits (n * one : Int).natAbs 1 = rounded
  by_cases representable : Representable rounded
  · rw [dif_pos representable]
    exact iff_of_false nofun fun beyond => beyond.2 representable
  · rw [dif_neg representable]
    exact ⟨fun same => ⟨(Except.error.inj same).symm, representable⟩,
      fun beyond => congrArg Except.error beyond.1.symm⟩

end Binary64

/-! ## Scalars -/

namespace Scalar

/-- A sentence can quote the scalar: it is no whole number with too many digits. -/
def Quotable : Scalar → Prop
  | .int n => Numeral.isWritable n = true
  | _ => True

theorem text_cases (x : Scalar) : (x.Quotable ∧ ∃ shown, x.text = .ok shown) ∨
    (¬x.Quotable ∧ x.text = .error .digitsToWrite) := by
  cases x with
  | bool b => exact .inl ⟨trivial, _, rfl⟩
  | float x => exact .inl ⟨trivial, _, rfl⟩
  | int n =>
    rw [Quotable, text, Numeral.write]
    cases Numeral.isWritable n with
    | true => exact .inl ⟨rfl, _, rfl⟩
    | false => exact .inr ⟨Bool.false_ne_true, rfl⟩

/-- One of two scalars is a float, and the other is a whole number beyond all floats. -/
def Clash : Scalar → Scalar → Prop
  | .int n, .float _ | .float _, .int n => Binary64.reach ≤ n.natAbs
  | _, _ => False

/-- Truth values count as whole numbers that have a nearest float. -/
theorem countOf_lt_reach (b : Bool) : (countOf b).natAbs < Binary64.reach := by
  obtain ⟨-, -, -, -, more⟩ := Binary64.reach_sizes
  have few : (countOf b).natAbs ≤ 1 := by cases b <;> decide
  omega

/-- Scalars are combined unless they clash. -/
theorem combine_error_iff (onInts : Int → Int → Int)
    (onFloats : Binary64 → Binary64 → Binary64) (x y : Scalar) (fault : NumberFault) :
    combine onInts onFloats x y = .error fault ↔ fault = .beyondFloat ∧ x.Clash y := by
  cases x <;> cases y <;>
    simp [combine, asNumber, Clash, Except.map_error_iff, Binary64.ofInt_error_iff,
      countOf_lt_reach]

/-- A whole number that is beyond all floats. -/
def IsFar (x : Scalar) : Prop := ∃ n, x = int n ∧ Binary64.reach ≤ n.natAbs

theorem not_isFar_float (x : Binary64) : ¬(float x).IsFar := nofun

theorem not_isFar_int {n : Int} (near : n.natAbs < Binary64.reach) : ¬(int n).IsFar := by
  rintro ⟨m, same, far⟩
  rw [Scalar.int.inj same] at near
  exact Nat.not_lt.mpr far near

/-- Scalars clash when one of them is a float and the other one is far. -/
theorem clash_iff {x y : Scalar} :
    x.Clash y ↔ (∃ z, x = float z) ∧ y.IsFar ∨ x.IsFar ∧ ∃ z, y = float z := by
  cases x <;> cases y <;> simp [Clash, IsFar]

theorem eq_float_of_asNumber {x : Scalar} {z : Binary64} (isNumber : x.asNumber = .inr z) :
    x = float z := by
  cases x with
  | float y => exact congrArg float (Sum.inr.inj isNumber)
  | int n => nomatch isNumber
  | bool b => nomatch isNumber

/-- Scalars that are combined give a float as soon as one of them is a float. -/
theorem isFloat_of_combine {onInts : Int → Int → Int}
    {onFloats : Binary64 → Binary64 → Binary64} {x y z : Scalar}
    (combined : combine onInts onFloats x y = .ok z)
    (some : (∃ w, x = float w) ∨ ∃ w, y = float w) : ∃ w, z = float w := by
  have converted {f : Binary64 → Binary64} {result : Except NumberFault Binary64}
      (mapped : result.map (fun x => float (f x)) = .ok z) : ∃ w, z = float w := by
    cases result with
    | ok x => exact ⟨f x, (Except.ok.inj mapped).symm⟩
    | error fault => nomatch mapped
  unfold combine at combined
  split at combined
  next left right =>
    rcases some with ⟨w, rfl⟩ | ⟨w, rfl⟩
    · nomatch left
    · nomatch right
  next => exact converted combined
  next => exact converted combined
  next => exact ⟨_, (Except.ok.inj combined).symm⟩

section Combine

variable (onInts : Int → Int → Int) (onFloats : Binary64 → Binary64 → Binary64)

/-- A float is combined with anything that is not far. -/
theorem combine_float_ok (x : Binary64) {y : Scalar} (near : ¬y.IsFar) :
    ∃ z, combine onInts onFloats (float x) y = .ok (float z) := by
  cases combined : combine onInts onFloats (float x) y with
  | ok z =>
    obtain ⟨w, rfl⟩ := isFloat_of_combine combined (.inl ⟨x, rfl⟩)
    exact ⟨w, rfl⟩
  | error fault =>
    obtain ⟨-, clash⟩ := (combine_error_iff onInts onFloats (float x) y fault).mp combined
    rcases clash_iff.mp clash with ⟨-, far⟩ | ⟨far, -⟩
    · exact absurd far near
    · exact absurd far (not_isFar_float x)

theorem combine_float_far (x : Binary64) {y : Scalar} (far : y.IsFar) :
    combine onInts onFloats (float x) y = .error .beyondFloat :=
  (combine_error_iff onInts onFloats (float x) y _).mpr
    ⟨rfl, clash_iff.mpr (.inl ⟨⟨x, rfl⟩, far⟩)⟩

/-- Anything that is not far is combined with a float. -/
theorem combine_ok_float {x : Scalar} (near : ¬x.IsFar) (y : Binary64) :
    ∃ z, combine onInts onFloats x (float y) = .ok (float z) := by
  cases combined : combine onInts onFloats x (float y) with
  | ok z =>
    obtain ⟨w, rfl⟩ := isFloat_of_combine combined (.inr ⟨y, rfl⟩)
    exact ⟨w, rfl⟩
  | error fault =>
    obtain ⟨-, clash⟩ := (combine_error_iff onInts onFloats x (float y) fault).mp combined
    rcases clash_iff.mp clash with ⟨-, far⟩ | ⟨far, -⟩
    · exact absurd far (not_isFar_float y)
    · exact absurd far near

end Combine

end Scalar

end Gamebook
