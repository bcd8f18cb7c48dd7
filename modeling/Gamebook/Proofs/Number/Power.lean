import Gamebook.Number.Power
import Gamebook.Proofs.Number.Overflow
import Gamebook.Proofs.Number.Shortest

/-!
# Powers at the limit of the floats

A power is computed on magnitudes of 256 bits, and each trimming to so many bits moves a magnitude
by at most one part in 2 to the power 255. The number of trimmings grows with the exponent; but a
float above one has long left the floats before they add up to anything. So a power of a float that
is at least one is computed or refused as its exact value says, except where that value lies within
a sliver of the first whole number beyond all floats.
-/

namespace Gamebook

/-- Rounding a quotient moves it by at most one. -/
theorem roundQuotient_near (numerator : Nat) {denominator : Nat} (positive : 0 < denominator) :
    numerator ≤ roundQuotient numerator denominator * denominator + denominator ∧
      roundQuotient numerator denominator * denominator ≤ numerator + denominator := by
  have split := Nat.div_add_mod' numerator denominator
  have small := Nat.mod_lt numerator positive
  rcases Decimal.roundQuotient_neighbour numerator denominator with lower | upper
  · rw [lower]
    constructor <;> omega
  · rw [upper, Nat.succ_mul]
    constructor <;> omega

namespace WideNumber

/-! ## Trimmings -/

/-- The rational number that a wide magnitude stands for. -/
def value (w : WideNumber) : ℚ := w.mantissa * 2 ^ w.exponent

/-- The largest part of a magnitude that a trimming moves it by. -/
def share : ℚ := 1 / 2 ^ 255

theorem share_pos : 0 < share := by norm_num [share]

theorem share_lt_one : share < 1 := by norm_num [share]

/-- A number is reached from another one by so many trimmings at most. -/
def Within (trims : Nat) (x y : ℚ) : Prop :=
  (1 - share) ^ trims * x ≤ y ∧ y ≤ (1 + share) ^ trims * x

theorem value_nonneg (w : WideNumber) : 0 ≤ w.value := by
  unfold value
  positivity

section Within

variable {k l n : Nat} {x y v w : ℚ}

theorem lower_nonneg (trims : Nat) : 0 ≤ (1 - share) ^ trims :=
  pow_nonneg (sub_nonneg.mpr share_lt_one.le) trims

theorem upper_nonneg (trims : Nat) : 0 ≤ (1 + share) ^ trims :=
  pow_nonneg (by linarith [share_pos]) trims

theorem Within.refl (x : ℚ) : Within 0 x x := by
  constructor <;> rw [pow_zero, one_mul]

theorem Within.nonneg (within : Within k x y) (nonneg : 0 ≤ x) : 0 ≤ y :=
  (mul_nonneg (lower_nonneg k) nonneg).trans within.1

/-- More trimmings reach what fewer reach. -/
theorem Within.mono (within : Within k x y) (nonneg : 0 ≤ x) (fewer : k ≤ l) : Within l x y := by
  have lower : (1 - share) ^ l ≤ (1 - share) ^ k :=
    pow_le_pow_of_le_one (sub_nonneg.mpr share_lt_one.le) (by linarith [share_pos]) fewer
  have upper : (1 + share) ^ k ≤ (1 + share) ^ l :=
    pow_le_pow_right₀ (by linarith [share_pos]) fewer
  constructor
  · exact (mul_le_mul_of_nonneg_right lower nonneg).trans within.1
  · exact within.2.trans (mul_le_mul_of_nonneg_right upper nonneg)

theorem Within.trans (first : Within k x y) (second : Within l y v) : Within (k + l) x v := by
  constructor
  · calc (1 - share) ^ (k + l) * x = (1 - share) ^ l * ((1 - share) ^ k * x) := by ring
      _ ≤ (1 - share) ^ l * y := mul_le_mul_of_nonneg_left first.1 (lower_nonneg l)
      _ ≤ v := second.1
  · calc v ≤ (1 + share) ^ l * y := second.2
      _ ≤ (1 + share) ^ l * ((1 + share) ^ k * x) :=
        mul_le_mul_of_nonneg_left first.2 (upper_nonneg l)
      _ = (1 + share) ^ (k + l) * x := by ring

theorem Within.mul (first : Within k x v) (second : Within l y w) (left : 0 ≤ x) (right : 0 ≤ y) :
    Within (k + l) (x * y) (v * w) := by
  constructor
  · calc (1 - share) ^ (k + l) * (x * y) = ((1 - share) ^ k * x) * ((1 - share) ^ l * y) := by ring
      _ ≤ v * w := mul_le_mul first.1 second.1 (mul_nonneg (lower_nonneg l) right)
        (first.nonneg left)
  · calc v * w ≤ ((1 + share) ^ k * x) * ((1 + share) ^ l * y) :=
        mul_le_mul first.2 second.2 (second.nonneg right) (mul_nonneg (upper_nonneg k) left)
      _ = (1 + share) ^ (k + l) * (x * y) := by ring

theorem Within.pow (within : Within k x y) (nonneg : 0 ≤ x) (n : Nat) :
    Within (k * n) (x ^ n) (y ^ n) := by
  induction n with
  | zero => simpa using Within.refl 1
  | succ n inductionHypothesis =>
    rw [pow_succ, pow_succ]
    exact inductionHypothesis.mul within (pow_nonneg nonneg n) nonneg

end Within

/-- Trimming moves a magnitude by a share at most. -/
theorem within_trim (w : WideNumber) : Within 1 w.value w.trim.value := by
  obtain ⟨mantissa, exponent⟩ := w
  have scale : (0 : ℚ) < 2 ^ exponent := by positivity
  generalize isExcess : mantissa.log2 - 255 = excess
  have trimmed : (trim ⟨mantissa, exponent⟩).value =
      ((roundQuotient mantissa (2 ^ excess) * 2 ^ excess : Nat) : ℚ) * 2 ^ exponent := by
    simp only [trim, value, isExcess]
    rw [zpow_add₀ (by norm_num : (2 : ℚ) ≠ 0), zpow_natCast]
    push_cast
    change _ = (roundQuotient mantissa (Nat.pow 2 excess) : ℚ) * _ * _
    ring
  -- What is cut off is a share of the mantissa, which has 256 bits or is not cut at all.
  have moved : (mantissa : ℚ) ≤
        (roundQuotient mantissa (2 ^ excess) * 2 ^ excess : Nat) + share * mantissa ∧
      ((roundQuotient mantissa (2 ^ excess) * 2 ^ excess : Nat) : ℚ) ≤
        mantissa + share * mantissa := by
    have nonneg : 0 ≤ share * mantissa := mul_nonneg share_pos.le (Nat.cast_nonneg _)
    by_cases kept : excess = 0
    · subst kept
      have same : roundQuotient mantissa (2 ^ 0) * 2 ^ 0 = mantissa := by
        simp [roundQuotient, Nat.mod_one]
      rw [same]
      constructor <;> linarith
    · have large : 2 ^ 255 * 2 ^ excess ≤ mantissa := by
        rw [← Nat.pow_add, show 255 + excess = mantissa.log2 by omega]
        refine Nat.log2_self_le ?_
        rintro rfl
        exact kept isExcess.symm
      have part : (2 ^ excess : ℚ) ≤ share * mantissa := by
        have cast : (2 ^ 255 * 2 ^ excess : ℚ) ≤ mantissa := by exact_mod_cast large
        rw [share]
        linarith
      obtain ⟨notBelow, notAbove⟩ := roundQuotient_near mantissa (Nat.two_pow_pos excess)
      have below : (mantissa : ℚ) ≤
          (roundQuotient mantissa (2 ^ excess) * 2 ^ excess : Nat) + 2 ^ excess := by
        exact_mod_cast notBelow
      have above : ((roundQuotient mantissa (2 ^ excess) * 2 ^ excess : Nat) : ℚ) ≤
          mantissa + 2 ^ excess := by
        exact_mod_cast notAbove
      constructor <;> linarith
  rw [Within, trimmed, pow_one, pow_one]
  constructor
  · calc (1 - share) * (mantissa * 2 ^ exponent)
      _ = (mantissa - share * mantissa) * 2 ^ exponent := by ring
      _ ≤ _ := mul_le_mul_of_nonneg_right (by linarith [moved.1]) scale.le
  · calc _ ≤ (mantissa + share * mantissa) * 2 ^ exponent :=
          mul_le_mul_of_nonneg_right moved.2 scale.le
      _ = (1 + share) * (mantissa * 2 ^ exponent) := by ring

theorem within_mul (v w : WideNumber) : Within 1 (v.value * w.value) (mul v w).value := by
  have exact : v.value * w.value =
      value ⟨v.mantissa * w.mantissa, v.exponent + w.exponent⟩ := by
    simp only [value]
    rw [zpow_add₀ (by norm_num : (2 : ℚ) ≠ 0)]
    push_cast
    ring
  rw [exact]
  exact within_trim _

/-- A power takes fewer than three trimmings for each factor. -/
theorem within_power (w : WideNumber) (n : Nat) :
    Within (3 * n - 1) (w.value ^ n) (w.power n).value := by
  induction n using Nat.strong_induction_on with
  | _ n inductionHypothesis =>
    rw [power]
    by_cases none : n = 0
    · subst none
      simpa [value] using Within.refl 1
    · have half := inductionHypothesis (n / 2) (by omega)
      have positive := pow_nonneg w.value_nonneg (n / 2)
      have square := (half.mul half positive positive).trans (within_mul _ _)
      rw [dif_neg none]
      dsimp only
      by_cases even : n % 2 = 0
      · rw [if_pos even]
        have exact : w.value ^ n = w.value ^ (n / 2) * w.value ^ (n / 2) := by
          rw [← pow_add]
          congr 1
          omega
        rw [exact]
        exact square.mono (mul_nonneg positive positive) (by omega)
      · rw [if_neg even]
        have exact : w.value ^ n = w.value ^ (n / 2) * w.value ^ (n / 2) * w.value := by
          rw [← pow_add, ← pow_succ]
          congr 1
          omega
        have squared := mul_nonneg positive positive
        have product := (square.mul (Within.refl w.value) squared w.value_nonneg).trans
          (within_mul _ _)
        rw [exact]
        exact product.mono (mul_nonneg squared w.value_nonneg) (by omega)

/-- Magnitudes that have been trimmed have 256 bits, or are the power of two after all of these. -/
theorem trim_mantissa_le (w : WideNumber) : w.trim.mantissa ≤ 2 ^ 256 := by
  have positive : 0 < Nat.pow 2 (w.mantissa.log2 - 255) := Nat.two_pow_pos _
  have below : w.mantissa ≤ 2 ^ 256 * Nat.pow 2 (w.mantissa.log2 - 255) :=
    calc w.mantissa ≤ 2 ^ (w.mantissa.log2 + 1) := Nat.le_of_lt Nat.lt_log2_self
      _ ≤ 2 ^ (256 + (w.mantissa.log2 - 255)) := Nat.pow_le_pow_right (by decide) (by omega)
      _ = 2 ^ 256 * 2 ^ (w.mantissa.log2 - 255) := Nat.pow_add ..
  simp only [trim]
  exact roundQuotient_le positive below

theorem power_mantissa_le (w : WideNumber) (n : Nat) : (w.power n).mantissa ≤ 2 ^ 256 := by
  rw [power]
  by_cases none : n = 0
  · rw [dif_pos none]
    decide
  · rw [dif_neg none]
    dsimp only
    by_cases even : n % 2 = 0
    · rw [if_pos even]
      exact trim_mantissa_le _
    · rw [if_neg even]
      exact trim_mantissa_le _

/-- One to any power is one again, without any trimming. -/
theorem power_one (n : Nat) :
    (ofUnits Binary64.one).power n = if n = 0 then ⟨1, 0⟩ else ofUnits Binary64.one := by
  induction n using Nat.strong_induction_on with
  | _ n inductionHypothesis =>
    have one : mul ⟨1, 0⟩ ⟨1, 0⟩ = ⟨1, 0⟩ := by decide +kernel
    have first : mul ⟨1, 0⟩ (ofUnits Binary64.one) = ofUnits Binary64.one := by decide +kernel
    have square : mul (ofUnits Binary64.one) (ofUnits Binary64.one) = ofUnits Binary64.one := by
      decide +kernel
    rw [power]
    by_cases none : n = 0
    · rw [dif_pos none, if_pos none]
    · rw [dif_neg none, if_neg none]
      dsimp only
      rw [inductionHypothesis (n / 2) (by omega)]
      by_cases half : n / 2 = 0
      · have odd : n % 2 ≠ 0 := by omega
        rw [if_pos half, if_neg odd, one, first]
      · rw [if_neg half, square, square, ite_self]

/-- One is within reach, trimmed or not. -/
theorem round?_one : round? false ⟨1, 0⟩ ≠ none ∧ (ofUnits Binary64.one).round? false ≠ none := by
  decide +kernel

end WideNumber

namespace Binary64

/-! ## The limit -/

theorem isFinite_ofQuotient_iff (negative : Bool) (units : Nat) :
    (ofQuotient negative units 1).isFinite = true ↔ Representable (roundUnits units 1) := by
  unfold ofQuotient ofUnits
  generalize roundUnits units 1 = rounded
  by_cases representable : Representable rounded
  · rw [dif_pos representable]
    exact iff_of_true rfl representable
  · rw [dif_neg representable]
    exact iff_of_false nofun representable

/-- The rational number that a count of units stands for. -/
def quantity (units : Nat) : ℚ := units / one

theorem two_pow_cast {units n : Nat} (power : units = Nat.pow 2 n) :
    (units : ℚ) = 2 ^ (n : Int) := by
  rw [power, zpow_natCast]
  exact_mod_cast rfl

/-- The unit and the reach beside the powers of two that powers are measured by. -/
theorem power_sizes : one = Nat.pow 2 1074 ∧ 2 ^ 1074 ∣ one ∧ 2 * one = 2 ^ 1075 ∧
    one = 2 ^ 52 * 2 ^ 1022 ∧ 1 ≤ reach ∧ reach < 2 ^ 1024 ∧
    (2 ^ 100 + 1) * reach ≤ 2 ^ 100 * 2 ^ 1024 ∧
    2 ^ 100 * 2 ^ 1023 + reach < 2 ^ 100 * reach := by
  decide +kernel

theorem one_cast : (one : ℚ) = 2 ^ (1074 : Int) := two_pow_cast power_sizes.1

theorem one_cast_pos : (0 : ℚ) < one := by
  exact_mod_cast Decimal.one_pos

theorem quantity_mul_one (count : Nat) : quantity (count * one) = count := by
  rw [quantity, Nat.cast_mul, mul_div_assoc, div_self one_cast_pos.ne', mul_one]

theorem reach_lt : (reach : ℚ) < 2 ^ 1024 := by
  obtain ⟨-, -, -, -, -, whole, -⟩ := power_sizes
  exact_mod_cast whole

end Binary64

namespace WideNumber

open Binary64 (one reach quantity)

/-- Magnitudes of 256 bits that are at least one are rounded unless they lie beyond reach. -/
theorem round?_eq_none_iff {w : WideNumber} (trimmed : w.mantissa ≤ 2 ^ 256)
    (least : 1 ≤ w.value) (negative : Bool) :
    w.round? negative = none ↔ (reach : ℚ) ≤ w.value := by
  obtain ⟨mantissa, exponent⟩ := w
  have positive : (0 : ℚ) < 2 ^ exponent := by positivity
  have some : mantissa ≠ 0 := by
    rintro rfl
    norm_num [value] at least
  have large : -256 ≤ exponent := by
    by_contra low
    have small : (2 : ℚ) ^ exponent ≤ 2 ^ (-257 : Int) :=
      zpow_le_zpow_right₀ (by norm_num) (by omega)
    have cast : (mantissa : ℚ) ≤ 2 ^ (256 : Int) := by exact_mod_cast trimmed
    have product : (mantissa : ℚ) * 2 ^ exponent ≤ 2 ^ (256 : Int) * 2 ^ (-257 : Int) :=
      mul_le_mul cast small positive.le (by positivity)
    have half : (2 : ℚ) ^ (256 : Int) * 2 ^ (-257 : Int) < 1 := by
      rw [← zpow_add₀ (by norm_num)]
      norm_num
    exact absurd least (not_le.mpr (product.trans_lt half))
  rw [round?]
  dsimp only
  rw [if_neg some]
  by_cases far : 2200 < exponent + 1074
  · rw [if_pos far]
    refine iff_of_true rfl (Binary64.reach_lt.le.trans ?_)
    have one : (1 : ℚ) ≤ mantissa := by exact_mod_cast Nat.pos_of_ne_zero some
    calc (2 : ℚ) ^ 1024 = 2 ^ (1024 : Int) := rfl
      _ ≤ 2 ^ exponent := zpow_le_zpow_right₀ (by norm_num) (by omega)
      _ ≤ mantissa * 2 ^ exponent := le_mul_of_one_le_left positive.le one
  · obtain ⟨shift, isShift⟩ : ∃ shift : Nat, exponent = shift - 1074 :=
      ⟨(exponent + 1074).toNat, by omega⟩
    have units : (value ⟨mantissa, exponent⟩) * one = (mantissa * Nat.pow 2 shift : Nat) := by
      rw [value, isShift, Binary64.one_cast, mul_assoc, ← zpow_add₀ (by norm_num),
        sub_add_cancel, ← Binary64.two_pow_cast rfl, Nat.cast_mul]
    have within : (reach : ℚ) ≤ value ⟨mantissa, exponent⟩ ↔
        reach * one ≤ mantissa * Nat.pow 2 shift := by
      rw [← mul_le_mul_iff_left₀ Binary64.one_cast_pos, units]
      exact_mod_cast Iff.rfl
    have toNat : (exponent + 1074).toNat = shift := by omega
    have notNear : ¬exponent + 1074 < -400 := by omega
    have nonnegative : 0 ≤ exponent + 1074 := by omega
    rw [if_neg far, if_neg notNear, if_pos nonnegative, within, toNat, ← Nat.not_lt,
      ← Binary64.representable_units_iff, ← Binary64.isFinite_ofQuotient_iff negative]
    by_cases finite : (Binary64.ofQuotient negative (mantissa * Nat.pow 2 shift) 1).isFinite = true
    · rw [if_pos finite]
      exact iff_of_false nofun (not_not.mpr finite)
    · rw [if_neg finite]
      exact iff_of_true rfl finite

/-- A power of a count of units is that of the number it stands for, but for four trimmings for each
factor. -/
theorem within_power_quantity (units n : Nat) :
    Within (4 * n) (quantity units ^ n) ((ofUnits units).power n).value := by
  have exact : value ⟨units, -1074⟩ = quantity units := by
    rw [value, quantity, Binary64.one_cast, div_eq_mul_inv, ← zpow_neg]
  have nonneg : 0 ≤ quantity units := exact ▸ value_nonneg _
  have single : Within 1 (quantity units) (ofUnits units).value := exact ▸ within_trim _
  exact ((single.pow nonneg n).trans (within_power _ n)).mono (pow_nonneg nonneg n) (by omega)

/-- As long as there are not too many, trimmings leave almost all of a number. -/
theorem lower_near {n : Nat} (few : n ≤ 2 ^ 63) : 1 - 1 / 2 ^ 190 ≤ (1 - share) ^ (4 * n) := by
  have count : (n : ℚ) ≤ 2 ^ 63 := by exact_mod_cast few
  have linear := one_add_mul_le_pow (a := -share) (by linarith [share_lt_one]) (4 * n)
  push_cast at linear
  calc (1 - 1 / 2 ^ 190 : ℚ) ≤ 1 + 4 * n * -share := by
        have part : (4 * 2 ^ 63 * share : ℚ) = 1 / 2 ^ 190 := by norm_num [share]
        nlinarith [share_pos]
    _ ≤ (1 - share) ^ (4 * n) := by rwa [sub_eq_add_neg]

/-- As long as there are not too many, trimmings add almost nothing to a number. -/
theorem upper_near {n : Nat} (few : n ≤ 2 ^ 63) :
    (1 + share) ^ (4 * n) * (1 - 1 / 2 ^ 190) ≤ 1 :=
  calc (1 + share) ^ (4 * n) * (1 - 1 / 2 ^ 190) ≤ (1 + share) ^ (4 * n) * (1 - share) ^ (4 * n) :=
        mul_le_mul_of_nonneg_left (lower_near few) (upper_nonneg _)
    _ = (1 - share ^ 2) ^ (4 * n) := by
        rw [← mul_pow]
        ring
    _ ≤ 1 := by
        have small : share ^ 2 ≤ 1 := pow_le_one₀ share_pos.le share_lt_one.le
        exact pow_le_one₀ (by linarith) (by linarith [sq_nonneg share])

end WideNumber

namespace Binary64

/-! ## Powers of floats that are at least one -/

/-- A number that is above one leaves the floats after sufficiently many factors. -/
theorem two_pow_le (bits : Nat) {n : Nat} {x : ℚ} (least : 1 + 1 / 2 ^ bits ≤ x)
    (many : 2 ^ bits * 1024 ≤ n) : (2 : ℚ) ^ 1024 ≤ x ^ n := by
  have positive : (0 : ℚ) < 1 / 2 ^ bits := by positivity
  have double : (2 : ℚ) ≤ (1 + 1 / 2 ^ bits) ^ (2 ^ bits) := by
    have linear := one_add_mul_le_pow (a := (1 / 2 ^ bits : ℚ)) (by linarith) (2 ^ bits)
    have whole : ((2 ^ bits : Nat) : ℚ) * (1 / 2 ^ bits) = 1 := by
      push_cast
      exact mul_one_div_cancel (by positivity)
    linarith
  calc (2 : ℚ) ^ 1024 ≤ ((1 + 1 / 2 ^ bits) ^ (2 ^ bits)) ^ 1024 :=
        pow_le_pow_left₀ (by norm_num) double 1024
    _ = (1 + 1 / 2 ^ bits) ^ (2 ^ bits * 1024) := (pow_mul ..).symm
    _ ≤ (1 + 1 / 2 ^ bits) ^ n := pow_le_pow_right₀ (by linarith) many
    _ ≤ x ^ n := pow_le_pow_left₀ (by linarith) least n

/-- The first float above one has 52 bits after the point. -/
theorem above_one {units : Nat} (representable : Representable units) (more : one < units) :
    1 + 1 / 2 ^ 52 ≤ quantity units := by
  have next : (2 ^ 52 + 1) * one ≤ 2 ^ 52 * units := by
    obtain ⟨-, -, -, width, -⟩ := power_sizes
    rw [width] at more ⊢
    generalize 1022 = spare at more ⊢
    by_cases below : units < 2 ^ 53 * 2 ^ spare
    · obtain ⟨mantissa, isMultiple⟩ : 2 ^ spare ∣ units := by
        have clear := representable.2
        rw [spareBits_of_large more.le below] at clear
        exact Nat.dvd_of_mod_eq_zero clear
      generalize 2 ^ spare = step at *
      subst isMultiple
      have greater : 2 ^ 52 < mantissa := by
        by_contra few
        have atMost := Nat.mul_le_mul_left step (not_lt.mp few)
        omega
      nlinarith
    · generalize 2 ^ spare = step at *
      omega
  have cast : ((2 ^ 52 + 1) * one : ℚ) ≤ 2 ^ 52 * units := by exact_mod_cast next
  rw [quantity, le_div_iff₀ one_cast_pos]
  linarith

/-- What a power of a float above one is computed as grows, trimmings and all. -/
theorem power_grows {units : Nat} (representable : Representable units) (more : one < units)
    (n : Nat) :
    (1 + 1 / 2 ^ 53 : ℚ) ^ n ≤ ((WideNumber.ofUnits units).power n).value := by
  have base := above_one representable more
  have factor : (1 + 1 / 2 ^ 53 : ℚ) ≤ (1 - WideNumber.share) ^ 4 * quantity units := by
    have kept : (1 - 4 * WideNumber.share : ℚ) ≤ (1 - WideNumber.share) ^ 4 := by
      have linear := one_add_mul_le_pow (a := -WideNumber.share)
        (by linarith [WideNumber.share_lt_one]) 4
      push_cast at linear
      linarith
    calc (1 + 1 / 2 ^ 53 : ℚ) ≤ (1 - 4 * WideNumber.share) * (1 + 1 / 2 ^ 52) := by
          norm_num [WideNumber.share]
      _ ≤ (1 - WideNumber.share) ^ 4 * (1 + 1 / 2 ^ 52) :=
          mul_le_mul_of_nonneg_right kept (by norm_num)
      _ ≤ (1 - WideNumber.share) ^ 4 * quantity units :=
          mul_le_mul_of_nonneg_left base (WideNumber.lower_nonneg 4)
  calc (1 + 1 / 2 ^ 53 : ℚ) ^ n ≤ ((1 - WideNumber.share) ^ 4 * quantity units) ^ n :=
        pow_le_pow_left₀ (by norm_num) factor n
    _ = (1 - WideNumber.share) ^ (4 * n) * quantity units ^ n := by rw [mul_pow, ← pow_mul]
    _ ≤ _ := (WideNumber.within_power_quantity units n).1

/-- A power of a float above one is refused when what it is computed as lies beyond reach. -/
theorem power_error_iff {units : Nat} (representable : Representable units) (more : one < units)
    (n : Nat) (fault : NumberFault) :
    (finite false units representable).power n = .error fault ↔
      fault = .powerRange ∧ (reach : ℚ) ≤ ((WideNumber.ofUnits units).power n).value := by
  have least : 1 ≤ ((WideNumber.ofUnits units).power n).value :=
    (one_le_pow₀ (by norm_num)).trans (power_grows representable more n)
  rw [← WideNumber.round?_eq_none_iff (WideNumber.power_mantissa_le _ n) least
    (false && n % 2 == 1), power]
  by_cases none : n = 0
  · subst none
    have single : ((WideNumber.ofUnits units).power 0) = ⟨1, 0⟩ := by
      rw [WideNumber.power, dif_pos rfl]
    rw [if_pos rfl, single]
    exact iff_of_false nofun fun refused => WideNumber.round?_one.1 refused.2
  · rw [if_neg none]
    cases ((WideNumber.ofUnits units).power n).round? (false && n % 2 == 1) with
    | none => exact ⟨fun same => ⟨(Except.error.inj same).symm, rfl⟩,
        fun refused => congrArg Except.error refused.1.symm⟩
    | some result => exact iff_of_false nofun nofun

/-- The part of a power, to either side of what lies beyond all floats, for which rounding
decides. -/
def sliver : ℚ := 1 / 2 ^ 100

theorem far_of_two_pow_le {x : ℚ} (large : 2 ^ 1024 ≤ x) : (1 + sliver) * reach ≤ x := by
  obtain ⟨-, -, -, -, -, -, whole, -⟩ := power_sizes
  have cast : ((2 ^ 100 + 1) * reach : ℚ) ≤ 2 ^ 100 * 2 ^ 1024 := by exact_mod_cast whole
  rw [sliver]
  generalize (2 : ℚ) ^ 1024 = limit at large cast
  linarith

theorem short_of_le_two_pow {x : ℚ} (small : x ≤ 2 ^ 1023) : x < (1 - sliver) * reach := by
  obtain ⟨-, -, -, -, -, -, -, whole⟩ := power_sizes
  have cast : (2 ^ 100 * 2 ^ 1023 + reach : ℚ) < 2 ^ 100 * reach := by exact_mod_cast whole
  rw [sliver]
  generalize (2 : ℚ) ^ 1023 = limit at small cast
  linarith

/-- A power of a float that is at least one is computed when it lies before the sliver. -/
theorem power_ok {units n : Nat} (representable : Representable units) (least : one ≤ units)
    (short : quantity units ^ n < (1 - sliver) * reach) :
    ∃ result, (finite false units representable).power n = .ok result := by
  rcases Nat.lt_or_eq_of_le least with more | rfl
  · have few : n ≤ 2 ^ 63 := by
      by_contra many
      have far := two_pow_le 52 (above_one representable more) (n := n) (by omega)
      have part : (1 - sliver) * reach ≤ (reach : ℚ) :=
        mul_le_of_le_one_left (Nat.cast_nonneg _) (by norm_num [sliver])
      exact absurd (far.trans (short.le.trans part)) (not_le.mpr reach_lt)
    cases computed : (finite false units representable).power n with
    | ok result => exact ⟨result, rfl⟩
    | error fault =>
      obtain ⟨-, far⟩ := (power_error_iff representable more n fault).mp computed
      have upper := (WideNumber.within_power_quantity units n).2
      have near := WideNumber.upper_near few
      have reachPos : (0 : ℚ) < reach := by
        obtain ⟨-, -, -, -, whole, -⟩ := power_sizes
        exact_mod_cast whole
      exfalso
      refine absurd far (not_le.mpr ?_)
      calc ((WideNumber.ofUnits units).power n).value
          ≤ (1 + WideNumber.share) ^ (4 * n) * quantity units ^ n := upper
        _ < (1 + WideNumber.share) ^ (4 * n) * ((1 - sliver) * reach) :=
            mul_lt_mul_of_pos_left short (pow_pos (by linarith [WideNumber.share_pos]) _)
        _ ≤ (1 + WideNumber.share) ^ (4 * n) * ((1 - 1 / 2 ^ 190) * reach) := by
            refine mul_le_mul_of_nonneg_left ?_ (WideNumber.upper_nonneg _)
            exact mul_le_mul_of_nonneg_right (by norm_num [sliver]) reachPos.le
        _ ≤ 1 * reach := by
            rw [← mul_assoc]
            exact mul_le_mul_of_nonneg_right near reachPos.le
        _ = reach := one_mul _
  · have exact : ((WideNumber.ofUnits one).power n).round? (false && n % 2 == 1) ≠ none := by
      rw [WideNumber.power_one, Bool.false_and]
      split
      · exact WideNumber.round?_one.1
      · exact WideNumber.round?_one.2
    rw [power]
    by_cases none : n = 0
    · exact ⟨_, if_pos none⟩
    · rw [if_neg none]
      obtain ⟨result, computed⟩ := Option.ne_none_iff_exists'.mp exact
      rw [computed]
      exact ⟨result, rfl⟩

/-- A power of a float that is at least one is refused when it lies behind the sliver. -/
theorem power_refused {units n : Nat} (representable : Representable units) (least : one ≤ units)
    (far : (1 + sliver) * reach ≤ quantity units ^ n) :
    (finite false units representable).power n = .error .powerRange := by
  have reachPos : (1 : ℚ) ≤ reach := by
    obtain ⟨-, -, -, -, whole, -⟩ := power_sizes
    exact_mod_cast whole
  have more : one < units := by
    by_contra notMore
    have same : units = one := Nat.le_antisymm (not_lt.mp notMore) least
    rw [same, ← Nat.one_mul one, quantity_mul_one, Nat.cast_one, one_pow] at far
    have beyond : 1 < (1 + sliver) * reach :=
      one_lt_mul_of_lt_of_le (by norm_num [sliver]) reachPos
    exact absurd far (not_le.mpr beyond)
  refine (power_error_iff representable more n _).mpr ⟨rfl, ?_⟩
  by_cases few : n ≤ 2 ^ 63
  · calc (reach : ℚ) ≤ (1 - 1 / 2 ^ 190) * ((1 + sliver) * reach) := by
          rw [← mul_assoc]
          exact le_mul_of_one_le_left (by linarith) (by norm_num [sliver])
      _ ≤ (1 - WideNumber.share) ^ (4 * n) * ((1 + sliver) * reach) :=
          mul_le_mul_of_nonneg_right (WideNumber.lower_near few)
            (mul_nonneg (by norm_num [sliver]) (by linarith))
      _ ≤ (1 - WideNumber.share) ^ (4 * n) * quantity units ^ n :=
          mul_le_mul_of_nonneg_left far (WideNumber.lower_nonneg _)
      _ ≤ _ := (WideNumber.within_power_quantity units n).1
  · -- So many factors leave the floats even with the share of each trimming taken off.
    have grown := two_pow_le 53 (le_refl (1 + 1 / 2 ^ 53 : ℚ)) (n := n) (by omega)
    exact (reach_lt.le.trans grown).trans (power_grows representable more n)

/-! ## Exponents -/

/-- The whole number that a count is taken for when it is an exponent: the float nearest to it. -/
def nearestCount (count : Nat) : Nat := roundUnits (count * one) 1 / one

theorem truncate_finite {units : Nat} (representable : Representable units) :
    truncate (finite false units representable) = .ok ((units / one : Nat) : Int) :=
  congrArg Except.ok (show signed false (units / one) = (units / one : Nat) from rfl)

theorem ofInt_eq {n : Int} {units : Nat} {negative : Bool}
    (sign : (if n * one = 0 then false else decide (n * one < 0)) = negative)
    (size : (n * one).natAbs = units) (representable : Representable (roundUnits units 1)) :
    ofInt n = .ok (finite negative (roundUnits units 1) representable) := by
  subst sign size
  unfold ofInt ofSigned ofQuotient ofUnits
  rw [dif_pos representable]

/-- A count within reach has a nearest float, and this is a whole number. -/
theorem ofInt_count {count : Nat} (within : count < reach) :
    ∃ x, ofInt count = .ok x ∧ x.truncate = .ok (nearestCount count) := by
  have representable := (representable_ones_iff count).mpr within
  have size : ((count : Int) * one).natAbs = count * one := by
    rw [← Int.natCast_mul, Int.natAbs_natCast]
  have sign : (if (count : Int) * one = 0 then false else decide ((count : Int) * one < 0)) =
      false := by
    have notLess : ¬(count : Int) * one < 0 := by
      rw [← Int.natCast_mul]
      exact Int.not_lt.mpr (Int.natCast_nonneg _)
    rw [decide_eq_false notLess, ite_self]
  refine ⟨_, ofInt_eq sign size representable, ?_⟩
  rw [truncate_finite, nearestCount]

/-- Rounding to 53 bits leaves at least half. -/
theorem le_two_mul_roundUnits (units : Nat) : units ≤ 2 * roundUnits units 1 := by
  rcases Nat.lt_or_ge units (2 ^ 53) with small | large
  · rw [roundUnits_of_small small]
    omega
  · obtain ⟨least, -⟩ := units_bounds large
    obtain ⟨near, -⟩ := roundQuotient_near units (step_pos units)
    rw [roundUnits_one]
    omega

/-- Units that have 53 bits already are not rounded. -/
theorem roundUnits_of_dvd {units : Nat} (whole : step units ∣ units) :
    roundUnits units 1 = units := by
  obtain ⟨mantissa, isMultiple⟩ := whole
  have product : units = mantissa * step units := by rwa [Nat.mul_comm]
  have exact : roundQuotient units (step units) = mantissa :=
    Nat.le_antisymm (roundQuotient_le (step_pos units) product.le)
      (le_roundQuotient (step_pos units) product.ge)
  rw [roundUnits_one, exact, ← product]

theorem step_ones_dvd {count : Nat} (small : count < 2 ^ 53) : step (count * one) ∣ one := by
  have fine : spareBits (count * one) ≤ 1074 := by
    by_contra coarse
    have wide : 2 * one ≤ step (count * one) :=
      calc 2 * one = 2 ^ 1075 := power_sizes.2.2.1
        _ ≤ 2 ^ spareBits (count * one) := Nat.pow_le_pow_right (by decide) (by omega)
    have large : 2 ^ 53 ≤ count * one := by
      by_contra tiny
      rw [spareBits_of_small (not_le.mp tiny)] at coarse
      omega
    have atMost := (Nat.mul_le_mul_left (2 ^ 52) wide).trans (units_bounds large).1
    rw [← Nat.mul_assoc, Nat.mul_le_mul_right_iff Decimal.one_pos] at atMost
    omega
  obtain ⟨-, width, -⟩ := power_sizes
  unfold step
  generalize 1074 = bits at fine width
  exact (Nat.pow_dvd_pow 2 fine).trans width

/-- A count of at most 53 bits is a float itself. -/
theorem nearestCount_of_small {count : Nat} (small : count < 2 ^ 53) :
    nearestCount count = count := by
  have whole : step (count * one) ∣ count * one := Dvd.dvd.mul_left (step_ones_dvd small) count
  rw [nearestCount, roundUnits_of_dvd whole, Nat.mul_div_cancel _ Decimal.one_pos]

theorem half_le_nearestCount (count : Nat) : count / 2 ≤ nearestCount count := by
  have half := le_two_mul_roundUnits (count * one)
  refine (Nat.le_div_iff_mul_le Decimal.one_pos).mpr ?_
  have part : count / 2 * 2 ≤ count := Nat.div_mul_le_self count 2
  have := Nat.mul_le_mul_right one part
  generalize roundUnits (count * one) 1 = rounded at *
  rw [Nat.mul_right_comm] at this
  omega

end Binary64

end Gamebook
