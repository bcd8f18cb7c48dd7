import Mathlib
import Gamebook.Number.Binary64

/-!
# Rounding depends on the quotient alone

A quotient rounds to a whole number when it lies within half of it, and rounding sees
only the quotient, not how it is written. A quotient of units therefore rounds to a
representable magnitude when it lies within half a step of it; below the least magnitude
of a binade the step is only half as wide, so there the quotient must not lie below.
-/

namespace Gamebook

/-! ## Nearest whole numbers -/

/-- A quotient that lies within half of a whole number is rounded to it. -/
theorem roundQuotient_eq {numerator denominator nearest : Nat}
    (above : 2 * nearest * denominator < 2 * numerator + denominator)
    (below : 2 * numerator < 2 * nearest * denominator + denominator) :
    roundQuotient numerator denominator = nearest := by
  have positive : 0 < denominator := by
    by_contra zero
    obtain rfl : denominator = 0 := by omega
    omega
  have split := Nat.div_add_mod numerator denominator
  have small := Nat.mod_lt numerator positive
  unfold roundQuotient
  generalize numerator / denominator = quotient at split ⊢
  generalize numerator % denominator = remainder at split small ⊢
  subst split
  have notLess : quotient ≤ nearest := by
    by_contra less
    have : nearest + 1 ≤ quotient := by omega
    nlinarith
  have notMore : nearest ≤ quotient + 1 := by
    by_contra more
    have : quotient + 2 ≤ nearest := by omega
    nlinarith
  rcases Nat.lt_or_eq_of_le notLess with less | rfl
  · obtain rfl : nearest = quotient + 1 := by omega
    have large : denominator < 2 * remainder := by nlinarith
    simp [Nat.not_lt.mpr (Nat.le_of_lt large), Nat.ne_of_gt large]
  · have least : 2 * remainder < denominator := by nlinarith
    simp [least]

/-- Widening a quotient changes nothing. -/
theorem roundQuotient_mul {numerator denominator factor : Nat} (positive : 0 < factor) :
    roundQuotient (numerator * factor) (denominator * factor) =
      roundQuotient numerator denominator := by
  unfold roundQuotient
  rw [Nat.mul_div_mul_right _ _ positive, Nat.mul_mod_mul_right]
  have less : 2 * (numerator % denominator * factor) < denominator * factor ↔
      2 * (numerator % denominator) < denominator := by
    rw [← Nat.mul_assoc]
    exact Nat.mul_lt_mul_right positive
  have same : 2 * (numerator % denominator * factor) = denominator * factor ↔
      2 * (numerator % denominator) = denominator := by
    rw [← Nat.mul_assoc]
    exact Nat.mul_left_inj (Nat.ne_of_gt positive)
  simp only [less, same, beq_eq_decide]

/-- Two ways to write one quotient round alike. -/
theorem roundQuotient_congr {a b c d : Nat} (left : 0 < b) (right : 0 < d)
    (same : a * d = c * b) : roundQuotient a b = roundQuotient c d := by
  rw [← roundQuotient_mul right, same, Nat.mul_comm b d, roundQuotient_mul left]

theorem roundUnits_congr {a b c d : Nat} (left : 0 < b) (right : 0 < d)
    (same : a * d = c * b) : roundUnits a b = roundUnits c d := by
  have quotients : a / b = c / d := by
    rw [← Nat.mul_div_mul_right a b right, same, Nat.mul_comm b d,
      Nat.mul_div_mul_right c d left]
  have spare : 0 < Nat.pow 2 (spareBits (c / d)) := Nat.pow_pos (by decide)
  have widened : a * (d * Nat.pow 2 (spareBits (c / d))) =
      c * (b * Nat.pow 2 (spareBits (c / d))) := by
    rw [← Nat.mul_assoc, ← Nat.mul_assoc, same]
  simp only [roundUnits, quotients,
    roundQuotient_congr (Nat.mul_pos left spare) (Nat.mul_pos right spare) widened]

/-! ## Nearest magnitudes -/

/-- The step from a magnitude to the next one above it. -/
def step (units : Nat) : Nat := 2 ^ spareBits units

theorem step_pos (units : Nat) : 0 < step units := Nat.two_pow_pos _

theorem spareBits_of_small {units : Nat} (small : units < 2 ^ 53) : spareBits units = 0 := by
  have bits : units.log2 < 53 := by
    rcases Nat.eq_zero_or_pos units with rfl | positive
    · decide
    · exact (Nat.log2_lt (Nat.ne_of_gt positive)).mpr small
  unfold spareBits
  omega

theorem step_of_small {units : Nat} (small : units < 2 ^ 53) : step units = 1 := by
  rw [step, spareBits_of_small small, Nat.pow_zero]

theorem spareBits_of_large {units spare : Nat} (least : 2 ^ 52 * 2 ^ spare ≤ units)
    (below : units < 2 ^ 53 * 2 ^ spare) : spareBits units = spare := by
  have positive : units ≠ 0 := by
    have := Nat.two_pow_pos spare
    omega
  rw [← Nat.pow_add] at least below
  have bits : units.log2 = 52 + spare :=
    (Nat.log2_eq_iff positive).mpr ⟨least, by rwa [show 52 + spare + 1 = 53 + spare by omega]⟩
  unfold spareBits
  omega

/-- A large magnitude has all its 53 significant bits above its step. -/
theorem units_bounds {units : Nat} (large : 2 ^ 53 ≤ units) :
    2 ^ 52 * step units ≤ units ∧ units < 2 ^ 53 * step units := by
  have positive : units ≠ 0 := by omega
  have least := Nat.log2_self_le positive
  have below := Nat.lt_log2_self (n := units)
  have bits : 52 ≤ units.log2 := by
    by_contra few
    have : 2 ^ (units.log2 + 1) ≤ 2 ^ 53 := Nat.pow_le_pow_right (by decide) (by omega)
    omega
  rw [step, spareBits, ← Nat.pow_add, ← Nat.pow_add]
  constructor
  · rwa [show 52 + (units.log2 - 52) = units.log2 by omega]
  · rwa [show 53 + (units.log2 - 52) = units.log2 + 1 by omega]

/-- A quotient of units that lies within half a step of a representable magnitude is rounded
to it. Below the least magnitude of a binade the steps are half as wide. -/
theorem roundUnits_eq {units numerator denominator : Nat} (whole : step units ∣ units)
    (above : 2 * units * denominator < 2 * numerator + step units * denominator)
    (below : 2 * numerator < 2 * units * denominator + step units * denominator)
    (side : units * denominator ≤ numerator ∨ units < 2 ^ 53 ∨ 2 ^ 52 * step units < units) :
    roundUnits numerator denominator = units := by
  have positive : 0 < denominator := by
    by_contra zero
    obtain rfl : denominator = 0 := by omega
    omega
  have spare : spareBits (numerator / denominator) = spareBits units := by
    rcases Nat.lt_or_ge units (2 ^ 53) with small | large
    · rw [step_of_small small] at below
      have : numerator / denominator ≤ units := by
        refine Nat.lt_succ_iff.mp ((Nat.div_lt_iff_lt_mul positive).mpr ?_)
        nlinarith
      rw [spareBits_of_small small, spareBits_of_small (by omega)]
    · obtain ⟨least, most⟩ := units_bounds large
      have stepPos := step_pos units
      have next : units + step units ≤ 2 ^ 53 * step units := by
        obtain ⟨mantissa, isMultiple⟩ := whole
        have : mantissa + 1 ≤ 2 ^ 53 := by
          by_contra many
          have : 2 ^ 53 ≤ mantissa := by omega
          nlinarith
        nlinarith
      refine spareBits_of_large ?_ ?_
      · refine (Nat.le_div_iff_mul_le positive).mpr ?_
        change 2 ^ 52 * step units * denominator ≤ numerator
        rcases side with notBelow | small | inside
        · nlinarith
        · omega
        · have : 2 ^ 52 * step units + step units ≤ units := by
            obtain ⟨mantissa, isMultiple⟩ := whole
            have : 2 ^ 52 + 1 ≤ mantissa := by
              by_contra few
              have : mantissa ≤ 2 ^ 52 := by omega
              nlinarith
            nlinarith
          nlinarith
      · refine (Nat.div_lt_iff_lt_mul positive).mpr ?_
        change numerator < 2 ^ 53 * step units * denominator
        nlinarith
  obtain ⟨mantissa, isMultiple⟩ := whole
  have nearest : roundQuotient numerator (denominator * step units) = mantissa := by
    refine roundQuotient_eq ?_ ?_ <;> nlinarith
  have rounded : roundUnits numerator denominator =
      roundQuotient numerator (denominator * step units) * step units := by
    simp only [roundUnits, spare]
    rfl
  rw [rounded, nearest, Nat.mul_comm, ← isMultiple]

theorem units_lt (units : Nat) : units < 2 ^ 53 * step units := by
  rcases Nat.lt_or_ge units (2 ^ 53) with small | large
  · rw [step_of_small small]
    omega
  · exact (units_bounds large).2

/-- On a grid whose width is at most a part in ten to the sixteenth of a magnitude, one of its
two neighbours is rounded to it: the one above when that is close enough, else the one below. -/
theorem roundUnits_neighbour {units width scale lower : Nat} (scalePos : 0 < scale)
    (whole : step units ∣ units) (least : lower * width ≤ units * scale)
    (next : units * scale < (lower + 1) * width) (fine : 10 ^ 16 * width ≤ units * scale) :
    roundUnits (lower * width) scale = units ∨ roundUnits ((lower + 1) * width) scale = units := by
  have stepPos : 0 < step units * scale := Nat.mul_pos (step_pos units) scalePos
  have narrow : width < step units * scale := by
    have := Nat.mul_lt_mul_of_pos_right (units_lt units) scalePos
    rw [Nat.mul_assoc] at this
    omega
  rcases Nat.lt_or_ge (2 * ((lower + 1) * width)) (2 * units * scale + step units * scale)
    with close | far
  · right
    refine roundUnits_eq whole ?_ close (.inl (Nat.le_of_lt next))
    nlinarith
  · left
    refine roundUnits_eq whole ?_ ?_ ?_
    · nlinarith
    · nlinarith
    · right
      by_contra! least
      obtain ⟨large, small⟩ := least
      have := Nat.mul_le_mul_right scale small
      nlinarith

end Gamebook
