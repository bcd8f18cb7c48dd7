import Gamebook.Number.Decimal
import Gamebook.Proofs.Number.Rounding

/-!
# The shortest decimal reads back

The decimal that is chosen for a magnitude always reads back as that magnitude. A grid
with 17 significant digits is finer than the steps between magnitudes, so one of the two
neighbours on it lies close enough; and no coarser grid is taken unless one of its
neighbours reads back.
-/

namespace Gamebook.Decimal

open Binary64 (one)

/-! ## Powers of ten -/

/-- The quotient of a power of ten, against powers whose distance is the exponent. -/
theorem powerOfTen_scale (exponent : Int) (low high : Nat) (distance : exponent + low = high) :
    (powerOfTen exponent).1 * 10 ^ low = (powerOfTen exponent).2 * 10 ^ high := by
  unfold powerOfTen
  split
  next nonnegative =>
    change 10 ^ exponent.toNat * 10 ^ low = 1 * 10 ^ high
    rw [← Nat.pow_add, Nat.one_mul]
    congr 1
    omega
  next negative =>
    change 1 * 10 ^ low = 10 ^ (-exponent).toNat * 10 ^ high
    rw [← Nat.pow_add, Nat.one_mul]
    congr 1
    omega

theorem powerOfTen_pos (exponent : Int) :
    0 < (powerOfTen exponent).1 ∧ 0 < (powerOfTen exponent).2 := by
  have power (n : Nat) : 0 < Nat.pow 10 n := Nat.pow_pos (by decide)
  unfold powerOfTen
  split
  · exact ⟨power _, Nat.one_pos⟩
  · exact ⟨Nat.one_pos, power _⟩

/-- The unit and the greatest magnitude, between powers of ten. -/
theorem unit_sizes : 0 < one ∧ one ≤ Nat.pow 10 330 ∧ Nat.pow 10 330 * 10 = 10 ^ 331 ∧
    Nat.pow 2 2098 * 2 ≤ one * 10 ^ 309 := by
  decide +kernel

theorem one_pos : 0 < one := unit_sizes.1

/-! ## Neighbours on a grid -/

/-- The width of a grid in units, over the denominator of its power of ten. -/
def width (exponent : Int) : Nat := one * (powerOfTen exponent).1

theorem width_pos (exponent : Int) : 0 < width exponent :=
  Nat.mul_pos one_pos (powerOfTen_pos exponent).1

theorem readsBack_iff (units multiple : Nat) (exponent : Int) :
    readsBack units multiple exponent = true ↔
      roundUnits (multiple * width exponent) (powerOfTen exponent).2 = units := by
  rw [readsBack, beq_iff_eq, width, Nat.mul_assoc, Nat.mul_comm _ one]

/-- The neighbour below a magnitude on a grid. -/
def below (units : Nat) (exponent : Int) : Nat := units * (powerOfTen exponent).2 / width exponent

theorem below_le (units : Nat) (exponent : Int) :
    below units exponent * width exponent ≤ units * (powerOfTen exponent).2 :=
  Nat.div_mul_le_self _ _

theorem lt_above (units : Nat) (exponent : Int) :
    units * (powerOfTen exponent).2 < (below units exponent + 1) * width exponent := by
  rw [Nat.mul_comm (below units exponent + 1)]
  exact Nat.lt_mul_div_succ _ (width_pos exponent)

theorem neighbour?_eq (units : Nat) (exponent : Int) : neighbour? units exponent =
    if readsBack units (below units exponent) exponent = true then
      some (if readsBack units (below units exponent + 1) exponent = true then
        roundQuotient (units * (powerOfTen exponent).2) (width exponent)
        else below units exponent)
    else if readsBack units (below units exponent + 1) exponent = true then
      some (below units exponent + 1)
    else none := by
  rw [neighbour?, below, width]

theorem roundQuotient_neighbour (numerator denominator : Nat) :
    roundQuotient numerator denominator = numerator / denominator ∨
      roundQuotient numerator denominator = numerator / denominator + 1 := by
  simp only [roundQuotient]
  split
  · exact .inl rfl
  · exact .inr rfl

/-- A neighbour that is given reads back, and it is one of the two next to the magnitude. -/
theorem neighbour?_eq_some {units multiple : Nat} {exponent : Int}
    (found : neighbour? units exponent = some multiple) :
    readsBack units multiple exponent = true ∧
      (multiple = below units exponent ∨ multiple = below units exponent + 1) := by
  have nearest := roundQuotient_neighbour (units * (powerOfTen exponent).2) (width exponent)
  rw [← below] at nearest
  rw [neighbour?_eq] at found
  split at found
  next lower =>
    split at found
    next upper =>
      obtain rfl := Option.some.inj found
      rcases nearest with isBelow | isAbove
      · rw [isBelow]
        exact ⟨lower, .inl rfl⟩
      · rw [isAbove]
        exact ⟨upper, .inr rfl⟩
    next =>
      obtain rfl := Option.some.inj found
      exact ⟨lower, .inl rfl⟩
  next =>
    split at found
    next upper =>
      obtain rfl := Option.some.inj found
      exact ⟨upper, .inr rfl⟩
    next => cases found

/-- A grid whose width is at most a part in ten to the sixteenth of a magnitude has a neighbour
that reads back. -/
theorem neighbour?_isSome {units : Nat} {exponent : Int} (whole : step units ∣ units)
    (fine : 10 ^ 16 * width exponent ≤ units * (powerOfTen exponent).2) :
    (neighbour? units exponent).isSome = true := by
  have reads := roundUnits_neighbour (powerOfTen_pos exponent).2 whole (below_le units exponent)
    (lt_above units exponent) fine
  rw [← readsBack_iff, ← readsBack_iff] at reads
  rw [neighbour?_eq]
  rcases reads with lower | upper
  · rw [if_pos lower]
    rfl
  · rw [if_pos upper, if_pos upper]
    split <;> rfl

/-! ## The power of the leading digit -/

/-- A row of digits has as many as its number needs. -/
theorem pow_length_le {n : Nat} (positive : 0 < n) :
    10 ^ ((Nat.toDigits 10 n).length - 1) ≤ n := by
  rcases Nat.eq_zero_or_pos ((Nat.toDigits 10 n).length - 1) with one | more
  · rw [one]
    exact positive
  · by_contra less
    have := (Nat.length_toDigits_le_iff (by decide) more).mpr (Nat.not_le.mp less)
    omega

/-- The power of ten of the leading digit is at most the magnitude. -/
theorem leadingPower_le {units : Nat} (positive : 0 < units) {digits : Nat} (some : 1 ≤ digits)
    {exponent : Int} (place : exponent = leadingPower units - digits + 1) :
    10 ^ (digits - 1) * width exponent ≤ units * (powerOfTen exponent).2 := by
  -- even the least magnitude has a digit before its 330th place
  obtain ⟨-, least, next, -⟩ := unit_sizes
  rw [leadingPower] at place
  generalize Nat.pow 10 330 = power at least next place
  have reaches : 0 < units * power / one :=
    Nat.div_pos (Nat.le_trans least (Nat.le_mul_of_pos_left _ positive)) one_pos
  have leading := pow_length_le reaches
  have length := Nat.length_toDigits_pos (b := 10) (n := units * power / one)
  generalize (Nat.toDigits 10 (units * power / one)).length = count at leading length place
  have shifted : exponent + (330 + digits : Nat) = count := by omega
  have scaled := powerOfTen_scale _ _ _ shifted
  have bound : 10 ^ (count - 1) * one ≤ units * power := (Nat.le_div_iff_mul_le one_pos).mp leading
  unfold width
  generalize (powerOfTen exponent).1 = numerator at *
  generalize (powerOfTen exponent).2 = denominator at *
  refine Nat.le_of_mul_le_mul_right ?_ (Nat.pow_pos (n := 331) (show 0 < 10 by decide))
  calc 10 ^ (digits - 1) * (one * numerator) * 10 ^ 331
      = one * (numerator * 10 ^ (330 + digits)) := by
        rw [show 330 + digits = (digits - 1) + 331 by omega, Nat.pow_add]
        ring
    _ = one * (denominator * 10 ^ count) := by rw [scaled]
    _ = 10 ^ (count - 1) * one * (10 * denominator) := by
        rw [show count = count - 1 + 1 by omega, Nat.pow_succ]
        simp only [Nat.add_sub_cancel]
        ring
    _ ≤ units * power * (10 * denominator) := Nat.mul_le_mul_right _ bound
    _ = units * denominator * 10 ^ 331 := by
        rw [← next]
        ring

/-! ## The search -/

/-- The multiple on a grid that has a neighbour reads back and is at most twice the magnitude. -/
theorem onGrid_spec {units : Nat} {leading : Int} {digits : Nat}
    (hit : (neighbour? units (leading - digits + 1)).isSome = true) :
    readsBack units (onGrid units leading digits).1 (onGrid units leading digits).2 = true ∧
      (onGrid units leading digits).1 ≤ below units (onGrid units leading digits).2 + 1 := by
  obtain ⟨multiple, found⟩ := Option.isSome_iff_exists.mp hit
  obtain ⟨reads, nearby⟩ := neighbour?_eq_some found
  simp only [onGrid, found, Option.getD_some]
  exact ⟨reads, by omega⟩

/-- The search ends on a grid of at most 17 digits that has a neighbour. -/
theorem shortestFrom_spec {units : Nat} (positive : 0 < units) (whole : step units ∣ units)
    (digits more : Nat) (some : 1 ≤ digits) (inAll : digits + more = 17) :
    ∃ count : Nat, 1 ≤ count ∧ count ≤ 17 ∧
      (neighbour? units (leadingPower units - count + 1)).isSome = true ∧
      shortestFrom units (leadingPower units) digits more =
        onGrid units (leadingPower units) count := by
  induction more generalizing digits with
  | zero =>
    obtain rfl : digits = 17 := by omega
    have fine := leadingPower_le positive some rfl
    exact ⟨17, some, Nat.le_refl _, neighbour?_isSome whole fine, by rw [shortestFrom]⟩
  | succ more inductionHypothesis =>
    rw [shortestFrom]
    split
    next hit => exact ⟨digits, some, by omega, hit, rfl⟩
    next => exact inductionHypothesis (digits + 1) (by omega) (by omega)

/-- A multiple that reads back as a positive magnitude is positive. -/
theorem pos_of_readsBack {units multiple : Nat} {exponent : Int} (positive : 0 < units)
    (reads : readsBack units multiple exponent = true) : 0 < multiple := by
  by_contra zero
  obtain rfl : multiple = 0 := by omega
  rw [readsBack_iff, Nat.zero_mul] at reads
  have : roundUnits 0 (powerOfTen exponent).2 = 0 := by simp [roundUnits, roundQuotient]
  omega

/-- The leading digit of a multiple that is at most twice a magnitude stands before the 310th
place. -/
theorem leading_lt {units limit multiple lead high : Nat} {exponent : Int}
    (finite : units < limit) (greatest : limit * 2 ≤ one * 10 ^ 309)
    (twice : multiple * width exponent ≤ units * (powerOfTen exponent).2 * 2)
    (leading : 10 ^ lead ≤ multiple) (shifted : exponent + 400 = high) :
    lead + high < 709 := by
  have scalePos := (powerOfTen_pos exponent).2
  have scaled := powerOfTen_scale _ 400 high shifted
  have bound : 10 ^ (lead + high) * (powerOfTen exponent).2 * one <
      10 ^ 709 * (powerOfTen exponent).2 * one := by
    calc 10 ^ (lead + high) * (powerOfTen exponent).2 * one
        = 10 ^ lead * width exponent * 10 ^ 400 := by
          rw [width, Nat.pow_add, Nat.mul_assoc (10 ^ lead), Nat.mul_comm (10 ^ high), ← scaled]
          ring
      _ ≤ multiple * width exponent * 10 ^ 400 :=
          Nat.mul_le_mul_right _ (Nat.mul_le_mul_right _ leading)
      _ ≤ units * (powerOfTen exponent).2 * 2 * 10 ^ 400 := Nat.mul_le_mul_right _ twice
      _ < limit * (powerOfTen exponent).2 * 2 * 10 ^ 400 := by
          refine Nat.mul_lt_mul_of_pos_right ?_ (Nat.pow_pos (by decide))
          exact Nat.mul_lt_mul_of_pos_right (Nat.mul_lt_mul_of_pos_right finite scalePos) Nat.two_pos
      _ = limit * 2 * ((powerOfTen exponent).2 * 10 ^ 400) := by ring
      _ ≤ one * 10 ^ 309 * ((powerOfTen exponent).2 * 10 ^ 400) :=
          Nat.mul_le_mul_right _ greatest
      _ = 10 ^ 709 * (powerOfTen exponent).2 * one := by
          rw [show 709 = 309 + 400 from rfl, Nat.pow_add]
          ring
  have power := Nat.lt_of_mul_lt_mul_right (Nat.lt_of_mul_lt_mul_right bound)
  exact (Nat.pow_lt_pow_iff_right (by decide)).mp power

/-- The chosen decimal reads back as the magnitude, and its digits stay within the range of
exponents that reading decides by the digits. -/
theorem shortest_spec {units : Nat} (positive : 0 < units) (representable : Representable units)
    {multiple : Nat} {exponent : Int} (chosen : shortest units = (multiple, exponent)) :
    readsBack units multiple exponent = true ∧ 0 < multiple ∧ -346 ≤ exponent ∧
      exponent + (Nat.toDigits 10 multiple).length ≤ 309 := by
  have whole : step units ∣ units := Nat.dvd_of_mod_eq_zero representable.2
  obtain ⟨count, some, few, hit, found⟩ := shortestFrom_spec positive whole 1 16 (by decide) rfl
  rw [← shortest, chosen] at found
  obtain ⟨reads, nearby⟩ := onGrid_spec hit
  rw [← found] at reads nearby
  dsimp only at reads nearby
  have place : exponent = leadingPower units - count + 1 := congrArg Prod.snd found
  have positiveMultiple := pos_of_readsBack positive reads
  have lowest : -346 ≤ exponent := by
    have := Nat.length_toDigits_pos (b := 10) (n := units * Nat.pow 10 330 / one)
    rw [leadingPower] at place
    omega
  refine ⟨reads, positiveMultiple, lowest, ?_⟩
  have wide : width exponent ≤ units * (powerOfTen exponent).2 :=
    Nat.le_trans (Nat.le_mul_of_pos_left _ (Nat.pow_pos (by decide)))
      (leadingPower_le positive some place)
  have twice : multiple * width exponent ≤ units * (powerOfTen exponent).2 * 2 := by
    have atMost := below_le units exponent
    have := Nat.mul_le_mul_right (width exponent) nearby
    rw [Nat.add_mul, Nat.one_mul] at this
    omega
  have length := Nat.length_toDigits_pos (b := 10) (n := multiple)
  have shifted : exponent + 400 = (exponent + 400).toNat := by omega
  -- twice the greatest magnitude has at most 309 digits before the point
  obtain ⟨-, -, -, greatest⟩ := unit_sizes
  have := leading_lt representable.1 greatest twice (pow_length_le positiveMultiple) shifted
  omega

end Gamebook.Decimal
