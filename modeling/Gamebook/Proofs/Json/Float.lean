import Gamebook.Json.Printer
import Gamebook.Proofs.Json.Number
import Gamebook.Proofs.Number.Shortest

/-!
# Reading floating-point numbers from their texts

The text of a finite number has its shortest digits, laid out with zeros, a point or an
exponent so that the leading digit stands in its place. Every layout is read as the same
digits times the same power of ten, and so as the number itself; the sign stays with zero
too.
-/

namespace Gamebook.Json

open Binary64 (one ofDecimal)

/-! ## Layouts -/

/-- Few enough figures with a leading one in a given place, perhaps with zeros behind them, are
spelled by the parts of a number. -/
structure Spells (parts : NumberParts) (digits : List Char) (leading : Int) : Prop where
  wellFormed : parts.WellFormed
  few : parts.whole.length ≤ digitLimit
  value : ∃ zeros : Nat, ∀ negative, parts.value negative =
    .float (ofDecimal negative (figuresValue digits * 10 ^ zeros) (digits.length + zeros)
      (leading + 1 - (digits.length + zeros : Nat)))

/-- The value of a number with an exponent. -/
theorem value_exponent (negative : Bool) (whole : List Char) (fraction : Option (List Char))
    (below : Bool) (size rest : List Char) :
    NumberParts.value negative ⟨whole, fraction, some (below, size), rest⟩ =
      .float (ofDecimal negative
        (figuresValue ((whole ++ fraction.getD []).dropWhile (· == '0')))
        ((whole ++ fraction.getD []).dropWhile (· == '0')).length
        ((if below then -(figuresValue size : Int) else figuresValue size) -
          (fraction.getD []).length)) := by
  cases fraction <;> cases below <;> rfl

theorem isFigures_append {cs ds : List Char} (left : IsFigures cs)
    (right : ∀ c ∈ ds, isFigure c = true) : IsFigures (cs ++ ds) := by
  refine ⟨by simp [left.1], fun c member => ?_⟩
  rcases List.mem_append.mp member with here | there
  · exact left.2 c here
  · exact right c there

theorem zeros_figures (count : Nat) : ∀ c ∈ List.replicate count '0', isFigure c = true := by
  intro c member
  rw [List.eq_of_mem_replicate member]
  rfl

theorem one_le_digitLimit : 1 ≤ digitLimit := by decide

theorem isFigures_zero : IsFigures ['0'] := ⟨by simp, zeros_figures 1⟩

/-- The size of an exponent, of at least two figures. -/
def exponentSize (n : Nat) : String :=
  if (Nat.repr n).length < 2 then "0" ++ Nat.repr n else Nat.repr n

/-- The size of an exponent spells the exponent. -/
theorem exponentSize_spec (n : Nat) :
    IsFigures (exponentSize n).toList ∧ figuresValue (exponentSize n).toList = n := by
  have figures : IsFigures (Nat.toDigits 10 n) := ⟨Nat.toDigits_ne_nil, toDigits_figures n⟩
  have spelled := figuresValue_toDigits n
  have digits : (Nat.repr n).toList = Nat.toDigits 10 n := by simp
  unfold exponentSize
  split
  · rw [String.toList_append, digits]
    exact ⟨isFigures_append isFigures_zero figures.2, spelled⟩
  · rw [digits]
    exact ⟨figures, spelled⟩

section Layout

variable {digits : List Char} (figures : IsFigures digits) (nonzero : digits.head? ≠ some '0')
  {rest : List Char} (stops : Stops rest)

include nonzero in
/-- Zeros in front of digits are dropped. -/
theorem dropWhile_zeros (count : Nat) :
    (List.replicate count '0' ++ digits).dropWhile (· == '0') = digits := by
  induction count with
  | zero =>
    cases digits with
    | nil => rfl
    | cons c cs =>
      have : c ≠ '0' := by simpa using nonzero
      simp [this]
  | succ count inductionHypothesis =>
    simpa [List.replicate_succ] using inductionHypothesis

include nonzero in
/-- Digits in front keep what follows them. -/
theorem dropWhile_digits (figures : IsFigures digits) (rest : List Char) :
    (digits ++ rest).dropWhile (· == '0') = digits ++ rest := by
  cases digits with
  | nil => exact absurd rfl figures.1
  | cons c cs =>
    have : c ≠ '0' := by simpa using nonzero
    simp [this]

include nonzero in
theorem dropWhile_self (figures : IsFigures digits) : digits.dropWhile (· == '0') = digits := by
  rw [← List.append_nil digits, dropWhile_digits nonzero figures]

include figures in
theorem isFigures_take {count : Nat} (some : 0 < count) : IsFigures (digits.take count) := by
  refine ⟨?_, fun c member => figures.2 c (List.mem_of_mem_take member)⟩
  intro empty
  rcases List.take_eq_nil_iff.mp empty with none | none
  · omega
  · exact figures.1 none

include figures in
theorem isFigures_drop {count : Nat} (more : count < digits.length) :
    IsFigures (digits.drop count) := by
  refine ⟨?_, fun c member => figures.2 c (List.mem_of_mem_drop member)⟩
  intro empty
  have := List.drop_eq_nil_iff.mp empty
  omega

/-- Figures in front of a point and behind it are all of a number. -/
theorem wellFormed_point {whole places rest : List Char} (figures : IsFigures whole)
    (leading : whole.head? = some '0' → whole = ['0']) (placed : IsFigures places)
    (stops : Stops rest) : NumberParts.WellFormed ⟨whole, some places, none, rest⟩ where
  whole := figures
  leading := leading
  fraction := by
    rintro _ ⟨⟩
    exact placed
  exponent := nofun
  rest := stops

include figures nonzero stops

/-- Digits with a leading place behind the point stand behind zeros. -/
theorem spells_behind {leading : Int} (behind : leading < 0) :
    Spells ⟨['0'], some (List.replicate (-leading - 1).toNat '0' ++ digits), none, rest⟩ digits
      leading where
  wellFormed := by
    refine wellFormed_point isFigures_zero (fun _ => rfl) ⟨by simp [figures.1], ?_⟩ stops
    intro c member
    rcases List.mem_append.mp member with here | there
    · exact zeros_figures _ c here
    · exact figures.2 c there
  few := one_le_digitLimit
  value := by
    refine ⟨0, fun negative => ?_⟩
    have dropped : (['0'] ++ (List.replicate (-leading - 1).toNat '0' ++ digits)).dropWhile
        (· == '0') = digits := dropWhile_zeros nonzero ((-leading - 1).toNat + 1)
    simp only [NumberParts.value, Option.getD_some, dropped, List.length_append,
      List.length_replicate, Nat.pow_zero, Nat.mul_one, Nat.add_zero]
    congr 2
    omega

/-- Digits that do not reach the point are followed by zeros, one of them behind it. -/
theorem spells_before {leading : Int} {zeros : Nat} (place : leading + 1 = digits.length + zeros)
    (near : leading < 16) :
    Spells ⟨digits ++ List.replicate zeros '0', some ['0'], none, rest⟩ digits leading where
  wellFormed := by
    refine wellFormed_point (isFigures_append figures (zeros_figures zeros)) ?_ isFigures_zero stops
    intro zero
    rw [List.head?_append_of_ne_nil _ figures.1] at zero
    exact absurd zero nonzero
  few := by
    have : 16 ≤ digitLimit := by decide
    rw [List.length_append, List.length_replicate]
    omega
  value := by
    refine ⟨zeros + 1, fun negative => ?_⟩
    have kept : ((digits ++ List.replicate zeros '0') ++ ['0']).dropWhile (· == '0') =
        digits ++ List.replicate (zeros + 1) '0' := by
      rw [List.append_assoc, ← List.replicate_succ', dropWhile_digits nonzero figures]
    simp only [NumberParts.value, Option.getD_some, kept, figuresValue_append_zeros,
      List.length_append, List.length_replicate, List.length_singleton]
    congr 2
    omega

/-- Digits that go beyond the point are cut there. -/
theorem spells_across {leading : Int} {count : Nat} (place : leading + 1 = count)
    (some : 0 < count) (more : count < digits.length) (near : leading < 16) :
    Spells ⟨digits.take count, .some (digits.drop count), none, rest⟩ digits leading where
  wellFormed := by
    refine wellFormed_point (isFigures_take figures some) ?_ (isFigures_drop figures more) stops
    intro zero
    rw [List.head?_take, if_neg (Nat.ne_of_gt some)] at zero
    exact absurd zero nonzero
  few := by
    have : 16 ≤ digitLimit := by decide
    have := List.length_take_le count digits
    dsimp only
    omega
  value := by
    refine ⟨0, fun negative => ?_⟩
    have kept : (digits.take count ++ digits.drop count).dropWhile (· == '0') = digits := by
      rw [List.take_append_drop, dropWhile_self nonzero figures]
    simp only [NumberParts.value, Option.getD_some, kept, List.length_drop, Nat.pow_zero,
      Nat.mul_one, Nat.add_zero]
    congr 2
    omega

/-- Digits with an exponent are cut behind the leading one. -/
theorem spells_exponent {leading : Int} {size : List Char} (sized : IsFigures size)
    (spelled : figuresValue size = leading.natAbs) :
    Spells ⟨digits.take 1, if digits.length ≤ 1 then none else some (digits.drop 1),
      some (leading < 0, size), rest⟩ digits leading where
  wellFormed :=
    { whole := isFigures_take figures Nat.one_pos
      leading := by
        intro zero
        rw [List.head?_take] at zero
        exact absurd zero nonzero
      fraction := by
        intro places isPlaces
        split at isPlaces
        next => cases isPlaces
        next more =>
          obtain rfl := Option.some.inj isPlaces
          exact isFigures_drop figures (Nat.not_le.mp more)
      exponent := by
        rintro _ _ ⟨⟩
        exact sized
      rest := stops }
  few := Nat.le_trans (List.length_take_le 1 digits) (by decide)
  value := by
    refine ⟨0, fun negative => ?_⟩
    have kept : (digits.take 1 ++ digits.drop 1).dropWhile (· == '0') = digits := by
      rw [List.take_append_drop, dropWhile_self nonzero figures]
    have places : (if digits.length ≤ 1 then none else some (digits.drop 1)).getD [] =
        digits.drop 1 := by
      split
      next short => exact (List.drop_eq_nil_iff.mpr short).symm
      next => rfl
    have more : 0 < digits.length := List.length_pos_iff.mpr figures.1
    simp only [value_exponent, places, kept, List.length_drop, Nat.pow_zero, Nat.mul_one,
      Nat.add_zero, spelled, decide_eq_true_eq]
    congr 2
    split <;> omega

/-- Every layout of digits is the parts of a number that they are spelled by. -/
theorem layout_spells (leading : Int) :
    ∃ parts, (Decimal.layout digits leading).toList ++ rest = parts.characters ∧
      Spells parts digits leading ∧ parts.rest = rest := by
  unfold Decimal.layout
  dsimp only
  split
  next near =>
    simp only [Bool.and_eq_true, decide_eq_true_eq] at near
    split
    next behind =>
      refine ⟨_, ?_, spells_behind figures nonzero stops behind, rfl⟩
      simp [NumberParts.characters, NumberParts.fractionCharacters,
        NumberParts.exponentCharacters]
    next notBehind =>
      split
      next few =>
        have place : leading + 1 =
            digits.length + ((leading + 1 - digits.length).toNat : Nat) := by omega
        refine ⟨_, ?_, spells_before figures nonzero stops place near.2, rfl⟩
        simp [NumberParts.characters, NumberParts.fractionCharacters,
          NumberParts.exponentCharacters]
      next more =>
        have place : leading + 1 = ((leading + 1).toNat : Nat) := by omega
        refine ⟨_, ?_, spells_across figures nonzero stops place (by omega) (by omega) near.2, rfl⟩
        simp [NumberParts.characters, NumberParts.fractionCharacters,
          NumberParts.exponentCharacters]
  next far =>
    obtain ⟨sized, spelled⟩ := exponentSize_spec leading.natAbs
    refine ⟨_, ?_, spells_exponent figures nonzero stops sized spelled, rfl⟩
    by_cases short : digits.length ≤ 1 <;> by_cases below : leading < 0 <;>
      simp [NumberParts.characters, NumberParts.fractionCharacters,
        NumberParts.exponentCharacters, exponentSize, short, below]

end Layout

/-! ## Significant digits -/

theorem dropTrailingZeros_append (digits : List Char) :
    ∃ zeros, digits = Decimal.dropTrailingZeros digits ++ List.replicate zeros '0' := by
  refine ⟨(digits.reverse.takeWhile (· == '0')).length, ?_⟩
  have zeros : digits.reverse.takeWhile (· == '0') =
      List.replicate (digits.reverse.takeWhile (· == '0')).length '0' := by
    refine List.eq_replicate_of_mem fun c member => ?_
    have isZero := List.mem_takeWhile_imp member
    exact beq_iff_eq.mp isZero
  have parts := List.takeWhile_append_dropWhile (p := (· == '0')) (l := digits.reverse)
  rw [← List.reverse_inj, List.reverse_append, Decimal.dropTrailingZeros, List.reverse_reverse,
    List.reverse_replicate, ← zeros, parts]

/-- The digits of a positive number without the zeros at their end begin with no zero, and
spell the number with some zeros behind them. -/
theorem dropTrailingZeros_toDigits {n : Nat} (positive : 0 < n) {digits : List Char}
    (dropped : Decimal.dropTrailingZeros (Nat.toDigits 10 n) = digits) :
    IsFigures digits ∧ digits.head? ≠ some '0' ∧
      ∃ zeros, figuresValue digits * 10 ^ zeros = n ∧
        digits.length + zeros = (Nat.toDigits 10 n).length := by
  obtain ⟨zeros, parts⟩ := dropTrailingZeros_append (Nat.toDigits 10 n)
  obtain ⟨c, cs, first, nonzero⟩ := toDigits_head positive
  have all := toDigits_figures n
  have spelled := figuresValue_toDigits n
  rw [dropped] at parts
  rw [parts] at first all spelled ⊢
  rw [figuresValue_append_zeros] at spelled
  cases digits with
  | nil =>
    cases zeros with
    | zero => cases first
    | succ zeros => exact absurd (List.cons.inj first).1.symm nonzero
  | cons d ds =>
    obtain rfl := (List.cons.inj first).1
    exact ⟨⟨by simp, fun x member => all x (List.mem_append_left _ member)⟩, by simpa using nonzero,
      zeros, spelled, by rw [List.length_append, List.length_replicate]⟩

/-! ## Reading back -/

open Decimal (powerOfTen powerOfTen_scale powerOfTen_pos readsBack width readsBack_iff)

/-- Zeros may go from digits to their power of ten. -/
theorem powerOfTen_zeros {exponent other : Int} {zeros more : Nat}
    (same : other + zeros = exponent + more) :
    10 ^ zeros * (powerOfTen other).1 * (powerOfTen exponent).2 =
      10 ^ more * (powerOfTen exponent).1 * (powerOfTen other).2 := by
  obtain ⟨low, high⟩ : ∃ low : Nat, 0 ≤ exponent + low ∧ 0 ≤ other + low :=
    ⟨(exponent.natAbs + other.natAbs), by omega, by omega⟩
  have here := powerOfTen_scale exponent low (exponent + low).toNat (by omega)
  have there := powerOfTen_scale other low (other + low).toNat (by omega)
  have sum : zeros + (other + low).toNat = more + (exponent + low).toNat := by omega
  refine Nat.eq_of_mul_eq_mul_right (Nat.pow_pos (n := low) (by decide : 0 < 10)) ?_
  calc 10 ^ zeros * (powerOfTen other).1 * (powerOfTen exponent).2 * 10 ^ low
      = 10 ^ zeros * (powerOfTen exponent).2 * ((powerOfTen other).1 * 10 ^ low) := by ring
    _ = (powerOfTen exponent).2 * (powerOfTen other).2 * 10 ^ (zeros + (other + low).toNat) := by
      rw [there, Nat.pow_add]
      ring
    _ = 10 ^ more * (powerOfTen other).2 * ((powerOfTen exponent).1 * 10 ^ low) := by
      rw [sum, here, Nat.pow_add]
      ring
    _ = 10 ^ more * (powerOfTen exponent).1 * (powerOfTen other).2 * 10 ^ low := by ring

/-- Digits within the range are a quotient of a power of ten. -/
theorem ofDecimal_near (negative : Bool) {digits count : Nat} {exponent : Int}
    (positive : 0 < digits) (few : exponent ≤ 400) (many : -400 ≤ exponent + count) :
    ofDecimal negative digits count exponent =
      Binary64.ofQuotient negative (digits * (powerOfTen exponent).1 * one)
        (powerOfTen exponent).2 := by
  unfold ofDecimal powerOfTen
  rw [if_neg (Nat.ne_of_gt positive), if_neg (by omega), if_neg (by omega)]
  split
  · rfl
  · rw [Nat.mul_one]

/-- Digits that a magnitude is read back from, with zeros moved between them and their power
of ten, are read as the magnitude. -/
theorem ofDecimal_of_readsBack (negative : Bool) {units digits count zeros more : Nat}
    {exponent other : Int} (positive : 0 < digits)
    (reads : readsBack units (digits * 10 ^ more) exponent = true)
    (same : other + zeros = exponent + more) (few : other ≤ 400) (many : -400 ≤ other + count) :
    ofDecimal negative (digits * 10 ^ zeros) count other = Binary64.ofUnits negative units := by
  rw [ofDecimal_near negative (Nat.mul_pos positive (Nat.pow_pos (by decide))) few many,
    Binary64.ofQuotient]
  congr 1
  rw [readsBack_iff, width] at reads
  rw [← reads]
  refine roundUnits_congr (powerOfTen_pos other).2 (powerOfTen_pos exponent).2 ?_
  calc digits * 10 ^ zeros * (powerOfTen other).1 * one * (powerOfTen exponent).2
      = digits * one * (10 ^ zeros * (powerOfTen other).1 * (powerOfTen exponent).2) := by ring
    _ = digits * one * (10 ^ more * (powerOfTen exponent).1 * (powerOfTen other).2) := by
      rw [powerOfTen_zeros same]
    _ = digits * 10 ^ more * (one * (powerOfTen exponent).1) * (powerOfTen other).2 := by ring

/-- The text of a magnitude is the parts of a number that is read as the magnitude. -/
theorem magnitudeText_characters {units : Nat} (representable : Representable units)
    (rest : List Char) (stops : Stops rest) :
    ∃ parts : NumberParts, (Decimal.magnitudeText units).toList ++ rest = parts.characters ∧
      parts.WellFormed ∧ parts.whole.length ≤ digitLimit ∧ parts.rest = rest ∧
      ∀ negative, parts.value negative = .float (Binary64.ofUnits negative units) := by
  unfold Decimal.magnitudeText
  split
  next zero =>
    subst zero
    refine ⟨⟨['0'], some ['0'], none, rest⟩, ?_,
      wellFormed_point isFigures_zero (fun _ => rfl) isFigures_zero stops, one_le_digitLimit, rfl,
      fun negative => ?_⟩
    · simp [NumberParts.characters, NumberParts.fractionCharacters,
        NumberParts.exponentCharacters]
    · change Value.float (ofDecimal negative 0 0 (-1)) = _
      rw [ofDecimal, if_pos rfl]
  next nonzero =>
    rcases chosen : Decimal.shortest units with ⟨multiple, exponent⟩
    obtain ⟨reads, positive, least, most⟩ :=
      Decimal.shortest_spec (Nat.pos_of_ne_zero nonzero) representable chosen
    dsimp only
    generalize dropped : Decimal.dropTrailingZeros (Nat.toDigits 10 multiple) = digits
    obtain ⟨figures, headNonzero, more, spelled, length⟩ := dropTrailingZeros_toDigits positive dropped
    obtain ⟨parts, characters, spells, left⟩ := layout_spells figures headNonzero stops
      (exponent + (Nat.toDigits 10 multiple).length - 1)
    obtain ⟨zeros, value⟩ := spells.value
    refine ⟨parts, characters, spells.wellFormed, spells.few, left, fun negative => ?_⟩
    rw [value]
    refine congrArg Value.float ?_
    have some : 0 < figuresValue digits := by
      rcases Nat.eq_zero_or_pos (figuresValue digits) with zero | some
      · rw [zero] at spelled
        omega
      · exact some
    rw [← spelled] at reads
    refine ofDecimal_of_readsBack negative some reads ?_ ?_ ?_
    all_goals omega

/-- A finite number is read from its text, with its sign. -/
theorem readAtom_float (dialect : Dialect) (negative : Bool) {units : Nat}
    (representable : Representable units) {rest : List Char} (stops : Stops rest) :
    readAtom dialect (writeFloat (.finite negative units representable) ++ rest) =
      .ok (.float (.finite negative units representable), rest) := by
  obtain ⟨parts, characters, wellFormed, few, left, value⟩ :=
    magnitudeText_characters representable rest stops
  have read := readAtom_characters dialect negative wellFormed few
  rw [value, left, Binary64.ofUnits, dif_pos representable] at read
  have written : writeFloat (.finite negative units representable) ++ rest =
      signCharacters negative ++ parts.characters := by
    rw [← characters]
    cases negative <;> simp [writeFloat, Decimal.text, signCharacters]
  rw [written, read]

end Gamebook.Json
