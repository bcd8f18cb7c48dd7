import Mathlib.Algebra.Order.Ring.Nat
import Mathlib.Data.List.TakeWhile
import Gamebook.Number.Numeral
import Gamebook.Proofs.Text.Blank

/-!
# Reading rows of digits

A row of characters that look like digits has no blank, no sign and no underscore, so reading it as
a numeral takes each character for itself. It is read exactly when every character has a decimal
value, in whatever script, and there are not more of them than the limit allows; it is then the
number that the values spell. Raised and circled digits look like digits and are not read.
-/

namespace Gamebook

namespace Text

/-- Nothing that looks like a digit is a blank. -/
theorem isBlank_of_looksLikeDigit {c : Char} (looks : looksLikeDigit c = true) :
    isBlank c = false := by
  have apart : ∀ code ∈ [9, 10, 11, 12, 13, 28, 29, 30, 31, 32, 0x85, 0xA0, 0x1680, 0x2000,
      0x2001, 0x2002, 0x2003, 0x2004, 0x2005, 0x2006, 0x2007, 0x2008, 0x2009, 0x200A, 0x2028,
      0x2029, 0x202F, 0x205F, 0x3000], looksLikeDigit (Char.ofNat code) = false := by decide
  rw [Bool.eq_false_iff]
  intro blank
  have isListed := apart c.toNat (by
    simp [isBlank] at blank
    simp only [List.mem_cons, List.not_mem_nil, or_false]
    omega)
  rw [Char.ofNat_toNat, looks] at isListed
  cases isListed

theorem looksLikeDigit_of_isDigit {c : Char} (digit : isDigit c = true) :
    looksLikeDigit c = true := by
  rw [looksLikeDigit, digit, Bool.true_or]

theorem digitValue?_lt {c : Char} {digit : Nat} (value : digitValue? c = some digit) :
    digit < 10 := by
  obtain ⟨start, found, rfl⟩ := Option.map_eq_some_iff.mp value
  have inRun := List.find?_some found
  simp only [Bool.and_eq_true, decide_eq_true_eq] at inRun
  omega

/-- A text without blanks is trimmed. -/
theorem trimBlanks_of_noBlank {cs : List Char} (noBlank : ∀ c ∈ cs, isBlank c = false) :
    trimBlanks cs = cs :=
  (trimBlanks_eq_self_iff cs).mpr
    ⟨fun c isFirst => noBlank c (List.mem_of_head? isFirst),
      fun c isLast => noBlank c (List.mem_of_getLast? isLast)⟩

end Text

namespace Numeral

/-- The number that a row of characters spells by the values of those that have one. -/
def spelled (row : List Char) : Nat := ofDigits (row.filterMap Text.digitValue?)

/-- Without underscores, the digits at the front are those up to the first other character. -/
theorem takeDigits?_plain {row : List Char} (plain : '_' ∉ row) :
    takeDigits? row = some ((row.takeWhile Text.isDigit).filterMap Text.digitValue?,
      row.dropWhile Text.isDigit) := by
  fun_induction takeDigits? row with
  | case1 => rfl
  | case3 c _ rest noValue => simp [Text.isDigit, noValue]
  | case7 c _ digit rest _ _ value inductionHypothesis =>
    have isDigit : Text.isDigit c = true := by rw [Text.isDigit, value, Option.isSome_some]
    rw [inductionHypothesis (mt (List.mem_cons_of_mem c) plain),
      List.takeWhile_cons_of_pos isDigit, List.dropWhile_cons_of_pos isDigit,
      List.filterMap_cons_some value]
    rfl
  | case2 | case4 | case5 | case6 => simp at plain

theorem length_values {row : List Char} (digits : ∀ c ∈ row, Text.isDigit c = true) :
    (row.filterMap Text.digitValue?).length = row.length := by
  induction row with
  | nil => rfl
  | cons c rest inductionHypothesis =>
    obtain ⟨first, others⟩ := List.forall_mem_cons.mp digits
    obtain ⟨digit, value⟩ := Option.isSome_iff_exists.mp first
    rw [List.filterMap_cons_some value, List.length_cons, List.length_cons,
      inductionHypothesis others]

/-- A row that looks like digits is read exactly when all are decimal digits and not too many. -/
theorem read_row_iff {source : String} (filled : source.toList ≠ [])
    (looks : ∀ c ∈ source.toList, Text.looksLikeDigit c = true) (number : Int) :
    read source = .ok number ↔ (∀ c ∈ source.toList, Text.isDigit c = true) ∧
      source.toList.length ≤ digitLimit ∧ number = spelled source.toList := by
  have other {c : Char} (noDigit : Text.looksLikeDigit c = false) : c ∉ source.toList := by
    intro member
    cases noDigit.symm.trans (looks c member)
  have noSign : splitSign source.toList = (false, source.toList) := by
    unfold splitSign
    split
    next same => exact absurd (same ▸ List.mem_cons_self) (other (c := '-') (by decide))
    next same => exact absurd (same ▸ List.mem_cons_self) (other (c := '+') (by decide))
    next => rfl
  have trimmed := Text.trimBlanks_of_noBlank fun c member =>
    Text.isBlank_of_looksLikeDigit (looks c member)
  have taken := takeDigits?_plain (other (c := '_') (by decide))
  simp only [read, trimmed, noSign, taken]
  by_cases all : ∀ c ∈ source.toList, Text.isDigit c = true
  · have whole : source.toList.takeWhile Text.isDigit = source.toList :=
      List.takeWhile_eq_self_iff.mpr all
    have noRest : source.toList.dropWhile Text.isDigit = [] := List.dropWhile_eq_nil_iff.mpr all
    have count := length_values all
    rw [whole, noRest, spelled, and_iff_right all]
    cases values : source.toList.filterMap Text.digitValue? with
    | nil =>
      rw [values, eq_comm, List.length_nil, List.length_eq_zero_iff] at count
      exact absurd count filled
    | cons first others =>
      rw [values] at count
      by_cases tooMany : digitLimit < source.toList.length
      · simp [count, tooMany, Nat.not_le.mpr tooMany]
      · simpa [count, tooMany, Nat.not_lt.mp tooMany] using eq_comm
  · have rest : source.toList.dropWhile Text.isDigit ≠ [] := fun none =>
      all (List.dropWhile_eq_nil_iff.mp none)
    refine iff_of_false ?_ fun read => all read.1
    cases (source.toList.takeWhile Text.isDigit).filterMap Text.digitValue? with
    | nil => simp
    | cons first others =>
      simp only [List.isEmpty_eq_false_iff.mpr rest, Bool.not_false, if_true]
      split <;> exact nofun

/-- Digits spell a number with no more figures than they are. -/
theorem ofDigits_lt {digits : List Nat} (small : ∀ digit ∈ digits, digit < 10) :
    ofDigits digits < 10 ^ digits.length := by
  have fold (start : Nat) :
      digits.foldl (fun n digit => 10 * n + digit) start < (start + 1) * 10 ^ digits.length := by
    induction digits generalizing start with
    | nil =>
      rw [List.foldl_nil, List.length_nil, Nat.pow_zero, Nat.mul_one]
      exact Nat.lt_succ_self start
    | cons first others inductionHypothesis =>
      obtain ⟨firstSmall, othersSmall⟩ := List.forall_mem_cons.mp small
      have room : 10 * start + first + 1 ≤ 10 * (start + 1) := by omega
      calc others.foldl (fun n digit => 10 * n + digit) (10 * start + first)
        _ < (10 * start + first + 1) * 10 ^ others.length := inductionHypothesis othersSmall _
        _ ≤ 10 * (start + 1) * 10 ^ others.length := Nat.mul_le_mul_right _ room
        _ = (start + 1) * 10 ^ (others.length + 1) := by
          rw [Nat.pow_succ, Nat.mul_comm 10 (start + 1), Nat.mul_assoc, Nat.mul_comm 10]
  simpa only [ofDigits, Nat.zero_add, Nat.one_mul] using fold 0

/-- The least size of whole numbers with too many digits to be written. -/
def unwritable : Nat := Nat.pow 10 digitLimit

theorem isWritable_iff (n : Int) : isWritable n = true ↔ n.natAbs < unwritable := by
  unfold isWritable unwritable
  generalize Nat.pow 10 digitLimit = limit
  exact decide_eq_true_iff

/-- A number of 64 bits has far fewer digits than the limit. -/
theorem isWritable_of_lt {n : Int} (small : n.natAbs < Nat.pow 2 63) : isWritable n = true := by
  have digits : Nat.pow 2 63 ≤ 10 ^ 19 := by decide
  have more : 10 ^ 19 ≤ 10 ^ digitLimit := Nat.pow_le_pow_right (by decide) (by decide)
  rw [isWritable_iff]
  unfold unwritable
  generalize digitLimit = limit at more ⊢
  exact small.trans_le (digits.trans more)

/-- What can be read from a row of digits can be written again. -/
theorem isWritable_spelled {row : List Char} (few : row.length ≤ digitLimit) :
    isWritable (spelled row) = true := by
  have small : ∀ digit ∈ row.filterMap Text.digitValue?, digit < 10 := by
    intro digit member
    obtain ⟨c, _, value⟩ := List.mem_filterMap.mp member
    exact Text.digitValue?_lt value
  have count := (List.length_filterMap_le Text.digitValue? row).trans few
  rw [isWritable_iff, Int.natAbs_natCast]
  unfold unwritable
  generalize digitLimit = limit at count ⊢
  exact (ofDigits_lt small).trans_le (Nat.pow_le_pow_right (by decide) count)

end Numeral

end Gamebook
