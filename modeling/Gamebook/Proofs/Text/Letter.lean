import Gamebook.Text.Blank
import Gamebook.Text.Letter
import Mathlib.Data.List.Basic

/-!
# Letters in lower case

The plain letters are lowered one by one, whatever stands around them, and no other character comes
out as a mark that is its own lower case.
-/

namespace Gamebook.Text

theorem isUpper_iff {c : Char} : c.isUpper = true ↔ 'A'.val ≤ c.val ∧ c.val ≤ 'Z'.val :=
  decide_eq_true_iff

theorem isLower_iff {c : Char} : c.isLower = true ↔ 'a'.val ≤ c.val ∧ c.val ≤ 'z'.val := by
  change (decide (c.val ≥ 'a'.val) && decide (c.val ≤ 'z'.val)) = true ↔ _
  rw [Bool.and_eq_true, decide_eq_true_iff, decide_eq_true_iff]

theorem toLower_of_not_isUpper {c : Char} (noUpper : c.isUpper = false) : c.toLower = c := by
  refine dif_neg fun isUpper => ?_
  cases noUpper.symm.trans (isUpper_iff.mpr isUpper)

theorem val_toLower {c : Char} (isUpper : c.isUpper = true) : c.toLower.val = c.val + 32 := by
  have lowered : c.toLower = ⟨c.val + 32, _⟩ := dif_pos (isUpper_iff.mp isUpper)
  rw [lowered]

/-- Characters with a letter for their lower case are letters. -/
theorem isAlpha_of_toLower {c : Char} (alpha : c.toLower.isAlpha = true) : c.isAlpha = true := by
  cases isUpper : c.isUpper with
  | true => exact Bool.or_eq_true_iff.mpr (.inl isUpper)
  | false => rwa [toLower_of_not_isUpper isUpper] at alpha

theorem isBlank_of_isAlpha {c : Char} (alpha : c.isAlpha = true) : isBlank c = false := by
  have bounds : 33 ≤ c.toNat ∧ c.toNat < 0x85 := by
    rcases Bool.or_eq_true_iff.mp alpha with isUpper | isLower
    · have between : 65 ≤ c.toNat ∧ c.toNat ≤ 90 := isUpper_iff.mp isUpper
      omega
    · have between : 97 ≤ c.toNat ∧ c.toNat ≤ 122 := isLower_iff.mp isLower
      omega
  simp only [isBlank, Bool.or_eq_false_iff, Bool.and_eq_false_iff, decide_eq_false_iff_not,
    beq_eq_false_iff_ne]
  omega

/-- The forms in lower case of characters below the first 128 do not depend on their place. -/
theorem lowerAfter_append {front : List Char} (small : ∀ c ∈ front, c.toNat < 0x80)
    (before rest : List Char) :
    lowerAfter before (front ++ rest) =
      front.map Char.toLower ++ lowerAfter (front.reverse ++ before) rest := by
  induction front generalizing before with
  | nil => rfl
  | cons c front inductionHypothesis =>
    obtain ⟨here, there⟩ := List.forall_mem_cons.mp small
    have noSigma : ¬c.toNat = 0x3A3 := by omega
    simp [lowerAfter, lowerCharacter, here, noSigma, inductionHypothesis there]

/-! ## Colons -/

theorem eq_colon_of_toLower {c : Char} (lowered : c.toLower = ':') : c = ':' := by
  cases isUpper : c.isUpper with
  | false => rwa [toLower_of_not_isUpper isUpper] at lowered
  | true =>
    have sum : (c.val + 32).toNat = 58 := by rw [← val_toLower isUpper, lowered]; rfl
    have between : 65 ≤ c.val.toNat ∧ c.val.toNat ≤ 90 := isUpper_iff.mp isUpper
    have noCarry : (c.val + 32).toNat = (c.val.toNat + 32) % 2 ^ 32 := UInt32.toNat_add _ _
    omega

theorem eq_of_ofNat_colon {n : Nat} (same : Char.ofNat n = ':') : n = 0x3A := by
  by_cases isValid : n.isValidChar
  · have made : Char.ofNat n = Char.ofNatAux n isValid := dif_pos isValid
    exact congrArg Char.toNat (made.symm.trans same)
  · have made : Char.ofNat n = Char.ofNat 0 := dif_neg isValid
    exact absurd (made.symm.trans same) (by decide)

/-- Every run is lowered to characters above the colon. -/
theorem eq_colon_of_shiftCase {c : Char} (lowered : shiftCase loweringRuns c = ':') : c = ':' := by
  have above : ∀ run ∈ loweringRuns, 0x3A < run.first + run.distance := by decide +kernel
  rw [shiftCase] at lowered
  split at lowered
  next run found =>
    have far := above run (List.mem_of_find?_eq_some found)
    have holds := List.find?_some found
    simp only [CaseRun.holds, Bool.and_eq_true, decide_eq_true_eq] at holds
    have same := eq_of_ofNat_colon lowered
    omega
  next => exact lowered

theorem eq_colon_of_lowerCharacter {c : Char} (member : ':' ∈ lowerCharacter c) : c = ':' := by
  rw [lowerCharacter] at member
  split at member
  next => exact eq_colon_of_toLower (List.mem_singleton.mp member).symm
  next =>
    split at member
    next => exact absurd member (by decide)
    next => exact eq_colon_of_shiftCase (List.mem_singleton.mp member).symm

theorem mem_of_colon_lowerAfter {before cs : List Char} (member : ':' ∈ lowerAfter before cs) :
    ':' ∈ cs := by
  induction cs generalizing before with
  | nil => exact member
  | cons c rest inductionHypothesis =>
    rw [lowerAfter] at member
    rcases List.mem_append.mp member with here | later
    · split at here
      next =>
        -- neither form of the sigma is a colon
        have other := List.mem_singleton.mp here
        split at other <;> exact absurd other (by decide)
      next => exact eq_colon_of_lowerCharacter here ▸ List.mem_cons_self
    · exact List.mem_cons_of_mem _ (inductionHypothesis later)

/-- A colon in the lower case of a text is a colon of the text. -/
theorem mem_of_colon_lower {text : String} (member : ':' ∈ (lower text).toList) :
    ':' ∈ text.toList := by
  rw [lower, String.toList_ofList] at member
  exact mem_of_colon_lowerAfter member

end Gamebook.Text
