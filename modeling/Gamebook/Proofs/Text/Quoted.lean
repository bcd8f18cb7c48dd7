import Gamebook.Proofs.Text.Half
import Gamebook.Text.Quoted

/-!
# Quoted texts have no halves

A half does not show, so between quotes it is written by its number. So a quoted text has an
encoding, whatever text it was.
-/

namespace Gamebook.Text

/-- No printable character carries a half: the runs of the printable ones end before the halves
begin. -/
theorem isHalf_of_printable {c : Char} (printable : isPrintable c = true) : isHalf c = false := by
  have runs : ∀ run ∈ printableRuns, run.2 < halfPlace := by decide +kernel
  apply isHalf_of_small
  unfold isPrintable at printable
  split at printable
  next first => exact Nat.lt_trans first (by decide)
  next =>
    obtain ⟨⟨first, last⟩, isRun, inside⟩ := List.any_eq_true.mp printable
    have atMost : c.toNat ≤ last := by simpa using (Bool.and_eq_true_iff.mp inside).2
    exact Nat.lt_of_le_of_lt atMost (runs _ isRun)

theorem whole_hexDigits (width n : Nat) : Whole (hexDigits width n) := by
  have digit : ∀ m < 16, isHalf (Nat.digitChar m) = false := by decide
  induction width generalizing n with
  | zero => exact whole_nil
  | succ width inductionHypothesis =>
    exact whole_append (inductionHypothesis _)
      (whole_cons (digit _ (Nat.mod_lt n (by decide))) whole_nil)

theorem whole_quotedCharacter {quote : Char} (wholeQuote : isHalf quote = false) (c : Char) :
    Whole (quotedCharacter quote c) := by
  have escaped {d : Char} (here : isHalf d = false) {cs : List Char} (there : Whole cs) :
      Whole ('\\' :: d :: cs) := whole_cons (by decide) (whole_cons here there)
  unfold quotedCharacter
  split
  next signs =>
    have here : isHalf c = false := by
      rcases Bool.or_eq_true_iff.mp signs with isQuote | isBackslash
      · rw [of_decide_eq_true isQuote, wholeQuote]
      · rw [of_decide_eq_true isBackslash]
        decide
    exact escaped here whole_nil
  dsimp only
  repeat' split
  all_goals first
    | exact whole_cons (isHalf_of_printable ‹_›) whole_nil
    | exact escaped rfl whole_nil
    | exact escaped rfl (whole_hexDigits _ _)

/-- A quoted text has an encoding. -/
theorem quoted_whole (text : String) : holdsHalf (quoted text) = false := by
  have wholeQuote : isHalf (quoteFor text.toList) = false := by
    unfold quoteFor
    split <;> decide
  rw [holdsHalf_eq_false_iff, quoted, String.toList_ofList]
  refine whole_append (whole_cons wholeQuote fun c member => ?_) (whole_cons wholeQuote whole_nil)
  obtain ⟨given, -, written⟩ := List.mem_flatMap.mp member
  exact whole_quotedCharacter wholeQuote given c written

end Gamebook.Text
