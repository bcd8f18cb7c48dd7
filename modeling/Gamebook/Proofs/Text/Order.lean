import Gamebook.Entries
import Gamebook.Proofs.Text.Half

/-!
# Texts in order

Texts are compared by the numbers of their characters, and different characters have different
numbers, so the order is total and two texts that stand at each other are one. Sorting therefore
gives one list for all orders of the same texts, and a sorted set is the only list of its
texts that is in order and names none twice.
-/

namespace Gamebook

namespace Text

theorem number_eq (c : Char) :
    number c = if halfPlace ≤ c.toNat ∧ c.toNat < halfPlace + 0x800
      then c.toNat - halfPlace + 0xD800 else c.toNat := by
  unfold number half?
  by_cases carries : halfPlace ≤ c.toNat ∧ c.toNat < halfPlace + 0x800
  · simp [carries]
  · rw [if_neg carries, if_neg (by simpa using carries)]
    rfl

/-- Different characters have different numbers: no character has the number of a half. -/
theorem number_injective {c d : Char} (same : number c = number d) : c = d := by
  have validC : c.toNat < 0xD800 ∨ 0xDFFF < c.toNat ∧ c.toNat < 0x110000 := c.valid
  have validD : d.toNat < 0xD800 ∨ 0xDFFF < d.toNat ∧ d.toNat < 0x110000 := d.valid
  have place : halfPlace = 0x10F000 := rfl
  apply Char.toNat_inj.mp
  rw [number_eq, number_eq] at same
  split at same <;> split at same <;> omega

end Text

/-- One text stands before or at another when its numbers do not stand behind. -/
theorem textAtMost_iff (a b : String) :
    textAtMost a b = true ↔ ¬b.toList.map Text.number < a.toList.map Text.number := by
  rw [textAtMost, Bool.not_eq_true', decide_eq_false_iff_not]

theorem textAtMost_total (a b : String) : (textAtMost a b || textAtMost b a) = true := by
  rw [Bool.or_eq_true, textAtMost_iff, textAtMost_iff, List.not_lt, List.not_lt]
  exact List.le_total _ _

theorem textAtMost_trans (a b c : String) (first : textAtMost a b = true)
    (second : textAtMost b c = true) : textAtMost a c = true := by
  rw [textAtMost_iff, List.not_lt] at first second ⊢
  exact List.le_trans first second

theorem textAtMost_antisymm {a b : String} (first : textAtMost a b = true)
    (second : textAtMost b a = true) : a = b := by
  rw [textAtMost_iff, List.not_lt] at first second
  have numbers := List.le_antisymm first second
  exact String.toList_inj.mp
    ((List.map_inj_right fun _ _ same => Text.number_injective same).mp numbers)

/-! ## Sorting -/

theorem sortTexts_perm (texts : List String) : (sortTexts texts).Perm texts :=
  List.mergeSort_perm texts textAtMost

theorem mem_sortTexts (text : String) (texts : List String) :
    text ∈ sortTexts texts ↔ text ∈ texts := (sortTexts_perm texts).mem_iff

theorem sortTexts_ordered (texts : List String) :
    (sortTexts texts).Pairwise fun a b => textAtMost a b = true :=
  List.pairwise_mergeSort textAtMost_trans textAtMost_total texts

/-- The same texts are sorted into the same list. -/
theorem sortTexts_congr {texts others : List String} (perm : texts.Perm others) :
    sortTexts texts = sortTexts others :=
  List.Perm.eq_of_pairwise (fun _ _ _ _ => textAtMost_antisymm) (sortTexts_ordered texts)
    (sortTexts_ordered others)
    ((sortTexts_perm texts).trans (perm.trans (sortTexts_perm others).symm))

/-! ## Sorted sets -/

theorem eraseDups_nodup (texts : List String) : texts.eraseDups.Nodup := by
  match texts with
  | [] => exact List.nodup_nil
  | text :: rest =>
    rw [List.eraseDups_cons, List.nodup_cons]
    constructor
    · intro again
      exact absurd (List.mem_eraseDups.mp again) (by simp)
    · exact eraseDups_nodup (rest.filter fun other => !other == text)
termination_by texts.length
decreasing_by exact Nat.lt_succ_of_le (List.length_filter_le _ _)

theorem mem_sortedSet (texts : List String) (text : String) :
    text ∈ sortedSet texts ↔ text ∈ texts := by
  rw [sortedSet, mem_sortTexts, List.mem_eraseDups]

theorem sortedSet_perm (texts : List String) : (sortedSet texts).Perm texts.eraseDups :=
  sortTexts_perm texts.eraseDups

theorem sortedSet_nodup (texts : List String) : (sortedSet texts).Nodup :=
  (sortedSet_perm texts).nodup_iff.mpr (eraseDups_nodup texts)

/-- Each text stands before the next, so none comes twice. -/
def Increasing (texts : List String) : Prop :=
  texts.Pairwise fun a b => a.toList.map Text.number < b.toList.map Text.number

theorem sortedSet_increasing (texts : List String) : Increasing (sortedSet texts) := by
  refine ((sortTexts_ordered _).and (sortedSet_nodup texts)).imp fun {a b} both => ?_
  exact Decidable.byContradiction fun notBefore =>
    both.2 (textAtMost_antisymm both.1 ((textAtMost_iff b a).mpr notBefore))

/-- Texts none of which comes twice are sorted into the sorted set of any list with the same
texts. -/
theorem sortTexts_eq_sortedSet {texts others : List String} (distinct : texts.Nodup)
    (same : ∀ text, text ∈ texts ↔ text ∈ others) : sortTexts texts = sortedSet others := by
  apply sortTexts_congr
  rw [List.perm_ext_iff_of_nodup distinct (eraseDups_nodup others)]
  intro text
  rw [List.mem_eraseDups, same]

end Gamebook
