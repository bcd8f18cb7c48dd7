import Gamebook.Text.Half

/-!
# Characters without halves

A text holds no half exactly when none of its characters carries one. Halves are carried by
characters of the last plane, so what is written with the first characters alone has none.
-/

namespace Gamebook.Text

/-- No character carries a half. -/
def Whole (cs : List Char) : Prop := ∀ c ∈ cs, isHalf c = false

instance (cs : List Char) : Decidable (Whole cs) := List.decidableBAll _ cs

theorem holdsHalf_eq_false_iff (s : String) : holdsHalf s = false ↔ Whole s.toList := by
  simp [holdsHalf, Whole]

theorem whole_nil : Whole [] := nofun

theorem whole_cons {c : Char} {cs : List Char} (here : isHalf c = false) (there : Whole cs) :
    Whole (c :: cs) := List.forall_mem_cons.mpr ⟨here, there⟩

theorem whole_append {cs ds : List Char} (left : Whole cs) (right : Whole ds) :
    Whole (cs ++ ds) := List.forall_mem_append.mpr ⟨left, right⟩

/-- The characters that carry halves lie far beyond the first ones. -/
theorem isHalf_of_small {c : Char} (small : c.toNat < halfPlace) : isHalf c = false := by
  unfold isHalf half?
  rw [if_neg (by simp; omega)]
  rfl

theorem whole_digits {cs : List Char} (digits : ∀ c ∈ cs, c.isDigit = true) : Whole cs := by
  intro c member
  have bounds : c.val ≥ 48 ∧ c.val ≤ 57 := by simpa [Char.isDigit] using digits c member
  exact isHalf_of_small (Nat.lt_of_le_of_lt (UInt32.le_iff_toNat_le.mp bounds.2) (by decide))

/-! ## Characters of documents -/

/-- Whether a character is neither a control, except for the feed, nor a half. -/
def isPrinted (c : Char) : Bool := (c == '\n' || 0x20 ≤ c.toNat) && !isHalf c

/-- No character is a control, except for feeds, and none carries a half. -/
def Printed (cs : List Char) : Prop := ∀ c ∈ cs, isPrinted c = true

theorem isPrinted_iff (c : Char) :
    isPrinted c = true ↔ (c = '\n' ∨ 0x20 ≤ c.toNat) ∧ isHalf c = false := by
  simp [isPrinted]

theorem Printed.whole {cs : List Char} (printed : Printed cs) : Whole cs :=
  fun c member => ((isPrinted_iff c).mp (printed c member)).2

theorem printed_nil : Printed [] := nofun

theorem printed_cons {c : Char} {cs : List Char} (here : isPrinted c = true)
    (there : Printed cs) : Printed (c :: cs) := List.forall_mem_cons.mpr ⟨here, there⟩

theorem printed_append {cs ds : List Char} (left : Printed cs) (right : Printed ds) :
    Printed (cs ++ ds) := List.forall_mem_append.mpr ⟨left, right⟩

theorem printed_replicate (count : Nat) {c : Char} (here : isPrinted c = true) :
    Printed (List.replicate count c) := by
  intro d member
  rw [List.eq_of_mem_replicate member]
  exact here

theorem printed_of_first {cs : List Char}
    (first : cs.all (fun c => 0x20 ≤ c.toNat && c.toNat < 128) = true) : Printed cs := by
  intro c member
  have bounds : 0x20 ≤ c.toNat ∧ c.toNat < 128 := by
    simpa using List.all_eq_true.mp first c member
  exact (isPrinted_iff c).mpr ⟨.inr bounds.1, isHalf_of_small (Nat.lt_trans bounds.2 (by decide))⟩

theorem printed_digits {cs : List Char} (digits : ∀ c ∈ cs, c.isDigit = true) : Printed cs := by
  intro c member
  have bounds : c.val ≥ 48 ∧ c.val ≤ 57 := by simpa [Char.isDigit] using digits c member
  have least : 48 ≤ c.toNat := UInt32.le_iff_toNat_le.mp bounds.1
  exact (isPrinted_iff c).mpr ⟨.inr (Nat.le_trans (by decide) least), whole_digits digits c member⟩

end Gamebook.Text
