import Gamebook.Proofs.Json.Float
import Gamebook.Proofs.Json.Parts
import Gamebook.Proofs.Text.Half

/-!
# Characters of documents

What is written for a value whose texts have no halves has none either, and no control but the
feed between its lines: everything but the characters of its texts is written with the first
128 characters, and controls in a text are escaped. So such a document can be encoded, and a
reader that takes returns for feeds reads it as it is.
-/

namespace Gamebook.Json

open Text (isPrinted Printed printed_nil printed_cons printed_append printed_replicate
  printed_of_first printed_digits)

/-! ## Numbers -/

theorem printed_sign (negative : Bool) : Printed (signCharacters negative) := by
  cases negative with
  | false => exact printed_nil
  | true => exact printed_cons rfl printed_nil

theorem printed_characters {parts : NumberParts} (wellFormed : parts.WellFormed)
    (rest : Printed parts.rest) : Printed parts.characters := by
  obtain ⟨whole, fraction, exponent, rest⟩ := parts
  refine printed_append (printed_digits wellFormed.whole.2)
    (printed_append ?_ (printed_append ?_ rest))
  · cases fraction with
    | none => exact printed_nil
    | some places => exact printed_cons rfl (printed_digits (wellFormed.fraction places rfl).2)
  · rcases exponent with _ | ⟨negative, size⟩
    · exact printed_nil
    · have figures := printed_digits (wellFormed.exponent negative size rfl).2
      cases negative
      · exact printed_cons rfl (printed_cons rfl figures)
      · exact printed_cons rfl (printed_cons rfl figures)

theorem printed_writeFloat (x : Binary64) : Printed (writeFloat x) := by
  cases x with
  | nan => exact printed_of_first rfl
  | infinity negative => cases negative <;> exact printed_of_first rfl
  | finite negative units representable =>
    obtain ⟨parts, characters, wellFormed, -, noRest, -⟩ :=
      magnitudeText_characters representable [] nofun
    rw [List.append_nil] at characters
    have magnitude := printed_characters wellFormed (noRest ▸ printed_nil)
    have written : writeFloat (.finite negative units representable) =
        signCharacters negative ++ parts.characters := by
      rw [← characters]
      cases negative <;> simp [writeFloat, Decimal.text, signCharacters]
    rw [written]
    exact printed_append (printed_sign negative) magnitude

/-! ## Texts -/

theorem printed_numbered (n : Nat) : Printed (numbered n) := by
  have digit (m : Nat) : isPrinted (Nat.digitChar (m % 16)) = true := by
    have small : m % 16 < 16 := Nat.mod_lt m (by decide)
    revert small
    generalize m % 16 = k
    revert k
    decide
  exact printed_cons rfl (printed_cons rfl (printed_cons (digit _) (printed_cons (digit _)
    (printed_cons (digit _) (printed_cons (digit _) printed_nil)))))

theorem printed_escaped (plain : Bool) {c : Char} (here : Text.isHalf c = false) :
    Printed (escaped plain c) := by
  have letter {d : Char} (isLetter : isPrinted d = true) : Printed ['\\', d] :=
    printed_cons rfl (printed_cons isLetter printed_nil)
  have itself (noControl : ¬c.toNat < 0x20) : Printed [c] :=
    printed_cons ((Text.isPrinted_iff c).mpr ⟨.inr (Nat.le_of_not_lt noControl), here⟩) printed_nil
  unfold escaped
  repeat' split
  all_goals first
    | exact letter rfl
    | exact printed_numbered _
    | exact itself ‹_›
    | exact printed_append (printed_numbered _) (printed_numbered _)

theorem printed_writeText (plain : Bool) {s : String} (whole : Text.holdsHalf s = false) :
    Printed (writeText plain s) := by
  have characters : Text.Whole s.toList := (Text.holdsHalf_eq_false_iff s).mp whole
  refine printed_append (printed_cons rfl ?_) (printed_cons rfl printed_nil)
  intro d member
  obtain ⟨c, isCharacter, written⟩ := List.mem_flatMap.mp member
  exact printed_escaped plain (characters c isCharacter) d written

/-! ## Values -/

section Values

variable {layout : Layout}

theorem printed_lineGap (level : Nat) : Printed (lineGap layout level) := by
  unfold lineGap
  split
  next => exact printed_nil
  next => exact printed_cons rfl (printed_replicate _ rfl)

theorem printed_separator (level : Nat) : Printed (separator layout level) := by
  unfold separator
  split
  next => exact printed_cons rfl (printed_cons rfl printed_nil)
  next => exact printed_cons rfl (printed_lineGap level)

theorem printed_renderItems (level : Nat) {items : List Value}
    (each : ∀ item ∈ items, Printed (render layout level item)) :
    Printed (renderItems layout level items) := by
  induction items with
  | nil => exact printed_nil
  | cons item rest inductionHypothesis =>
    obtain ⟨here, there⟩ := List.forall_mem_cons.mp each
    exact printed_append (printed_append (printed_separator level) here) (inductionHypothesis there)

theorem printed_renderMembers (level : Nat) {members : List (String × Value)}
    (each : ∀ member ∈ members, Text.holdsHalf member.1 = false ∧
      Printed (render layout level member.2)) :
    Printed (renderMembers layout level members) := by
  induction members with
  | nil => exact printed_nil
  | cons member rest inductionHypothesis =>
    obtain ⟨⟨name, here⟩, there⟩ := List.forall_mem_cons.mp each
    exact printed_append (printed_append (printed_append (printed_append (printed_separator level)
      (printed_writeText _ name)) (printed_of_first rfl)) here) (inductionHypothesis there)

/-- What is written for a portable value has no halves, and no control but the feed. -/
theorem printed_render {value : Value} (portable : value.Portable) (level : Nat) :
    Printed (render layout level value) := by
  induction value using Value.partsInduction generalizing level with
  | null => exact printed_of_first rfl
  | bool b => cases b <;> exact printed_of_first rfl
  | int n =>
    rw [render, toList_text]
    exact printed_append (printed_sign _) (printed_digits (toDigits_figures _))
  | float x => exact printed_writeFloat x
  | text s => exact printed_writeText _ portable
  | list items inductionHypothesis =>
    rw [Value.portable_list_iff] at portable
    cases items with
    | nil => exact printed_of_first rfl
    | cons item items =>
      obtain ⟨here, there⟩ := List.forall_mem_cons.mp fun part member =>
        inductionHypothesis part member (portable part member) (level + 1)
      exact printed_append (printed_append (printed_append (printed_append
        (printed_cons rfl (printed_lineGap _)) here) (printed_renderItems _ there))
        (printed_lineGap level)) (printed_of_first rfl)
  | object members inductionHypothesis =>
    rw [Value.portable_object_iff] at portable
    cases members with
    | nil => exact printed_of_first rfl
    | cons member members =>
      obtain ⟨⟨name, here⟩, there⟩ := List.forall_mem_cons.mp fun part isPart =>
        And.intro (portable part isPart).1
          (inductionHypothesis part isPart (portable part isPart).2 (level + 1))
      refine printed_append (printed_append (printed_append ?_ (printed_renderMembers _ there))
        (printed_lineGap level)) (printed_of_first rfl)
      exact printed_append (printed_append (printed_append (printed_cons rfl (printed_lineGap _))
        (printed_writeText _ name)) (printed_of_first rfl)) here
  | foreign => cases portable

/-- What is written for a portable value has no halves. -/
theorem whole_render {value : Value} (portable : value.Portable) (level : Nat) :
    Text.Whole (render layout level value) := (printed_render portable level).whole

end Values

end Gamebook.Json
