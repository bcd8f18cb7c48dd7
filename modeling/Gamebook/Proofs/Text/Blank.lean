import Gamebook.Text.Blank
import Mathlib.Data.List.DropRight
import Mathlib.Data.List.TakeWhile

/-!
# Trimmed texts

A text is trimmed exactly when it neither begins nor ends with a blank. Trimming leaves nothing of
a blank text and of no other, so a trimmed text with something in it is not blank.
-/

namespace Gamebook.Text

/-! ## Blanks in front -/

/-- Blanks at the front are dropped. -/
theorem dropBlanks_blanks {front : List Char} (blank : ∀ c ∈ front, isBlank c = true)
    (rest : List Char) : dropBlanks (front ++ rest) = dropBlanks rest :=
  List.dropWhile_append_of_pos blank

/-- Where no blank is in front, none is dropped. -/
theorem dropBlanks_of_head {cs : List Char} (begins : ∀ c ∈ cs.head?, isBlank c = false) :
    dropBlanks cs = cs := by
  cases cs with
  | nil => rfl
  | cons c rest => exact List.dropWhile_cons_of_neg (Bool.eq_false_iff.mp (begins c rfl))

theorem head?_dropBlanks (cs : List Char) : ∀ c ∈ (dropBlanks cs).head?, isBlank c = false := by
  intro c isFirst
  have first := List.head?_dropWhile_not isBlank cs
  rw [dropBlanks] at isFirst
  rwa [Option.mem_def.mp isFirst] at first

/-- Characters are the blanks that are dropped and what is left. -/
theorem exists_blanks (cs : List Char) :
    ∃ front, (∀ c ∈ front, isBlank c = true) ∧ cs = front ++ dropBlanks cs :=
  ⟨cs.takeWhile isBlank, fun _ member => List.mem_takeWhile_imp member,
    List.takeWhile_append_dropWhile.symm⟩

/-! ## Blanks at both ends -/

theorem head?_trimBlanks (cs : List Char) : ∀ c ∈ (trimBlanks cs).head?, isBlank c = false := by
  intro c isFirst
  obtain ⟨gone, split⟩ : trimBlanks cs <+: dropBlanks cs := List.rdropWhile_prefix isBlank _
  refine head?_dropBlanks cs c ?_
  rw [← split, Option.mem_def, List.head?_append, Option.mem_def.mp isFirst, Option.some_or]

theorem getLast?_trimBlanks (cs : List Char) :
    ∀ c ∈ (trimBlanks cs).getLast?, isBlank c = false := by
  intro c isLast
  rw [trimBlanks, dropTrailingBlanks, List.getLast?_reverse] at isLast
  exact head?_dropBlanks _ c isLast

/-- Characters are trimmed exactly when they neither begin nor end with a blank. -/
theorem trimBlanks_eq_self_iff (cs : List Char) :
    trimBlanks cs = cs ↔
      (∀ c ∈ cs.head?, isBlank c = false) ∧ ∀ c ∈ cs.getLast?, isBlank c = false := by
  constructor
  · intro trimmed
    exact ⟨trimmed ▸ head?_trimBlanks cs, trimmed ▸ getLast?_trimBlanks cs⟩
  · rintro ⟨begins, ends⟩
    rw [← List.head?_reverse] at ends
    rw [trimBlanks, dropBlanks_of_head begins, dropTrailingBlanks, dropBlanks_of_head ends,
      List.reverse_reverse]

theorem trimBlanks_trimBlanks (cs : List Char) : trimBlanks (trimBlanks cs) = trimBlanks cs :=
  (trimBlanks_eq_self_iff _).mpr ⟨head?_trimBlanks cs, getLast?_trimBlanks cs⟩

theorem trim_trim (text : String) : trim (trim text) = trim text := by
  rw [trim, trim, String.toList_ofList, trimBlanks_trimBlanks]

/-- Trimming leaves nothing exactly of a blank text. -/
theorem isEmpty_trim (text : String) : (trim text).isEmpty = isAllBlank text := by
  have nothing : trimBlanks text.toList = [] ↔ ∀ c ∈ text.toList, isBlank c = true := by
    rw [trimBlanks, dropTrailingBlanks, List.reverse_eq_nil_iff, dropBlanks,
      List.dropWhile_eq_nil_iff]
    refine ⟨fun blank c member => ?_, fun blank c member => ?_⟩
    · rw [← List.takeWhile_append_dropWhile (p := isBlank) (l := text.toList)] at member
      rcases List.mem_append.mp member with front | rest
      · exact List.mem_takeWhile_imp front
      · exact blank c (List.mem_reverse.mpr rest)
    · exact blank c ((List.dropWhile_sublist _).mem (List.mem_reverse.mp member))
  rw [Bool.eq_iff_iff, String.isEmpty_iff, trim, String.ofList_eq_empty_iff, nothing, isAllBlank,
    List.all_eq_true]

/-- A trimmed text is blank only when it is empty. -/
theorem isAllBlank_of_trimmed {text : String} (trimmed : trim text = text) :
    isAllBlank text = text.isEmpty := by
  rw [← isEmpty_trim, trimmed]

end Gamebook.Text
