import Gamebook.Disk.Path
import Gamebook.Proofs.Text.Line

/-!
# Spellings of paths

A path is spelled with the characters of its start and of its names, and with slashes.
-/

namespace Gamebook.Disk.Path

/-- The spelling of a path that has names. -/
theorem text_eq {path : Path} (named : path.names ≠ []) :
    path.text = path.anchor.text ++ String.intercalate "/" path.names := by
  obtain ⟨anchor, names⟩ := path
  cases names with
  | nil => exact absurd rfl named
  | cons name rest => cases anchor <;> rfl

/-- The start of a path is part of its spelling. -/
theorem mem_anchor {path : Path} {c : Char} (member : c ∈ path.anchor.text.toList) :
    c ∈ path.text.toList := by
  obtain ⟨anchor, names⟩ := path
  cases anchor with
  | here => exact absurd member List.not_mem_nil
  | root => exact String.toList_append ▸ List.mem_append_left _ member
  | doubleRoot => exact String.toList_append ▸ List.mem_append_left _ member

theorem mem_name {path : Path} {name : String} (isName : name ∈ path.names) {c : Char}
    (member : c ∈ name.toList) : c ∈ path.text.toList := by
  rw [text_eq (List.ne_nil_of_mem isName), String.toList_append, String.toList_intercalate]
  exact List.mem_append_right _
    (Text.mem_intercalate_of_mem _ (List.mem_map_of_mem isName) member)

/-- A path is spelled with dots, slashes and the characters of its names. -/
theorem mem_text {path : Path} {c : Char} (member : c ∈ path.text.toList) :
    c = '.' ∨ c = '/' ∨ ∃ name ∈ path.names, c ∈ name.toList := by
  have ofAnchor {anchor : Anchor} (start : c ∈ anchor.text.toList) : c = '/' := by
    cases anchor <;> simp_all [Anchor.text]
  by_cases named : path.names = []
  · obtain ⟨anchor, names⟩ := path
    obtain rfl : names = [] := named
    cases anchor with
    | here => exact .inl (by simpa [text] using member)
    | root => exact .inr (.inl (by simpa [text, Anchor.text, String.intercalate] using member))
    | doubleRoot =>
      exact .inr (.inl (by simpa [text, Anchor.text, String.intercalate] using member))
  · rw [text_eq named, String.toList_append, String.toList_intercalate] at member
    rcases List.mem_append.mp member with start | later
    · exact .inr (.inl (ofAnchor start))
    · rcases Text.mem_intercalate later with slash | ⟨piece, isPiece, inPiece⟩
      · exact .inr (.inl (List.mem_singleton.mp slash))
      · obtain ⟨name, isName, rfl⟩ := List.mem_map.mp isPiece
        exact .inr (.inr ⟨name, isName, inPiece⟩)

/-- The path of an entry is spelled with the characters of the path and of the name, and with
slashes. -/
theorem mem_child {path : Path} {name : String} {c : Char}
    (member : c ∈ (path.child name).text.toList) :
    c ∈ path.text.toList ∨ c = '/' ∨ c ∈ name.toList := by
  have spelled : (path.child name).text =
      path.anchor.text ++ String.intercalate "/" (path.names ++ [name]) :=
    text_eq (by simp [child])
  rw [spelled, String.toList_append, String.toList_intercalate] at member
  rcases List.mem_append.mp member with start | later
  · exact .inl (mem_anchor start)
  · rcases Text.mem_intercalate later with slash | ⟨piece, isPiece, inPiece⟩
    · exact .inr (.inl (List.mem_singleton.mp slash))
    · obtain ⟨step, isStep, rfl⟩ := List.mem_map.mp isPiece
      rcases List.mem_append.mp isStep with before | last
      · exact .inl (mem_name before inPiece)
      · exact .inr (.inr (List.mem_singleton.mp last ▸ inPiece))

end Gamebook.Disk.Path
