import Gamebook.Archive
import Gamebook.Proofs.Json.RoundTrip
import Gamebook.Proofs.Json.Whole
import Gamebook.Proofs.Story.Moment
import Gamebook.Proofs.Text.Line
import Gamebook.Proofs.Text.Utf8

/-!
# Documents in envelopes

A value can be kept when it is portable, has distinct names and nests less deep than a reader of
stored documents allows with the envelope around it. Such a value is written with any layout,
and taking what was written out of its envelope gives the value: from the text, as it is kept
in memory, and from its bytes, as they are kept in a file. Infinite and undefined numbers can
be kept.
-/

namespace Gamebook.Archive

/-- A value that is the same after it was kept. -/
structure Keepable (value : Value) : Prop where
  portable : value.Portable
  distinct : value.Distinct
  shallow : value.nesting < Json.Dialect.stored.depthLimit

theorem unwrap_wrap (key : String) (now : Moment) (value : Value) :
    unwrap key (wrap now value) = .ok value := rfl

section Wrapped

variable {value : Value} (now : Moment)

theorem wrap_portable (portable : value.Portable) : (wrap now value).Portable := by
  have names : ∀ name ∈ ["version", "updated", "data"], Text.holdsHalf name = false := by
    decide +kernel
  have moment := (Value.portable_text_iff _).mpr (Moment.whole_offsetStyleText now)
  have number : (Value.text version).Portable := by decide +kernel
  rw [wrap, Value.portable_object_iff]
  simp only [List.forall_mem_cons] at names ⊢
  exact ⟨⟨names.1, number⟩, ⟨names.2.1, moment⟩, ⟨names.2.2.1, portable⟩,
    List.forall_mem_nil _⟩

theorem wrap_distinct (distinct : value.Distinct) : (wrap now value).Distinct := by
  refine ⟨by simp, (Value.distinctMembers_iff _).mpr ?_⟩
  simp only [List.forall_mem_cons]
  exact ⟨trivial, trivial, distinct, List.forall_mem_nil _⟩

theorem wrap_nesting (value : Value) : (wrap now value).nesting = value.nesting + 1 := by
  simp [wrap, Value.nesting, Value.membersNesting]

end Wrapped

/-- The text that a value is kept as. -/
def documentText (layout : Json.Layout) (now : Moment) (value : Value) : String :=
  String.ofList (Json.render layout 0 (wrap now value))

namespace Keepable

variable {value : Value} (keepable : Keepable value) (layout : Json.Layout) (now : Moment)

include keepable

/-- A value that can be kept is written. -/
theorem print_eq : Json.print layout (wrap now value) = .ok (documentText layout now value) := by
  rw [Json.print, (wrap_portable now keepable.portable).fault?_eq_none]
  rfl

/-- What was written is read as the envelope. -/
theorem read_eq : Json.read .stored (documentText layout now value) = .ok (wrap now value) := by
  apply Json.read_render
  · exact wrap_portable now keepable.portable
  · exact wrap_distinct now keepable.distinct
  · rw [wrap_nesting]
    exact keepable.shallow

/-- What is written holds no half and no return. -/
theorem printed : Text.Printed (documentText layout now value).toList := by
  rw [documentText, String.toList_ofList]
  exact Json.printed_render (wrap_portable now keepable.portable) 0

/-- The bytes of what was written are read as the envelope. -/
theorem parse_eq (path : Disk.Path) :
    Folder.parse path (documentText layout now value).toUTF8 = .ok (wrap now value) := by
  have printed := keepable.printed layout now
  have noReturn : '\r' ∉ (documentText layout now value).toList := by
    intro isReturn
    exact absurd (printed _ isReturn) (by decide)
  have read := keepable.read_eq layout now
  rw [Json.read] at read
  simp only [Folder.parse, Text.decodeUtf8_toUTF8, Text.unifyReturns_eq noReturn, read]

end Keepable

end Gamebook.Archive
