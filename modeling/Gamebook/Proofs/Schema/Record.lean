import Gamebook.Proofs.Json.Distinct
import Gamebook.Proofs.Story.Schema
import Gamebook.Schema.Checked

/-!
# Reading what a record was written with

In a record whose members have distinct names every field that is a member is found under its
document name. A field that is there is read from its value, whether it may be missing or not,
and a record with the members of its fields alone has no extra ones. Lists and tables are
read part by part.
-/

namespace Gamebook.Schema

variable {α : Type}

/-! ## Fields -/

section Fields

variable {members : Entries Value} (distinct : members.keys.Nodup)

include distinct

/-- Where names are distinct, the last member with a name is the one that is there. -/
theorem last?_of_mem {name : String} {value : Value} (member : (name, value) ∈ members) :
    members.last? name = some value := by
  refine Entries.get?_of_mem ?_ (List.mem_reverse.mpr member)
  rw [Entries.keys, List.map_reverse]
  exact List.pairwise_reverse.mpr (List.Pairwise.imp Ne.symm distinct)

theorem find?_of_mem {field : Field} (value : Value) (member : (field.label, value) ∈ members) :
    field.find? members = some (field.label, value) := by
  rw [Field.find?, last?_of_mem distinct member]

/-- A field that must be there is read from its member. -/
theorem required_of_mem {field : Field} (value : Value) {read : Value → Checked α} {x : α}
    (member : (field.label, value) ∈ members) (good : read value = .ok x) :
    required members field read = .ok x := by
  rw [required, find?_of_mem distinct value member]
  simp only [good, Checked.under]

/-- A field that may be missing is read from its member. -/
theorem optional_of_mem {field : Field} (value : Value) {standard : α}
    {read : Value → Checked α} {x : α} (member : (field.label, value) ∈ members)
    (good : read value = .ok x) : optional members field standard read = .ok x := by
  rw [optional, find?_of_mem distinct value member]
  simp only [good, Checked.under]

/-- Members with the names of fields alone have no extra one among them. -/
theorem onlyFields_of_keys {fields : List Field}
    (named : ∀ name ∈ members.keys, name ∈ fields.map (·.label)) :
    onlyFields members fields = .ok () := by
  have noExtras : (members.keys.filter fun name =>
      !(fields.filterMap fun field => (field.find? members).map (·.1)).contains name) = [] := by
    refine List.filter_eq_nil_iff.mpr fun name isName => ?_
    obtain ⟨field, isField, label⟩ := List.mem_map.mp (named name isName)
    obtain ⟨member, isMember, rfl⟩ := List.mem_map.mp isName
    have found : field.find? members = some (field.label, member.2) :=
      find?_of_mem distinct member.2 (label ▸ isMember)
    have used : member.1 ∈ fields.filterMap fun field => (field.find? members).map (·.1) :=
      List.mem_filterMap.mpr ⟨field, isField, by rw [found, Option.map_some, label]⟩
    simpa using used
  rw [onlyFields]
  simp only [noExtras, List.isEmpty_nil, if_true]

end Fields

/-- A record is read from its members. -/
theorem record_object {title : String} {members : Entries Value} {read : Entries Value → Checked α}
    {x : α} (good : ∀ given, given = members → read given = .ok x) :
    record title (.object members) read = .ok x := good members rfl

/-! ## Parts -/

/-- A label is read as itself. -/
theorem label_text (what : String) {s : String} (isLabel : IsLabel s) :
    label what (.text s) = .ok s := by
  have some : s.isEmpty = false := by simpa using isLabel.1
  simp [label, text, Value.text?, isLabel.2, some]

/-- A named option is read from its name. -/
theorem oneOf_text {options : List (String × α)} {name : String} {x : α}
    (whole : Text.holdsHalf name = false) (found : Entries.get? options name = some x) :
    oneOf options (.text name) = .ok x := by
  simp [oneOf, Value.text?, wholeText, whole, found]

theorem text?_ofText? (s : Option String) : text? (.ofText? s) = .ok s := by
  cases s <;> rfl

theorem scalar_ofScalar (x : Scalar) : scalar (.ofScalar x) = .ok x := by
  cases x <;> rfl

/-- A list is read from what each of its parts was written as. -/
theorem list_map {read : Value → Checked α} {write : α → Value} {parts : List α}
    (each : ∀ part ∈ parts, read (write part) = .ok part) :
    list read (.list (parts.map write)) = .ok parts := by
  have from' (index : Nat) : Checked.eachFrom read index (parts.map write) = .ok parts := by
    induction parts generalizing index with
    | nil => rfl
    | cons part rest inductionHypothesis =>
      obtain ⟨here, there⟩ := List.forall_mem_cons.mp each
      rw [List.map_cons, Checked.eachFrom, here, inductionHypothesis there]
      rfl
  exact from' 0

/-- A table is read from what each of its values was written as. -/
theorem table_map {read : Value → Checked α} (write : α → Value) {entries : Entries α}
    (distinct : entries.keys.Nodup) (each : ∀ entry ∈ entries, read (write entry.2) = .ok entry.2) :
    table read (.object (entries.map fun (name, x) => (name, write x))) = .ok entries := by
  have members : Checked.eachMember read (entries.map fun (name, x) => (name, write x)) =
      .ok entries := by
    clear distinct
    induction entries with
    | nil => rfl
    | cons entry rest inductionHypothesis =>
      obtain ⟨here, there⟩ := List.forall_mem_cons.mp each
      rw [List.map_cons, Checked.eachMember, here, inductionHypothesis there]
      rfl
  rw [table]
  simp only [Value.object?, members, Except.map, Entries.ofPairs_of_nodup distinct]

/-- A table of values that are read as themselves is read as itself. -/
theorem table_self {read : Value → Checked Value} {entries : Entries Value}
    (distinct : entries.keys.Nodup) (each : ∀ entry ∈ entries, read entry.2 = .ok entry.2) :
    table read (.object entries) = .ok entries := by
  have same := table_map (fun value => value) distinct each
  simpa using same

end Gamebook.Schema
