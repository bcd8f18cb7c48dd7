import Gamebook.Json.Printer
import Gamebook.Proofs.Text.Utf8
import Gamebook.Schema.Loose

/-!
# Parts of document values

A law of all values is proved for each kind of value, for a list from the law of its items
and for an object from the law of its values. What is said of the parts of a value is said of
the items of a list and of the names and values of an object. A portable value has no text
with half a character, no whole number with too many digits and nothing foreign, so it can be
written; a layout that writes halves as they are can write texts with halves too.
-/

namespace Gamebook.Value

/-- Induction over values: lists and objects are given with the law of every part. -/
theorem partsInduction {motive : Value → Prop} (null : motive .null)
    (bool : ∀ b, motive (.bool b)) (int : ∀ n, motive (.int n)) (float : ∀ x, motive (.float x))
    (text : ∀ s, motive (.text s))
    (list : ∀ items, (∀ item ∈ items, motive item) → motive (.list items))
    (object : ∀ members : List (String × Value), (∀ member ∈ members, motive member.2) →
      motive (.object members))
    (foreign : motive .foreign) (value : Value) : motive value := by
  refine @Value.rec motive (fun items => ∀ item ∈ items, motive item)
    (fun members => ∀ member ∈ members, motive member.2) (fun member => motive member.2)
    null bool int float text list object foreign ?noItems ?items ?noMembers ?members ?member value
  case noItems => simp
  case items =>
    intro item rest here there other member
    rcases List.mem_cons.mp member with rfl | later
    · exact here
    · exact there other later
  case noMembers => simp
  case members =>
    intro member rest here there other isMember
    rcases List.mem_cons.mp isMember with rfl | later
    · exact here
    · exact there other later
  case member => exact fun name value holds => holds

/-! ## Tests of parts -/

section Tests

variable (test : Value → Bool)

theorem anyItem_eq_false_iff (items : List Value) :
    anyItem test items = false ↔ ∀ item ∈ items, item.anyPart test = false := by
  induction items with
  | nil => simp [anyItem]
  | cons item rest inductionHypothesis => simp [anyItem, inductionHypothesis]

theorem anyMember_eq_false_iff (members : List (String × Value)) :
    anyMember test members = false ↔
      ∀ member ∈ members, test (.text member.1) = false ∧ member.2.anyPart test = false := by
  induction members with
  | nil => simp [anyMember]
  | cons member rest inductionHypothesis =>
    obtain ⟨name, value⟩ := member
    simp [anyMember, inductionHypothesis]

/-- A list passes no test where none of its items does. -/
theorem anyPart_list_eq_false_iff (items : List Value) :
    (Value.list items).anyPart test = false ↔ ∀ item ∈ items, item.anyPart test = false := by
  rw [anyPart, anyItem_eq_false_iff]

/-- An object passes no test where none of its names and values does. -/
theorem anyPart_object_eq_false_iff (members : List (String × Value)) :
    (Value.object members).anyPart test = false ↔
      ∀ member ∈ members, test (.text member.1) = false ∧ member.2.anyPart test = false := by
  rw [anyPart, anyMember_eq_false_iff]

end Tests

theorem holdsHalf_of_member {members : List (String × Value)}
    (whole : (Value.object members).holdsHalf = false) (name : String) (value : Value)
    (member : (name, value) ∈ members) : value.holdsHalf = false :=
  ((anyPart_object_eq_false_iff _ members).mp whole (name, value) member).2

theorem holdsHalf_of_list_map {α : Type} {write : α → Value} {parts : List α}
    (whole : (Value.list (parts.map write)).holdsHalf = false) {part : α} (member : part ∈ parts) :
    (write part).holdsHalf = false :=
  (anyPart_list_eq_false_iff _ _).mp whole _ (List.mem_map_of_mem member)

/-! ## Portable values -/

/-- Whether a part has no place in documents: a text with half a character, a whole number with
too many digits, or something foreign. -/
def isUnportable : Value → Bool
  | .text s => Text.holdsHalf s
  | .int n => !Numeral.isWritable n
  | .foreign => true
  | _ => false

/-- Every part of the value has a place in documents. -/
def Portable (value : Value) : Prop := value.anyPart isUnportable = false

instance (value : Value) : Decidable value.Portable := inferInstanceAs (Decidable (_ = false))

theorem portable_text_iff (s : String) :
    (Value.text s).Portable ↔ Text.holdsHalf s = false := Iff.rfl

/-- Whether a part cannot be written, or is lost when it is: a whole number with too many digits,
something foreign, or a text with half a character where only plain characters are written. -/
def isUnprintable (plain : Bool) : Value → Bool
  | .text s => plain && Text.holdsHalf s
  | .int n => !Numeral.isWritable n
  | .foreign => true
  | _ => false

/-- Every part of the value can be written so that nothing of it is lost. -/
def Printable (plain : Bool) (value : Value) : Prop := value.anyPart (isUnprintable plain) = false

/-- Where only plain characters are written, the values that can be written are the portable
ones. -/
theorem printable_plain_iff (value : Value) : value.Printable true ↔ value.Portable := by
  have same : isUnprintable true = isUnportable := by
    funext part
    cases part <;> rfl
  rw [Printable, Portable, same]

theorem portable_list_iff (items : List Value) :
    (Value.list items).Portable ↔ ∀ item ∈ items, item.Portable := anyPart_list_eq_false_iff _ _

theorem portable_object_iff (members : List (String × Value)) :
    (Value.object members).Portable ↔
      ∀ member ∈ members, Text.holdsHalf member.1 = false ∧ member.2.Portable :=
  anyPart_object_eq_false_iff _ _

theorem printable_list_iff {plain : Bool} (items : List Value) :
    (Value.list items).Printable plain ↔ ∀ item ∈ items, item.Printable plain :=
  anyPart_list_eq_false_iff _ _

theorem printable_object_iff {plain : Bool} (members : List (String × Value)) :
    (Value.object members).Printable plain ↔
      ∀ member ∈ members, (plain = true → Text.holdsHalf member.1 = false) ∧
        member.2.Printable plain := by
  simp [Printable, anyPart_object_eq_false_iff, isUnprintable]

theorem itemsFault?_eq_none_iff (items : List Value) :
    Json.itemsFault? items = none ↔ ∀ item ∈ items, Json.fault? item = none := by
  induction items with
  | nil => simp [Json.itemsFault?]
  | cons item rest inductionHypothesis =>
    rw [Json.itemsFault?, List.forall_mem_cons, ← inductionHypothesis]
    cases Json.fault? item <;> simp

theorem membersFault?_eq_none_iff (members : List (String × Value)) :
    Json.membersFault? members = none ↔ ∀ member ∈ members, Json.fault? member.2 = none := by
  induction members with
  | nil => simp [Json.membersFault?]
  | cons member rest inductionHypothesis =>
    rw [Json.membersFault?, List.forall_mem_cons, ← inductionHypothesis]
    cases Json.fault? member.2 <;> simp

/-- A value that can be written has no fault. -/
theorem Printable.fault?_eq_none {plain : Bool} {value : Value}
    (printable : value.Printable plain) : Json.fault? value = none := by
  induction value using partsInduction with
  | int n =>
    have writable : Numeral.isWritable n = true := by
      simpa [Printable, anyPart, isUnprintable] using printable
    simp [Json.fault?, writable]
  | list items inductionHypothesis =>
    exact (itemsFault?_eq_none_iff items).mpr fun item member =>
      inductionHypothesis item member ((printable_list_iff items).mp printable item member)
  | object members inductionHypothesis =>
    exact (membersFault?_eq_none_iff members).mpr fun member isMember =>
      inductionHypothesis member isMember
        ((printable_object_iff members).mp printable member isMember).2
  | foreign => cases printable
  | _ => rfl

/-- A value without a fault can be written, unless it has halves where only plain characters are
written. -/
theorem printable_of_fault?_eq_none {plain : Bool} {value : Value}
    (whole : plain = true → value.holdsHalf = false) (noFault : Json.fault? value = none) :
    value.Printable plain := by
  unfold holdsHalf at whole
  induction value using partsInduction with
  | int n =>
    cases writable : Numeral.isWritable n with
    | false => simp [Json.fault?, writable] at noFault
    | true => simp [Printable, anyPart, isUnprintable, writable]
  | text s => simpa [Printable, anyPart, isUnprintable] using whole
  | list items inductionHypothesis =>
    have each := (itemsFault?_eq_none_iff items).mp noFault
    have parts (isPlain : plain = true) := (anyPart_list_eq_false_iff _ _).mp (whole isPlain)
    exact (printable_list_iff items).mpr fun item member =>
      inductionHypothesis item member (fun isPlain => parts isPlain item member) (each item member)
  | object members inductionHypothesis =>
    have each := (membersFault?_eq_none_iff members).mp noFault
    have parts (isPlain : plain = true) := (anyPart_object_eq_false_iff _ _).mp (whole isPlain)
    exact (printable_object_iff members).mpr fun member isMember =>
      ⟨fun isPlain => (parts isPlain member isMember).1,
        inductionHypothesis member isMember (fun isPlain => (parts isPlain member isMember).2)
          (each member isMember)⟩
  | foreign => nomatch noFault
  | _ => rfl

/-- The names of a portable table have no halves. -/
theorem Portable.names {α : Type} (write : α → Value) {entries : Entries α}
    (portable : (Value.object (entries.map fun entry => (entry.1, write entry.2))).Portable) :
    ∀ name ∈ entries.keys, Text.holdsHalf name = false := by
  intro name isName
  obtain ⟨entry, isEntry, rfl⟩ := List.mem_map.mp isName
  exact ((portable_object_iff _).mp portable _ (List.mem_map_of_mem isEntry)).1

theorem Portable.of_member {members : List (String × Value)}
    (portable : (Value.object members).Portable) (name : String) {value : Value}
    (member : (name, value) ∈ members) : value.Portable :=
  ((portable_object_iff members).mp portable (name, value) member).2

/-- An object is portable whose names have no halves and whose values are written portably. -/
theorem portable_table {α : Type} {write : α → Value} {entries : List (String × α)}
    (each : ∀ entry ∈ entries,
      Text.holdsHalf entry.1 = false ∧ (write entry.2).Portable) :
    (Value.object (entries.map fun entry => (entry.1, write entry.2))).Portable := by
  rw [portable_object_iff]
  intro member isMember
  obtain ⟨entry, isEntry, rfl⟩ := List.mem_map.mp isMember
  exact each entry isEntry

/-- A portable value can be written. -/
theorem Portable.fault?_eq_none {value : Value} (portable : value.Portable) :
    Json.fault? value = none := ((printable_plain_iff value).mpr portable).fault?_eq_none

/-- A value without halves that can be written is portable. -/
theorem portable_of_fault?_eq_none {value : Value} (whole : value.holdsHalf = false)
    (noFault : Json.fault? value = none) : value.Portable :=
  (printable_plain_iff value).mp (printable_of_fault?_eq_none (fun _ => whole) noFault)

/-- A portable value can be written in any layout. -/
theorem Portable.printable {value : Value} (portable : value.Portable) (plain : Bool) :
    value.Printable plain := by
  cases plain with
  | true => exact (printable_plain_iff value).mpr portable
  | false => exact printable_of_fault?_eq_none nofun portable.fault?_eq_none

theorem finiteItems_eq {items : List Value} (each : ∀ item ∈ items, item.finiteOnly = item) :
    finiteItems items = items := by
  induction items with
  | nil => rfl
  | cons item rest inductionHypothesis =>
    rw [List.forall_mem_cons] at each
    rw [finiteItems, each.1, inductionHypothesis each.2]

theorem finiteMembers_eq {members : List (String × Value)}
    (each : ∀ member ∈ members, member.2.finiteOnly = member.2) :
    finiteMembers members = members := by
  induction members with
  | nil => rfl
  | cons member rest inductionHypothesis =>
    rw [List.forall_mem_cons] at each
    rw [finiteMembers, each.1, inductionHypothesis each.2]

/-- Every number of a value that can be sent is finite, so nothing is replaced. -/
theorem finiteOnly_eq {value : Value} (sendable : value.isSendable = true) :
    value.finiteOnly = value := by
  rw [isSendable, Bool.not_eq_true'] at sendable
  induction value using partsInduction with
  | float x =>
    have finite : x.isFinite = true := by simpa [anyPart] using sendable
    rw [finiteOnly, if_pos finite]
  | list items inductionHypothesis =>
    rw [anyPart_list_eq_false_iff] at sendable
    rw [finiteOnly, finiteItems_eq]
    exact fun item member => inductionHypothesis item member (sendable item member)
  | object members inductionHypothesis =>
    rw [anyPart_object_eq_false_iff] at sendable
    rw [finiteOnly, finiteMembers_eq]
    exact fun member isMember => inductionHypothesis member isMember (sendable member isMember).2
  | _ => rfl

/-! ## Nesting -/

mutual

/-- How many lists and objects of a value stand one in the other. -/
def nesting : Value → Nat
  | .list items => itemsNesting items + 1
  | .object members => membersNesting members + 1
  | _ => 0

/-- How many lists and objects of some items stand one in the other. -/
def itemsNesting : List Value → Nat
  | [] => 0
  | item :: rest => max (nesting item) (itemsNesting rest)

/-- How many lists and objects of some members stand one in the other. -/
def membersNesting : List (String × Value) → Nat
  | [] => 0
  | (_, value) :: rest => max (nesting value) (membersNesting rest)

end

theorem itemsNesting_le_iff (items : List Value) (limit : Nat) :
    itemsNesting items ≤ limit ↔ ∀ item ∈ items, item.nesting ≤ limit := by
  induction items with
  | nil => simp [itemsNesting]
  | cons item rest inductionHypothesis =>
    rw [itemsNesting, Nat.max_le, List.forall_mem_cons, inductionHypothesis]

theorem membersNesting_le_iff (members : List (String × Value)) (limit : Nat) :
    membersNesting members ≤ limit ↔ ∀ member ∈ members, member.2.nesting ≤ limit := by
  induction members with
  | nil => simp [membersNesting]
  | cons member rest inductionHypothesis =>
    obtain ⟨name, value⟩ := member
    rw [membersNesting, Nat.max_le, List.forall_mem_cons, inductionHypothesis]

/-! ## Loose values -/

/-- A text without halves can be encoded. -/
theorem nameFault?_eq_none {name : String} (whole : Text.holdsHalf name = false) :
    Schema.nameFault? name = none := by
  have characters := (Text.holdsHalf_eq_false_iff name).mp whole
  rw [Schema.nameFault?, (Text.halfFault?_eq_none_iff _).mpr characters]
  rfl

theorem looseItemsFault?_eq_none_iff (room : Nat) (items : List Value) :
    Schema.looseItemsFault? room items = none ↔
      ∀ item ∈ items, Schema.looseFault? room item = none := by
  induction items with
  | nil => simp [Schema.looseItemsFault?]
  | cons item rest inductionHypothesis =>
    rw [Schema.looseItemsFault?, List.forall_mem_cons, ← inductionHypothesis]
    cases Schema.looseFault? room item <;> simp

theorem looseMembersFault?_eq_none_iff (room : Nat) (members : List (String × Value)) :
    Schema.looseMembersFault? room members = none ↔
      ∀ member ∈ members, Schema.nameFault? member.1 = none ∧
        Schema.looseFault? room member.2 = none := by
  induction members with
  | nil => simp [Schema.looseMembersFault?]
  | cons member rest inductionHypothesis =>
    rw [Schema.looseMembersFault?, List.forall_mem_cons, ← inductionHypothesis]
    cases Schema.nameFault? member.1 <;> cases Schema.looseFault? room member.2 <;> simp

/-- A portable loose value has no fault, if it is not nested too deep. -/
theorem Portable.looseFault?_eq_none {value : Value} (portable : value.Portable) {room : Nat}
    (shallow : value.nesting ≤ room) : Schema.looseFault? room value = none := by
  induction value using partsInduction generalizing room with
  | list items inductionHypothesis =>
    rw [portable_list_iff] at portable
    rw [nesting] at shallow
    have each := (itemsNesting_le_iff items (room - 1)).mp (by omega)
    rw [Schema.looseFault?, if_neg (by omega), looseItemsFault?_eq_none_iff]
    exact fun item member =>
      inductionHypothesis item member (portable item member) (each item member)
  | object members inductionHypothesis =>
    rw [portable_object_iff] at portable
    rw [nesting] at shallow
    have each := (membersNesting_le_iff members (room - 1)).mp (by omega)
    rw [Schema.looseFault?, if_neg (by omega), looseMembersFault?_eq_none_iff]
    exact fun member isMember => ⟨nameFault?_eq_none (portable member isMember).1,
      inductionHypothesis member isMember (portable member isMember).2 (each member isMember)⟩
  | foreign => cases portable
  | _ => rfl

/-- A loose value without a fault is not nested too deep. -/
theorem nesting_le_of_looseFault? {value : Value} {room : Nat}
    (noFault : Schema.looseFault? room value = none) : value.nesting ≤ room := by
  induction value using partsInduction generalizing room with
  | list items inductionHypothesis =>
    rw [Schema.looseFault?] at noFault
    split at noFault
    next => nomatch noFault
    next deeper =>
      have each := (looseItemsFault?_eq_none_iff _ items).mp noFault
      have inner := (itemsNesting_le_iff items (room - 1)).mpr fun item member =>
        inductionHypothesis item member (each item member)
      rw [nesting]
      omega
  | object members inductionHypothesis =>
    rw [Schema.looseFault?] at noFault
    split at noFault
    next => nomatch noFault
    next deeper =>
      have each := (looseMembersFault?_eq_none_iff _ members).mp noFault
      have inner := (membersNesting_le_iff members (room - 1)).mpr fun member isMember =>
        inductionHypothesis member isMember (each member isMember).2
      rw [nesting]
      omega
  | _ => exact Nat.zero_le room

end Gamebook.Value
