import Gamebook.Proofs.Json.ReadParts
import Gamebook.Proofs.Number.Numeral
import Gamebook.Proofs.Number.Overflow
import Gamebook.Proofs.Story.Reading

/-!
# Projects that were read can be written

A project that is read from the text of a document has the numbers of the document, the sums that
lenient fields make of texts and floats, and standard values, so none of its whole numbers has too
many digits. The properties of its items nest no deeper than the document did. So its document
can be written, and so can the data of its page; only a name in which half a character stands
keeps a document from being written.
-/

namespace Gamebook

open Json (FitsAt)

/-! ## Parts of what was read -/

namespace Json.FitsAt

theorem item {items : List Value} (fits : FitsAt 0 (.list items)) :
    ∀ item ∈ items, FitsAt 0 item := by
  intro item member
  have inner : Value.itemsNesting items ≤ Dialect.project.depthLimit + 1 := by
    have shallow := fits.shallow
    rw [Value.nesting] at shallow
    omega
  exact ⟨(Value.printable_list_iff items).mp fits.printable item member,
    (Value.itemsNesting_le_iff items _).mp inner item member⟩

theorem member {members : List (String × Value)} (fits : FitsAt 0 (.object members)) :
    ∀ member ∈ members, FitsAt 0 member.2 := by
  intro member isMember
  have inner : Value.membersNesting members ≤ Dialect.project.depthLimit + 1 := by
    have shallow := fits.shallow
    rw [Value.nesting] at shallow
    omega
  exact ⟨(printable_record_iff members).mp fits.printable member isMember,
    (Value.membersNesting_le_iff members _).mp inner member isMember⟩

/-- Some of the members fit where all of them do. -/
theorem subset {members others : List (String × Value)} (fits : FitsAt 0 (.object members))
    (subset : others ⊆ members) : FitsAt 0 (.object others) := by
  have inner : Value.membersNesting members ≤ Dialect.project.depthLimit := by
    have shallow := fits.shallow
    rw [Value.nesting] at shallow
    omega
  refine ⟨(printable_record_iff others).mpr fun member isMember =>
    (printable_record_iff members).mp fits.printable member (subset isMember), ?_⟩
  have shallow := (Value.membersNesting_le_iff others _).mpr fun member isMember =>
    (Value.membersNesting_le_iff members _).mp inner member (subset isMember)
  rw [Value.nesting]
  omega

end Json.FitsAt

namespace Value

theorem eq_of_list? {value : Value} {items : List Value} (isList : value.list? = some items) :
    value = .list items := by
  cases value <;> simp_all [list?]

theorem eq_of_object? {value : Value} {members : Entries Value}
    (isObject : value.object? = some members) : value = .object members := by
  cases value <;> simp_all [object?]

theorem printable_ofScalar_iff (x : Scalar) :
    (ofScalar x).Printable false ↔ x.Quotable := by
  cases x <;> simp [ofScalar, Printable, anyPart, isUnprintable, Scalar.Quotable]

theorem printable_ofText? (s : Option String) : (ofText? s).Printable false := by
  cases s <;> rfl

/-- Merging objects loses parts, and what stays can be written and nests as before. -/
theorem merged_fits {value : Value} (printable : value.Printable false) :
    value.merged.Printable false ∧ value.merged.nesting ≤ value.nesting := by
  induction value using partsInduction with
  | list items inductionHypothesis =>
    rw [printable_list_iff] at printable
    rw [merged, mergedItems_eq, printable_list_iff, nesting, nesting, Nat.add_le_add_iff_right,
      itemsNesting_le_iff]
    have each (item : Value) (member : item ∈ items) :=
      inductionHypothesis item member (printable item member)
    constructor <;> intro item member <;> obtain ⟨item, isItem, rfl⟩ := List.mem_map.mp member
    · exact (each item isItem).1
    · exact Nat.le_trans (each item isItem).2
        ((itemsNesting_le_iff items _).mp (Nat.le_refl _) item isItem)
  | object members inductionHypothesis =>
    rw [Json.printable_record_iff] at printable
    rw [merged, mergedMembers_eq, Json.printable_record_iff, nesting, nesting,
      Nat.add_le_add_iff_right, membersNesting_le_iff]
    have each (member : String × Value) (isMember : member ∈ members) :=
      inductionHypothesis member isMember (printable member isMember)
    constructor <;> intro member kept <;>
      obtain ⟨member, isMember, rfl⟩ := List.mem_map.mp (Entries.ofPairs_subset _ kept)
    · exact (each member isMember).1
    · exact Nat.le_trans (each member isMember).2
        ((membersNesting_le_iff members _).mp (Nat.le_refl _) member isMember)
  | _ => exact ⟨printable, Nat.le_refl _⟩

theorem finiteItems_eq_map (items : List Value) : finiteItems items = items.map finiteOnly := by
  induction items with
  | nil => rfl
  | cons item rest inductionHypothesis => rw [finiteItems, inductionHypothesis, List.map_cons]

theorem finiteMembers_eq_map (members : List (String × Value)) :
    finiteMembers members = members.map fun member => (member.1, member.2.finiteOnly) := by
  induction members with
  | nil => rfl
  | cons member rest inductionHypothesis => rw [finiteMembers, inductionHypothesis, List.map_cons]

/-- So can what is left when infinite and undefined numbers are left out. -/
theorem Printable.finiteOnly {value : Value} (printable : value.Printable false) :
    value.finiteOnly.Printable false := by
  induction value using partsInduction with
  | float x =>
    unfold Value.finiteOnly
    split <;> rfl
  | list items inductionHypothesis =>
    rw [printable_list_iff] at printable
    rw [Value.finiteOnly, finiteItems_eq_map, printable_list_iff]
    intro item member
    obtain ⟨item, isItem, rfl⟩ := List.mem_map.mp member
    exact inductionHypothesis item isItem (printable item isItem)
  | object members inductionHypothesis =>
    rw [Json.printable_record_iff] at printable
    rw [Value.finiteOnly, finiteMembers_eq_map, Json.printable_record_iff]
    intro written isWritten
    obtain ⟨member, isMember, rfl⟩ := List.mem_map.mp isWritten
    exact inductionHypothesis member isMember (printable member isMember)
  | _ => exact printable

end Value

namespace Schema

variable {α : Type}

/-- Whatever a part of a document is read as is good. -/
def Gives (read : Value → Checked α) (good : α → Prop) : Prop :=
  ∀ value x, FitsAt 0 value → read value = .ok x → good x

theorem mem_of_find? {members : Entries Value} {field : Field} {name : String} {value : Value}
    (found : field.find? members = some (name, value)) : (name, value) ∈ members := by
  have last {name : String} {value : Value} (isLast : members.last? name = some value) :
      (name, value) ∈ members := List.mem_reverse.mp (Entries.mem_of_get? isLast)
  unfold Field.find? at found
  split at found
  next isLast =>
    cases found
    exact last isLast
  next =>
    obtain ⟨other, isLast, same⟩ := Option.map_eq_some_iff.mp found
    cases same
    exact last isLast

section Fields

variable {members : Entries Value} (fits : FitsAt 0 (.object members)) {field : Field}
  {read : Value → Checked α} {good : α → Prop} (gives : Gives read good) {x : α}
include fits gives

theorem Gives.required (found : required members field read = .ok x) : good x := by
  unfold Schema.required at found
  split at found
  next name value isFound =>
    exact gives value x (fits.member _ (mem_of_find? isFound)) (Checked.under_ok_iff.mp found)
  next => nomatch Checked.under_ok_iff.mp found

theorem Gives.optional {standard : α} (isGood : good standard)
    (found : optional members field standard read = .ok x) : good x := by
  unfold Schema.optional at found
  split at found
  next name value isFound =>
    exact gives value x (fits.member _ (mem_of_find? isFound)) (Checked.under_ok_iff.mp found)
  next => exact Except.ok.inj found ▸ isGood

end Fields

theorem Gives.list {read : Value → Checked α} {good : α → Prop} (gives : Gives read good) :
    Gives (list read) (∀ x ∈ ·, good x) := by
  have each (items : List Value) (index : Nat) (xs : List α)
      (fits : ∀ item ∈ items, FitsAt 0 item)
      (found : Checked.eachFrom read index items = .ok xs) : ∀ x ∈ xs, good x := by
    induction items generalizing index xs with
    | nil =>
      cases found
      exact List.forall_mem_nil _
    | cons item rest inductionHypothesis =>
      obtain ⟨fitsHere, fitsThere⟩ := List.forall_mem_cons.mp fits
      obtain ⟨_, others, here, there, rfl⟩ := Checked.and_ok_iff.mp found
      obtain ⟨x, isX, rfl⟩ := Except.map_ok_iff.mp here
      exact List.forall_mem_cons.mpr ⟨gives item x fitsHere (Checked.under_ok_iff.mp isX),
        inductionHypothesis (index + 1) others fitsThere there⟩
  intro value xs fits found
  unfold Schema.list at found
  split at found
  next items isList =>
    obtain rfl := Value.eq_of_list? isList
    exact each items 0 xs fits.item found
  next => nomatch found

theorem Gives.table {read : Value → Checked α} {good : α → Prop} (gives : Gives read good) :
    Gives (table read) (∀ entry ∈ ·, good entry.2) := by
  have each (members : List (String × Value)) (entries : List (String × α))
      (fits : ∀ member ∈ members, FitsAt 0 member.2)
      (found : Checked.eachMember read members = .ok entries) :
      ∀ entry ∈ entries, good entry.2 := by
    induction members generalizing entries with
    | nil =>
      cases found
      exact List.forall_mem_nil _
    | cons member rest inductionHypothesis =>
      obtain ⟨fitsHere, fitsThere⟩ := List.forall_mem_cons.mp fits
      obtain ⟨_, others, here, there, rfl⟩ := Checked.and_ok_iff.mp found
      obtain ⟨x, isX, rfl⟩ := Except.map_ok_iff.mp here
      exact List.forall_mem_cons.mpr ⟨gives member.2 x fitsHere (Checked.under_ok_iff.mp isX),
        inductionHypothesis others fitsThere there⟩
  intro value entries fits found
  unfold Schema.table at found
  split at found
  next members isObject =>
    obtain rfl := Value.eq_of_object? isObject
    obtain ⟨pairs, isPairs, rfl⟩ := Except.map_ok_iff.mp found
    exact fun entry isEntry =>
      each members pairs fits.member isPairs entry (Entries.ofPairs_subset pairs isEntry)
  next => nomatch found

/-- A record gives something good where its members do. -/
theorem Gives.record {title : String} {read : Entries Value → Checked α} {good : α → Prop}
    (gives : ∀ members x, FitsAt 0 (.object members) → read members = .ok x → good x) :
    Gives (record title · read) good := by
  intro value x fits found
  obtain ⟨members, isObject, found⟩ := record_ok_iff.mp found
  obtain rfl := Value.eq_of_object? isObject
  exact gives members x fits found

/-! ## Numbers -/

/-- Scalars have the numbers of the document. -/
theorem gives_scalar : Gives scalar Scalar.Quotable := by
  intro value x fits found
  unfold scalar at found
  cases value with
  | bool b =>
    cases found
    trivial
  | int n =>
    cases found
    exact (Value.printable_ofScalar_iff (.int n)).mp fits.printable
  | float x =>
    cases found
    trivial
  | _ => nomatch found

/-- The number of figures without needless zeros has as many digits as there are figures. -/
theorem figuresNumber?_figures {cs : List Char} {n : Nat} (spelt : figuresNumber? cs = some n)
    (few : (cs.head? != some '0' && digitLimit < (cs.takeWhile isPlainDigit).length) = false) :
    ∃ figures : List Char, (∀ c ∈ figures, Json.isFigure c = true) ∧
      figures.length ≤ digitLimit ∧ n = Json.figuresValue figures := by
  unfold figuresNumber? at spelt
  split at spelt
  next => nomatch spelt
  next =>
    cases spelt
    exact ⟨[], List.forall_mem_nil _, Nat.zero_le _, rfl⟩
  next => nomatch spelt
  next notEmpty notZero notZeros =>
    split at spelt
    next digits =>
      cases spelt
      have all : ∀ c ∈ cs, isPlainDigit c = true := List.all_eq_true.mp digits
      have noZero : (cs.head? != some '0') = true := by
        cases cs with
        | nil => exact absurd rfl notEmpty
        | cons c rest =>
          have other : c ≠ '0' := fun same => notZeros rest (same ▸ rfl)
          simpa using other
      rw [noZero, List.takeWhile_eq_self_iff.mpr all, Bool.true_and, decide_eq_false_iff_not] at few
      exact ⟨cs, all, Nat.not_lt.mp few, rfl⟩
    next => nomatch spelt

/-- Figures that are read have few enough digits. -/
theorem isWritable_of_signedNumber? {cs : List Char} {n : Int}
    (few : isTooLong cs = false) (spelt : signedNumber? cs = some n) :
    Numeral.isWritable n = true := by
  have writable {body : List Char} {size n : Int} (same : n.natAbs = size.natAbs)
      (spelt : ((figuresNumber? body).bind fun size => some (size : Int)) = some size)
      (few : (body.head? != some '0' &&
        digitLimit < (body.takeWhile isPlainDigit).length) = false) :
      Numeral.isWritable n = true := by
    obtain ⟨number, isNumber, isSize⟩ := Option.bind_eq_some_iff.mp spelt
    obtain ⟨figures, all, short, value⟩ := figuresNumber?_figures isNumber few
    refine Json.isWritable_of_figures all short ?_
    rw [same, ← Option.some.inj isSize, Int.natAbs_natCast, value]
  unfold signedNumber? at spelt
  split at spelt
  next rest =>
    obtain ⟨size, isSize, rfl⟩ := Option.map_eq_some_iff.mp spelt
    exact writable (Int.natAbs_neg size) isSize few
  next noSign =>
    obtain ⟨size, isSize, rfl⟩ := Option.map_eq_some_iff.mp spelt
    refine writable rfl isSize ?_
    simp only [isTooLong] at few
    exact few

theorem natAbs_signed (negative : Bool) (units : Nat) :
    (Binary64.signed negative units).natAbs = units := by
  cases negative <;> simp [Binary64.signed]

/-- Whole numbers that are read leniently have few enough digits, too. -/
theorem gives_whole : Gives whole (Numeral.isWritable · = true) := by
  intro value n fits found
  unfold whole at found
  cases value with
  | int n =>
    cases found
    exact (Value.printable_ofScalar_iff (.int n)).mp fits.printable
  | bool b =>
    cases found
    cases b <;> exact Numeral.isWritable_of_lt (by decide)
  | float x =>
    cases x with
    | finite negative units representable =>
      simp only [wholeOfFloat] at found
      split at found
      next => nomatch found
      next =>
        split at found
        next small =>
          cases found
          refine Numeral.isWritable_of_lt ?_
          rw [natAbs_signed]
          exact small
        next => nomatch found
    | _ => nomatch found
  | text s =>
    simp only [wholeText] at found
    split at found
    next => nomatch found
    next =>
      simp only [wholeOfText] at found
      split at found
      next => nomatch found
      next few =>
        split at found
        next isNumber =>
          cases found
          exact isWritable_of_signedNumber? (Bool.eq_false_iff.mpr few) isNumber
        next => nomatch found
  | _ => nomatch found

end Schema

open Schema

namespace Value

/-! ## Loose values -/

theorem exists_of_nameFault? {name : String} {fault : WriteFault}
    (found : nameFault? name = some fault) : ∃ half, fault = .name half := by
  obtain ⟨half, _, rfl⟩ := Option.map_eq_some_iff.mp found
  exact ⟨half, rfl⟩

theorem exists_of_looseItemsFault? {room : Nat} {items : List Value} {fault : WriteFault}
    (found : looseItemsFault? room items = some fault) :
    ∃ item ∈ items, looseFault? room item = some fault := by
  induction items with
  | nil => nomatch found
  | cons item rest inductionHypothesis =>
    rcases (Option.orElse_eq_some _ _ _).mp found with here | ⟨_, there⟩
    · exact ⟨item, List.mem_cons_self, here⟩
    · obtain ⟨later, member, isFault⟩ := inductionHypothesis there
      exact ⟨later, List.mem_cons_of_mem _ member, isFault⟩

theorem exists_of_looseMembersFault? {room : Nat} {members : List (String × Value)}
    {fault : WriteFault} (found : looseMembersFault? room members = some fault) :
    ∃ member ∈ members,
      nameFault? member.1 = some fault ∨ looseFault? room member.2 = some fault := by
  induction members with
  | nil => nomatch found
  | cons member rest inductionHypothesis =>
    rcases (Option.orElse_eq_some _ _ _).mp found with ofName | ⟨_, beyond⟩
    · exact ⟨member, List.mem_cons_self, .inl ofName⟩
    rcases (Option.orElse_eq_some _ _ _).mp beyond with ofValue | ⟨_, there⟩
    · exact ⟨member, List.mem_cons_self, .inr ofValue⟩
    · obtain ⟨later, isMember, isFault⟩ := inductionHypothesis there
      exact ⟨later, List.mem_cons_of_mem _ isMember, isFault⟩

/-- A loose value that can be written and does not nest too deep has no fault but that of a
name. -/
theorem exists_of_looseFault? {value : Value} {room : Nat} {fault : WriteFault}
    (printable : value.Printable false) (shallow : value.nesting ≤ room)
    (found : looseFault? room value = some fault) : ∃ half, fault = .name half := by
  induction value using partsInduction generalizing room with
  | list items inductionHypothesis =>
    rw [printable_list_iff] at printable
    rw [nesting] at shallow
    have each := (itemsNesting_le_iff items (room - 1)).mp (by omega)
    rw [looseFault?, if_neg (by omega)] at found
    obtain ⟨item, member, isFault⟩ := exists_of_looseItemsFault? found
    exact inductionHypothesis item member (printable item member) (each item member) isFault
  | object members inductionHypothesis =>
    rw [Json.printable_record_iff] at printable
    rw [nesting] at shallow
    have each := (membersNesting_le_iff members (room - 1)).mp (by omega)
    rw [looseFault?, if_neg (by omega)] at found
    obtain ⟨member, isMember, ofName | ofValue⟩ := exists_of_looseMembersFault? found
    · exact exists_of_nameFault? ofName
    · exact inductionHypothesis member isMember (printable member isMember)
        (each member isMember) ofValue
  | foreign => cases printable
  | _ => cases found

/-- A list can be written where each of its parts can. -/
theorem printable_list_map {α : Type} {write : α → Value} {parts : List α}
    (each : ∀ part ∈ parts, (write part).Printable false) :
    (list (parts.map write)).Printable false := by
  rw [printable_list_iff]
  intro item member
  obtain ⟨part, isPart, rfl⟩ := List.mem_map.mp member
  exact each part isPart

end Value


/-! ## Entities -/

theorem Condition.gives_printable : Gives Condition.ofValue (·.toValue.Printable false) := by
  refine .record fun given condition fits found => ?_
  have fits := fits.subset (Entries.ofPairs_subset given)
  simp only [Checked.before_ok_iff, Checked.and_ok_iff, Checked.start, Except.ok.injEq] at found
  obtain ⟨⟨_, value, ⟨_, _, ⟨_, _, ⟨_, _, rfl, _, rfl⟩, _, rfl⟩, _, rfl⟩, isValue, rfl⟩, _⟩ := found
  have quotable : value.Quotable := gives_scalar.required fits isValue
  refine (Json.printable_record_iff _).mpr ?_
  simp only [List.forall_mem_cons, Value.printable_ofScalar_iff]
  exact ⟨rfl, rfl, rfl, quotable, List.forall_mem_nil _⟩

theorem Consequence.gives_printable : Gives Consequence.ofValue (·.toValue.Printable false) := by
  refine .record fun members consequence fits found => ?_
  simp only [Checked.before_ok_iff, Checked.and_ok_iff, Checked.start, Except.ok.injEq] at found
  obtain ⟨⟨_, _, ⟨_, value, ⟨_, _, ⟨_, _, rfl, _, rfl⟩, _, rfl⟩, isValue, rfl⟩, _, rfl⟩, _⟩ := found
  have quotable : value.Quotable := gives_scalar.required fits isValue
  refine (Json.printable_record_iff _).mpr ?_
  simp only [List.forall_mem_cons, Value.printable_ofScalar_iff]
  exact ⟨rfl, rfl, quotable, rfl, List.forall_mem_nil _⟩

theorem Choice.gives_printable : Gives Choice.ofValue (·.toValue.Printable false) := by
  refine .record fun members choice fits found => ?_
  simp only [Checked.before_ok_iff, Checked.and_ok_iff, Checked.start, Except.ok.injEq] at found
  obtain ⟨⟨_, consequences, ⟨_, requirements, ⟨_, _, ⟨_, _, ⟨_, _, rfl, _, rfl⟩, _, rfl⟩, _, rfl⟩,
    isRequirements, rfl⟩, isConsequences, rfl⟩, _⟩ := found
  have conditions := Condition.gives_printable.list.optional fits (List.forall_mem_nil _)
    isRequirements
  have changes := Consequence.gives_printable.list.optional fits (List.forall_mem_nil _)
    isConsequences
  refine (Json.printable_record_iff _).mpr ?_
  simp only [List.forall_mem_cons]
  exact ⟨rfl, rfl, rfl, Value.printable_list_map conditions, Value.printable_list_map changes,
    List.forall_mem_nil _⟩

theorem Scene.gives_printable : Gives Scene.ofValue (·.toValue.Printable false) := by
  refine .record fun members scene fits found => ?_
  simp only [Checked.before_ok_iff, Checked.and_ok_iff, Checked.start, Except.ok.injEq] at found
  obtain ⟨⟨_, choices, ⟨_, image, ⟨_, _, ⟨_, _, ⟨_, _, rfl, _, rfl⟩, _, rfl⟩, _, rfl⟩, _, rfl⟩,
    isChoices, rfl⟩, _⟩ := found
  have each := (Choice.gives_printable.list).optional fits (List.forall_mem_nil _) isChoices
  refine (Json.printable_record_iff _).mpr ?_
  simp only [List.forall_mem_cons]
  exact ⟨rfl, rfl, rfl, Value.printable_ofText? image, Value.printable_list_map each,
    List.forall_mem_nil _⟩

theorem Attributes.gives_printable : Gives Attributes.ofValue (·.toValue.Printable false) := by
  refine .record fun members attributes fits found => ?_
  simp only [Checked.before_ok_iff, Checked.and_ok_iff, Checked.start, Except.ok.injEq] at found
  obtain ⟨⟨_, agility, ⟨_, intelligence, ⟨_, strength, ⟨_, health, rfl, isHealth, rfl⟩, isStrength,
    rfl⟩, isIntelligence, rfl⟩, isAgility, rfl⟩, _⟩ := found
  have zero : Numeral.isWritable 0 = true := Numeral.isWritable_of_lt (by decide)
  have printable {n : Int} (writable : Numeral.isWritable n = true) :
      (Value.int n).Printable false := (Value.printable_ofScalar_iff (.int n)).mpr writable
  refine (Json.printable_record_iff _).mpr ?_
  simp only [List.forall_mem_cons]
  exact ⟨printable (gives_whole.optional fits zero isHealth),
    printable (gives_whole.optional fits zero isStrength),
    printable (gives_whole.optional fits zero isIntelligence),
    printable (gives_whole.optional fits zero isAgility), List.forall_mem_nil _⟩

theorem Character.gives_printable : Gives Character.ofValue (·.toValue.Printable false) := by
  refine .record fun members character fits found => ?_
  simp only [Checked.before_ok_iff, Checked.and_ok_iff, Checked.start, Except.ok.injEq] at found
  obtain ⟨⟨_, _, ⟨_, portrait, ⟨_, attributes, ⟨_, _, ⟨_, _, ⟨_, _, rfl, _, rfl⟩, _, rfl⟩, _, rfl⟩,
    isAttributes, rfl⟩, _, rfl⟩, _, rfl⟩, _⟩ := found
  have standard : ({} : Attributes).toValue.Printable false := by
    unfold Value.Printable
    decide +kernel
  have kept := Attributes.gives_printable.optional fits standard isAttributes
  refine (Json.printable_record_iff _).mpr ?_
  simp only [List.forall_mem_cons]
  exact ⟨rfl, rfl, rfl, kept, Value.printable_ofText? portrait, rfl, List.forall_mem_nil _⟩

/-- The properties of an item fit as the parts of the document do. -/
theorem Item.gives_fitting :
    Gives Item.ofValue fun item => ∀ property ∈ item.properties, FitsAt 0 property.2 := by
  refine .record fun members item fits found => ?_
  simp only [Checked.before_ok_iff, Checked.and_ok_iff, Checked.start, Except.ok.injEq] at found
  obtain ⟨⟨_, properties, ⟨_, _, ⟨_, _, ⟨_, _, ⟨_, _, ⟨_, _, rfl, _, rfl⟩, _, rfl⟩, _, rfl⟩, _, rfl⟩,
    _, rfl⟩, isProperties, rfl⟩, _⟩ := found
  have merged : Gives (fun value => .ok value.merged) (FitsAt 0) := by
    intro value _ fits same
    cases same
    obtain ⟨printable, shallow⟩ := Value.merged_fits fits.printable
    exact ⟨printable, Nat.le_trans shallow fits.shallow⟩
  exact (merged.table).optional fits (List.forall_mem_nil _) isProperties

theorem VariableValue.gives_printable :
    Gives VariableValue.ofValue (·.toValue.Printable false) := by
  intro value variableValue fits found
  unfold VariableValue.ofValue at found
  split at found
  next =>
    cases found
    rfl
  next =>
    split at found
    next x isScalar =>
      cases found
      exact (Value.printable_ofScalar_iff x).mpr (gives_scalar value x fits isScalar)
    next => nomatch found

/-! ## Projects -/

namespace Project

/-- What a project that was read is like: all that is written of it can be written, and the
properties of its items nest no deeper than a document does. -/
structure Spelt (project : Project) : Prop where
  scenes : ∀ scene ∈ project.scenes, scene.toValue.Printable false
  characters : ∀ character ∈ project.characters, character.toValue.Printable false
  properties : ∀ item ∈ project.items, ∀ property ∈ item.properties, FitsAt 0 property.2
  declared : ∀ entry ∈ project.declared, entry.2.toValue.Printable false

theorem spelt_of_text {now : Moment} {source : String} {project : Project}
    (read : Project.ofText now source = .ok project) : project.Spelt := by
  unfold Project.ofText Schema.ofText at read
  split at read
  next => nomatch read
  next =>
    split at read
    next value isValue =>
      have isProject : Project.ofValue now value = .ok project := by
        unfold Schema.gather at read
        split at read
        next isProject => rwa [← Except.ok.inj read]
        next => nomatch read
      obtain ⟨members, isObject, from'⟩ := ofValue_ok_iff.mp isProject
      have fits : FitsAt 0 (.object members) :=
        Value.eq_of_object? isObject ▸ Json.fits_of_read isValue
      exact
        { scenes := Scene.gives_printable.list.optional fits (List.forall_mem_nil _) from'.scenes
          characters :=
            Character.gives_printable.list.optional fits (List.forall_mem_nil _) from'.characters
          properties := Item.gives_fitting.list.optional fits (List.forall_mem_nil _) from'.items
          declared :=
            VariableValue.gives_printable.table.optional fits (List.forall_mem_nil _)
              from'.declared }
    next => nomatch read

variable {project : Project} (spelt : project.Spelt)
include spelt

/-- The document of such a project has no part that cannot be written. -/
theorem Spelt.printable : project.toValue.Printable false := by
  have items : ∀ item ∈ project.items, item.toValue.Printable false := by
    intro item member
    have properties : (Value.object (Value.finiteMembers item.properties)).Printable false := by
      rw [Value.finiteMembers_eq_map]
      refine (Json.printable_record_iff _).mpr fun written isWritten => ?_
      obtain ⟨property, isProperty, rfl⟩ := List.mem_map.mp isWritten
      exact (spelt.properties item member property isProperty).printable.finiteOnly
    refine (Json.printable_record_iff _).mpr ?_
    simp only [List.forall_mem_cons]
    exact ⟨rfl, rfl, rfl, rfl, Value.printable_ofText? item.image, properties,
      List.forall_mem_nil _⟩
  have declared : (Value.object (project.declared.map fun entry =>
      (entry.1, entry.2.toValue))).Printable false := by
    refine (Json.printable_record_iff _).mpr fun written isWritten => ?_
    obtain ⟨entry, isEntry, rfl⟩ := List.mem_map.mp isWritten
    exact spelt.declared entry isEntry
  refine (Json.printable_record_iff _).mpr ?_
  simp only [List.forall_mem_cons]
  exact ⟨rfl, rfl, rfl, rfl, rfl, rfl, Value.printable_list_map spelt.scenes,
    Value.printable_list_map spelt.characters, Value.printable_list_map items, declared, rfl,
    Value.printable_ofText? project.startSceneId, List.forall_mem_nil _⟩

/-- Only a name keeps such a project from being written as a document. -/
theorem Spelt.write_cases :
    project.write = .ok project.toValue ∨ ∃ fault, project.write = .error (.name fault) := by
  have named (fault : Schema.WriteFault) (found : project.writeFault? = some fault) :
      ∃ half, fault = .name half := by
    rcases (Option.orElse_eq_some _ _ _).mp found with inItem | ⟨_, inName⟩
    · obtain ⟨item, member, isFault⟩ := List.exists_of_findSome?_eq_some inItem
      obtain ⟨property, isProperty, ofName | ofValue⟩ := Value.exists_of_looseMembersFault? isFault
      · exact Value.exists_of_nameFault? ofName
      · have fits := spelt.properties item member property isProperty
        exact Value.exists_of_looseFault? fits.printable
          (Nat.le_trans fits.shallow (by decide)) ofValue
    · obtain ⟨name, _, isFault⟩ := List.exists_of_findSome?_eq_some inName
      exact Value.exists_of_nameFault? isFault
  unfold write
  cases isFault : project.writeFault? with
  | none => exact .inl rfl
  | some fault =>
    obtain ⟨half, rfl⟩ := named fault isFault
    exact .inr ⟨half, rfl⟩

end Project

end Gamebook
