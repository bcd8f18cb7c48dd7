import Gamebook.Proofs.Json.RoundTrip

/-!
# Documents that nest too deep

What is written for a value that nests deeper than stored documents may is not read: the parts in
front of the first list or object that is one too many are read as themselves, and there the reader
stops. So of the values that can be written, exactly those within the limit are read back.
-/

namespace Gamebook

namespace Value

/-- Items nest deeper than a limit exactly if one of them does. -/
theorem lt_itemsNesting_iff (items : List Value) (limit : Nat) :
    limit < itemsNesting items ↔ ∃ item ∈ items, limit < item.nesting := by
  rw [← Nat.not_le, itemsNesting_le_iff]
  push Not
  rfl

theorem lt_membersNesting_iff (members : List (String × Value)) (limit : Nat) :
    limit < membersNesting members ↔ ∃ member ∈ members, limit < member.2.nesting := by
  rw [← Nat.not_le, membersNesting_le_iff]
  push Not
  rfl

end Value

namespace Json

/-- Reading has stopped where one more list or object would have been too many. -/
def TooDeep {α : Type} (reading : Except Fault α) : Prop :=
  ∃ inObject left, reading = .error ⟨.tooDeep inObject, left⟩

variable {layout : Layout}

/-! ## Steps of the reader -/

section Steps

variable {fuel depth : Nat} {cs rest : List Char}

theorem openingFault?_of_full (full : Dialect.stored.depthLimit ≤ depth) (inObject : Bool)
    (cs : List Char) :
    openingFault? .stored .stored inObject depth cs = some ⟨.tooDeep inObject, cs.length⟩ := by
  simp [openingFault?, full]

theorem tooDeep_list_of_full (opened : skipGap cs = '[' :: rest)
    (full : Dialect.stored.depthLimit ≤ depth) :
    TooDeep (readValue .stored (fuel + 1) depth cs) := by
  rw [readValue, opened]
  simp only [openingFault?_of_full full]
  exact ⟨_, _, rfl⟩

theorem tooDeep_object_of_full (opened : skipGap cs = '\x7b' :: rest)
    (full : Dialect.stored.depthLimit ≤ depth) :
    TooDeep (readValue .stored (fuel + 1) depth cs) := by
  rw [readValue, opened]
  simp only [openingFault?_of_full full]
  exact ⟨_, _, rfl⟩

theorem tooDeep_list_of_items (opened : skipGap cs = '[' :: rest)
    (shallow : depth < Dialect.stored.depthLimit) (some : skipGap rest ≠ [])
    (goesOn : ∀ closed, skipGap rest ≠ ']' :: closed)
    (stopped : TooDeep (readItems .stored fuel (depth + 1) (skipGap rest))) :
    TooDeep (readValue .stored (fuel + 1) depth cs) := by
  obtain ⟨inObject, left, stopped⟩ := stopped
  rw [readValue, opened]
  simp only [openingFault?_eq_none shallow, stopped]
  exact ⟨_, _, rfl⟩

theorem tooDeep_object_of_members {body : List Char} (opened : skipGap cs = '\x7b' :: rest)
    (shallow : depth < Dialect.stored.depthLimit) (quoted : skipGap rest = '"' :: body)
    (stopped : TooDeep (readMembers .stored fuel (depth + 1) true body)) :
    TooDeep (readValue .stored (fuel + 1) depth cs) := by
  obtain ⟨inObject, left, stopped⟩ := stopped
  rw [readValue, opened]
  simp only [openingFault?_eq_none shallow, quoted, stopped]
  exact ⟨_, _, rfl⟩

theorem tooDeep_items_of_first (stopped : TooDeep (readValue .stored fuel depth cs)) :
    TooDeep (readItems .stored (fuel + 1) depth cs) := by
  obtain ⟨inObject, left, stopped⟩ := stopped
  rw [readItems, stopped]
  exact ⟨_, _, rfl⟩

theorem tooDeep_items_of_later {item : Value} {after : List Char}
    (read : readValue .stored fuel depth cs = .ok (item, rest))
    (goesOn : skipGap rest = ',' :: after) (some : skipGap after ≠ [])
    (open' : ∀ closed, skipGap after ≠ ']' :: closed)
    (stopped : TooDeep (readItems .stored fuel depth (skipGap after))) :
    TooDeep (readItems .stored (fuel + 1) depth cs) := by
  obtain ⟨inObject, left, stopped⟩ := stopped
  rw [readItems, read]
  simp only [goesOn, stopped]
  exact ⟨_, _, rfl⟩

theorem tooDeep_members_of_first {name : String} (isFirst : Bool)
    (shallow : depth < Dialect.stored.depthLimit)
    (named : readName .stored cs = .ok (name, rest))
    (stopped : TooDeep (readValue .stored fuel (depth + 1) rest)) :
    TooDeep (readMembers .stored (fuel + 1) (depth + 1) isFirst cs) := by
  obtain ⟨inObject, left, stopped⟩ := stopped
  rw [readMembers, named]
  simp only [Nat.add_sub_cancel, firstMemberFault?_eq_none shallow, ite_self, stopped]
  exact ⟨_, _, rfl⟩

theorem tooDeep_members_of_later {name : String} {value : Value} {after next body : List Char}
    (isFirst : Bool) (shallow : depth < Dialect.stored.depthLimit)
    (named : readName .stored cs = .ok (name, rest))
    (read : readValue .stored fuel (depth + 1) rest = .ok (value, after))
    (goesOn : skipGap after = ',' :: next) (quoted : skipGap next = '"' :: body)
    (stopped : TooDeep (readMembers .stored fuel (depth + 1) false body)) :
    TooDeep (readMembers .stored (fuel + 1) (depth + 1) isFirst cs) := by
  obtain ⟨inObject, left, stopped⟩ := stopped
  rw [readMembers, named]
  simp only [Nat.add_sub_cancel, firstMemberFault?_eq_none shallow, ite_self, read, goesOn, quoted,
    stopped]
  exact ⟨_, _, rfl⟩

end Steps

/-! ## Lists and objects -/

/-- Wherever a value is written so deep that it goes beyond the limit, reading stops in it. -/
def StopsIn (layout : Layout) (value : Value) : Prop :=
  ∀ {level fuel depth : Nat} {cs rest : List Char}, Stops rest →
    2 * (render layout level value).length < fuel →
    depth ≤ Dialect.stored.depthLimit → Dialect.stored.depthLimit < depth + value.nesting →
    skipGap cs = render layout level value ++ rest →
    TooDeep (readValue .stored fuel depth cs)

/-- Some items, one of which goes too deep: those in front of it are read, and it stops the
reader. -/
theorem tooDeep_renderItems {level outer depth fuel : Nat} {item : Value} {items : List Value}
    (each : ∀ part ∈ item :: items, part.Printable layout.plain ∧
      ReadsBack .stored layout part ∧ StopsIn layout part)
    (room : depth ≤ Dialect.stored.depthLimit)
    (deep : ∃ part ∈ item :: items, Dialect.stored.depthLimit < depth + part.nesting)
    (enough : 2 * ((render layout level item).length +
      (renderItems layout level items).length) + 1 < fuel) (tail : List Char) :
    TooDeep (readItems .stored fuel depth (render layout level item ++
      (renderItems layout level items ++ (lineGap layout outer ++ ']' :: tail)))) := by
  have closed : Stops (lineGap layout outer ++ ']' :: tail) :=
    stops_lineGap outer (stops_cons (c := ']') tail (by decide))
  induction items generalizing item fuel with
  | nil =>
    obtain ⟨fuel, rfl⟩ : ∃ less, fuel = less + 1 := ⟨fuel - 1, by omega⟩
    obtain ⟨⟨printable, -, stopsIn⟩, -⟩ := List.forall_mem_cons.mp each
    obtain ⟨part, isPart, tooDeep⟩ := deep
    obtain rfl := List.mem_singleton.mp isPart
    exact tooDeep_items_of_first (stopsIn closed (by omega) room tooDeep
      (begins_render layout level printable closed).skipGap_eq)
  | cons next more inductionHypothesis =>
    obtain ⟨fuel, rfl⟩ : ∃ less, fuel = less + 1 := ⟨fuel - 1, by omega⟩
    obtain ⟨⟨printable, readsBack, stopsIn⟩, others⟩ := List.forall_mem_cons.mp each
    obtain ⟨gap, mark, skips⟩ := separator_eq layout level
    simp only [renderItems, mark, List.length_append, List.length_cons, List.cons_append,
      List.append_assoc] at enough ⊢
    have begins := begins_render layout level (others next List.mem_cons_self).1
      (stops_renderItems layout level more closed)
    have stops (cs : List Char) : Stops (',' :: cs) := stops_cons cs (by decide)
    by_cases first : Dialect.stored.depthLimit < depth + item.nesting
    · exact tooDeep_items_of_first (stopsIn (stops _) (by omega) room first
        (begins_render layout level printable (stops _)).skipGap_eq)
    · have later : ∃ part ∈ next :: more, Dialect.stored.depthLimit < depth + part.nesting := by
        simpa [first] using deep
      refine tooDeep_items_of_later (readsBack (stops _) (by omega) (Nat.not_lt.mp first)
        (begins_render layout level printable (stops _)).skipGap_eq) rfl ?_ ?_ ?_
      all_goals rw [skips, begins.skipGap_eq]
      · exact begins.ne_nil
      · exact begins.ne_end
      · exact inductionHypothesis others later (by omega)

/-- Some members, the value of one of which goes too deep: those in front of it are read, and it
stops the reader. -/
theorem tooDeep_renderMembers (level outer : Nat) {depth fuel : Nat} {member : String × Value}
    {members : List (String × Value)} (room : depth < Dialect.stored.depthLimit)
    (each : ∀ part ∈ member :: members, (layout.plain = true → Text.holdsHalf part.1 = false) ∧
      part.2.Printable layout.plain ∧ ReadsBack .stored layout part.2 ∧ StopsIn layout part.2)
    (deep : ∃ part ∈ member :: members, Dialect.stored.depthLimit < depth + 1 + part.2.nesting)
    (enough : 2 * ((render layout level member.2).length +
      (renderMembers layout level members).length) + 1 < fuel) (isFirst : Bool)
    (tail : List Char) :
    ∃ body, writeText layout.plain member.1 ++ ':' :: ' ' :: (render layout level member.2 ++
        (renderMembers layout level members ++ (lineGap layout outer ++ '\x7d' :: tail))) =
          '"' :: body ∧
      TooDeep (readMembers .stored fuel (depth + 1) isFirst body) := by
  obtain ⟨fuel, rfl⟩ : ∃ less, fuel = less + 1 := ⟨fuel - 1, by omega⟩
  obtain ⟨⟨whole, printable, readsBack, stopsIn⟩, others⟩ := List.forall_mem_cons.mp each
  have closed : Stops (lineGap layout outer ++ '\x7d' :: tail) :=
    stops_lineGap outer (stops_cons (c := '\x7d') tail (by decide))
  have stops := stops_renderMembers layout level members closed
  obtain ⟨body, quoted, named⟩ := readName_writeText .stored layout.plain whole
    (' ' :: (render layout level member.2 ++
      (renderMembers layout level members ++ (lineGap layout outer ++ '\x7d' :: tail))))
  refine ⟨body, quoted, ?_⟩
  have begins : skipGap (' ' :: (render layout level member.2 ++ _)) = _ :=
    (skipGap_space _).trans (begins_render layout level printable stops).skipGap_eq
  by_cases first : Dialect.stored.depthLimit < depth + 1 + member.2.nesting
  · exact tooDeep_members_of_first isFirst room named (stopsIn stops (by omega) room first begins)
  · have read : readValue .stored fuel (depth + 1) _ = _ :=
      readsBack stops (by omega) (Nat.not_lt.mp first) begins
    have later : ∃ part ∈ members, Dialect.stored.depthLimit < depth + 1 + part.2.nesting := by
      simpa [first] using deep
    cases members with
    | nil =>
      obtain ⟨_, isPart, -⟩ := later
      exact absurd isPart List.not_mem_nil
    | cons next more =>
      obtain ⟨gap, mark, skips⟩ := separator_eq layout level
      have enoughMore : 2 * ((render layout level next.2).length +
          (renderMembers layout level more).length) + 1 < fuel := by
        simp only [renderMembers, mark, List.length_append, List.length_cons] at enough
        omega
      obtain ⟨nextBody, nextQuoted, nextStops⟩ :=
        tooDeep_renderMembers level outer room others later enoughMore false tail
      refine tooDeep_members_of_later isFirst room named read ?_ (skips ('"' :: nextBody)) nextStops
      rw [← nextQuoted, renderMembers, mark]
      simp only [List.cons_append, List.append_assoc, List.nil_append]
      rfl
termination_by members.length

/-- A list stops the reader at its own mark, or in one of its items. -/
theorem stopsIn_list {items : List Value}
    (each : ∀ part ∈ items, part.Printable layout.plain ∧
      ReadsBack .stored layout part ∧ StopsIn layout part) : StopsIn layout (.list items) := by
  intro level fuel depth cs rest stops enough room deep begins
  rw [Value.nesting] at deep
  obtain ⟨fuel, rfl⟩ : ∃ less, fuel = less + 1 := ⟨fuel - 1, by omega⟩
  rcases Nat.eq_or_lt_of_le room with full | shallow
  · cases items <;> exact tooDeep_list_of_full begins full.ge
  cases items with
  | nil =>
    rw [Value.itemsNesting] at deep
    omega
  | cons item items =>
    have further : ∃ part ∈ item :: items,
        Dialect.stored.depthLimit < depth + 1 + part.nesting := by
      obtain ⟨part, isPart, deeper⟩ := (Value.lt_itemsNesting_iff (item :: items)
        (Dialect.stored.depthLimit - (depth + 1))).mp (by omega)
      exact ⟨part, isPart, by omega⟩
    simp only [render, List.length_append, List.length_cons, List.cons_append,
      List.append_assoc, List.nil_append] at enough begins
    have closed : Stops (lineGap layout level ++ ']' :: rest) :=
      stops_lineGap level (stops_cons (c := ']') rest (by decide))
    have first := begins_render layout (level + 1) (each item List.mem_cons_self).1
      (stops_renderItems layout (level + 1) items closed)
    refine tooDeep_list_of_items begins shallow ?_ ?_ ?_
    all_goals rw [skipGap_lineGap, first.skipGap_eq]
    · exact first.ne_nil
    · exact first.ne_end
    · exact tooDeep_renderItems each shallow further (by omega) rest

/-- An object stops the reader at its own mark, or in the value of one of its members. -/
theorem stopsIn_object {members : List (String × Value)}
    (each : ∀ part ∈ members, (layout.plain = true → Text.holdsHalf part.1 = false) ∧
      part.2.Printable layout.plain ∧ ReadsBack .stored layout part.2 ∧ StopsIn layout part.2) :
    StopsIn layout (.object members) := by
  intro level fuel depth cs rest stops enough room deep begins
  rw [Value.nesting] at deep
  obtain ⟨fuel, rfl⟩ : ∃ less, fuel = less + 1 := ⟨fuel - 1, by omega⟩
  rcases Nat.eq_or_lt_of_le room with full | shallow
  · cases members <;> exact tooDeep_object_of_full begins full.ge
  cases members with
  | nil =>
    rw [Value.membersNesting] at deep
    omega
  | cons member members =>
    have further : ∃ part ∈ member :: members,
        Dialect.stored.depthLimit < depth + 1 + part.2.nesting := by
      obtain ⟨part, isPart, deeper⟩ := (Value.lt_membersNesting_iff (member :: members)
        (Dialect.stored.depthLimit - (depth + 1))).mp (by omega)
      exact ⟨part, isPart, by omega⟩
    simp only [render, List.length_append, List.length_cons, List.cons_append,
      List.append_assoc, List.nil_append] at enough begins
    obtain ⟨body, quoted, stopped⟩ := tooDeep_renderMembers (level + 1) level shallow each
      further (show _ < fuel by omega) true rest
    rw [quoted] at begins
    exact tooDeep_object_of_members begins shallow (skipGap_lineGap _ _) stopped

/-- What is written for a printable value beyond the limit stops the reader. -/
theorem stopsIn_of_printable {value : Value} (printable : value.Printable layout.plain)
    (distinct : value.Distinct) : StopsIn layout value := by
  induction value using Value.partsInduction with
  | list items inductionHypothesis =>
    rw [Value.printable_list_iff] at printable
    rw [Value.Distinct, Value.distinctItems_iff] at distinct
    refine stopsIn_list fun part member => ⟨printable part member, ?_, ?_⟩
    · exact readsBack_of_printable (printable part member) (distinct part member)
    · exact inductionHypothesis part member (printable part member) (distinct part member)
  | object members inductionHypothesis =>
    rw [Value.printable_object_iff] at printable
    rw [Value.Distinct, Value.distinctMembers_iff] at distinct
    refine stopsIn_object fun part isPart => ?_
    obtain ⟨whole, partPrintable⟩ := printable part isPart
    refine ⟨whole, partPrintable, ?_, ?_⟩
    · exact readsBack_of_printable partPrintable (distinct.2 part isPart)
    · exact inductionHypothesis part isPart partPrintable (distinct.2 part isPart)
  | _ =>
    intro level fuel depth cs rest stops enough room deep
    exact absurd deep (Nat.not_lt.mpr room)

/-! ## Documents -/

/-- The document of a value beyond the limit is faulted for its depth. -/
theorem tooDeep_render {value : Value} (printable : value.Printable layout.plain)
    (distinct : value.Distinct) (deep : Dialect.stored.depthLimit < value.nesting) :
    TooDeep (readCharacters .stored (render layout 0 value)) := by
  have noRest : Stops [] := nofun
  have begins := begins_render layout 0 printable noRest
  have opened := begins.skipGap_eq
  obtain ⟨c, rest, first, -, -, noMark⟩ := begins
  have stopped : TooDeep (readValue .stored (2 * (render layout 0 value).length + 2) 0 _) :=
    stopsIn_of_printable printable distinct noRest (by omega) (by omega) (by omega) opened
  rw [List.append_nil] at first stopped
  obtain ⟨inObject, left, stopped⟩ := stopped
  rw [readCharacters, if_neg]
  · rw [stopped]
    exact ⟨_, _, rfl⟩
  · simp [first, noMark]

/-- A printable value is read back from its stored document exactly if it nests within the limit;
beyond it the document is faulted for its depth. -/
theorem read_stored_iff {value : Value} (printable : value.Printable layout.plain)
    (distinct : value.Distinct) :
    read .stored (String.ofList (render layout 0 value)) = .ok value ↔
      value.nesting ≤ Dialect.stored.depthLimit := by
  refine ⟨fun back => ?_, read_printable printable distinct⟩
  by_contra deep
  obtain ⟨_, _, stopped⟩ := tooDeep_render printable distinct (Nat.not_le.mp deep)
  rw [read, String.toList_ofList, stopped] at back
  cases back

end Json

end Gamebook
