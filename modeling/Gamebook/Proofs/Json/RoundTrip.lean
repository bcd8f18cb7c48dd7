import Gamebook.Proofs.Json.Distinct
import Gamebook.Proofs.Json.Float
import Gamebook.Proofs.Json.Text

/-!
# Documents read back

What is written for a portable value is read as the value, in either dialect and with any
layout; where halves are written as they are, texts may have halves too. Its numbers may be
infinite and undefined, but its objects have distinct names. The reader is given fuel for twice
the characters of the value, and the value nests no deeper than the dialect allows.
-/

namespace Gamebook.Json

variable {dialect : Dialect} {layout : Layout}

/-! ## Gaps -/

theorem skipGap_lineGap (level : Nat) (cs : List Char) :
    skipGap (lineGap layout level ++ cs) = skipGap cs := by
  unfold skipGap lineGap
  split
  next => rfl
  next width _ =>
    have blanks : ∀ c ∈ '\n' :: List.replicate (width * level) ' ', isGap c = true := by
      intro c member
      rcases List.mem_cons.mp member with rfl | blank
      · rfl
      · rw [List.eq_of_mem_replicate blank]
        rfl
    rw [List.dropWhile_append_of_pos blanks]

theorem skipGap_space (cs : List Char) : skipGap (' ' :: cs) = skipGap cs := rfl

/-- A mark between neighbours is a comma with blanks behind it. -/
theorem separator_eq (layout : Layout) (level : Nat) :
    ∃ gap, separator layout level = ',' :: gap ∧ ∀ cs, skipGap (gap ++ cs) = skipGap cs := by
  unfold separator
  split
  next => exact ⟨[' '], rfl, skipGap_space⟩
  next => exact ⟨lineGap layout level, rfl, skipGap_lineGap level⟩

/-- Where a value ends, nothing continues a number. -/
theorem stops_lineGap (level : Nat) {cs : List Char} (stops : Stops cs) :
    Stops (lineGap layout level ++ cs) := by
  unfold lineGap
  split
  next => exact stops
  next =>
    intro c first
    obtain rfl := Option.some.inj first
    decide

theorem stops_cons {c : Char} (cs : List Char)
    (other : isFigure c = false ∧ c ≠ '.' ∧ isExponentMark c = false) : Stops (c :: cs) := by
  intro d first
  obtain rfl := Option.some.inj first
  exact other

theorem stops_separator (level : Nat) (cs : List Char) : Stops (separator layout level ++ cs) := by
  obtain ⟨gap, mark, -⟩ := separator_eq layout level
  rw [mark]
  exact stops_cons _ (by decide)

/-! ## Steps of the reader -/

section Steps

variable {fuel depth : Nat} {cs rest tail : List Char}

theorem openingFault?_eq_none (shallow : depth < dialect.depthLimit) (counted : Dialect)
    (inObject : Bool) (cs : List Char) : openingFault? dialect counted inObject depth cs = none := by
  simp [openingFault?, Nat.not_le.mpr shallow]

/-- Characters from which a value without parts is read begin with a letter, a figure or a minus
sign. -/
theorem start_of_readAtom {value : Value} (read : readAtom dialect cs = .ok (value, tail)) :
    ∃ c rest, cs = c :: rest ∧ (c.isAlphanum || c == '-') = true := by
  unfold readAtom at read
  split at read
  next => cases read
  iterate 7 next => exact ⟨_, _, rfl, rfl⟩
  next c rest _ _ _ _ _ _ _ =>
    split at read
    next figure =>
      have digit : c.isDigit = true := figure
      exact ⟨c, rest, rfl, by simp [Char.isAlphanum, digit]⟩
    next => cases read

theorem readValue_atom {value : Value} (read : readAtom dialect (skipGap cs) = .ok (value, tail)) :
    readValue dialect (fuel + 1) depth cs = .ok (value, tail) := by
  obtain ⟨c, rest, first, start⟩ := start_of_readAtom read
  have other {sign : Char} (noStart : (sign.isAlphanum || sign == '-') = false) : c ≠ sign := by
    rintro rfl
    simp [noStart] at start
  rw [readValue]
  split
  next same => exact absurd (List.cons.inj (first.symm.trans same)).1 (other rfl)
  next same => exact absurd (List.cons.inj (first.symm.trans same)).1 (other rfl)
  next same => exact absurd (List.cons.inj (first.symm.trans same)).1 (other rfl)
  next => exact read

theorem readValue_text {text : List Char} (opened : skipGap cs = '"' :: rest)
    (read : readText dialect rest none rest = .ok (text, tail)) :
    readValue dialect (fuel + 1) depth cs = .ok (.text (String.ofList text), tail) := by
  rw [readValue, opened]
  simp only [read]

theorem readValue_noItems (opened : skipGap cs = '[' :: ']' :: tail)
    (shallow : depth < dialect.depthLimit) :
    readValue dialect (fuel + 1) depth cs = .ok (.list [], tail) := by
  rw [readValue, opened]
  simp only [openingFault?_eq_none shallow]
  rfl

theorem readValue_items {items : List Value} (opened : skipGap cs = '[' :: rest)
    (shallow : depth < dialect.depthLimit) (some : skipGap rest ≠ [])
    (goesOn : ∀ closed, skipGap rest ≠ ']' :: closed)
    (read : readItems dialect fuel (depth + 1) (skipGap rest) = .ok (items, tail)) :
    readValue dialect (fuel + 1) depth cs = .ok (.list items, tail) := by
  rw [readValue, opened]
  simp only [openingFault?_eq_none shallow, read]

theorem readValue_noMembers (opened : skipGap cs = '\x7b' :: '\x7d' :: tail)
    (shallow : depth < dialect.depthLimit) :
    readValue dialect (fuel + 1) depth cs = .ok (.object [], tail) := by
  rw [readValue, opened]
  simp only [openingFault?_eq_none shallow]
  rfl

theorem readValue_members {members : List (String × Value)} {body : List Char}
    (opened : skipGap cs = '\x7b' :: rest) (shallow : depth < dialect.depthLimit)
    (quoted : skipGap rest = '"' :: body)
    (read : readMembers dialect fuel (depth + 1) true body = .ok (members, tail)) :
    readValue dialect (fuel + 1) depth cs =
      .ok (.object (keptMembers dialect members), tail) := by
  rw [readValue, opened]
  simp only [openingFault?_eq_none shallow, quoted, read]

theorem readItems_last {item : Value} (read : readValue dialect fuel depth cs = .ok (item, rest))
    (closed : skipGap rest = ']' :: tail) :
    readItems dialect (fuel + 1) depth cs = .ok ([item], tail) := by
  rw [readItems, read]
  simp only [closed]

theorem readItems_next {item : Value} {items : List Value} {after : List Char}
    (read : readValue dialect fuel depth cs = .ok (item, rest))
    (goesOn : skipGap rest = ',' :: after) (some : skipGap after ≠ [])
    (open' : ∀ closed, skipGap after ≠ ']' :: closed)
    (others : readItems dialect fuel depth (skipGap after) = .ok (items, tail)) :
    readItems dialect (fuel + 1) depth cs = .ok (item :: items, tail) := by
  rw [readItems, read]
  simp only [goesOn, others]

theorem readName_text {name body : List Char}
    (read : readText dialect cs none cs = .ok (name, body)) (colon : skipGap body = ':' :: rest) :
    readName dialect cs = .ok (String.ofList name, rest) := by
  rw [readName, read]
  simp only [colon]

theorem firstMemberFault?_eq_none (shallow : depth < dialect.depthLimit) (cs : List Char) :
    firstMemberFault? dialect depth cs = none := by
  unfold firstMemberFault?
  split
  next => rfl
  next => exact openingFault?_eq_none shallow _ _ _

theorem readMembers_last {name : String} {value : Value} {after : List Char} (isFirst : Bool)
    (shallow : depth < dialect.depthLimit) (named : readName dialect cs = .ok (name, rest))
    (read : readValue dialect fuel (depth + 1) rest = .ok (value, after))
    (closed : skipGap after = '\x7d' :: tail) :
    readMembers dialect (fuel + 1) (depth + 1) isFirst cs = .ok ([(name, value)], tail) := by
  rw [readMembers, named]
  simp only [Nat.add_sub_cancel, firstMemberFault?_eq_none shallow, ite_self, read, closed]

theorem readMembers_next {name : String} {value : Value} {members : List (String × Value)}
    {after next body : List Char} (isFirst : Bool) (shallow : depth < dialect.depthLimit)
    (named : readName dialect cs = .ok (name, rest))
    (read : readValue dialect fuel (depth + 1) rest = .ok (value, after))
    (goesOn : skipGap after = ',' :: next) (quoted : skipGap next = '"' :: body)
    (others : readMembers dialect fuel (depth + 1) false body = .ok (members, tail)) :
    readMembers dialect (fuel + 1) (depth + 1) isFirst cs = .ok ((name, value) :: members, tail) := by
  rw [readMembers, named]
  simp only [Nat.add_sub_cancel, firstMemberFault?_eq_none shallow, ite_self, read, goesOn, quoted,
    others]

end Steps

/-! ## Values without parts -/

theorem readLiteral_append (dialect : Dialect) (letters : String) (value : Value) (rest : List Char) :
    readLiteral dialect letters value (letters.toList ++ rest) = .ok (value, rest) := by
  have taken (word : List Char) : takeWord word (word ++ rest) = .inl rest := by
    induction word with
    | nil => rfl
    | cons letter letters inductionHypothesis => simpa [takeWord] using inductionHypothesis
  rw [readLiteral, taken]

/-- Every floating-point number is read from its text. -/
theorem readAtom_writeFloat (x : Binary64) {rest : List Char} (stops : Stops rest) :
    readAtom dialect (writeFloat x ++ rest) = .ok (.float x, rest) := by
  cases x with
  | nan => exact readLiteral_append dialect "NaN" _ rest
  | infinity negative =>
    have read := readLiteral_append dialect "Infinity" (.float (.infinity negative)) rest
    cases negative with
    | false => exact read
    | true =>
      change readAtom dialect ('-' :: 'I' :: ("nfinity".toList ++ rest)) = _
      rw [readAtom]
      rw [show 'I' :: ("nfinity".toList ++ rest) = "Infinity".toList ++ rest from rfl, read]
  | finite negative units representable => exact readAtom_float dialect negative representable stops

/-- Whether a value is neither a text nor a list nor an object. -/
def isAtom : Value → Bool
  | .text _ | .list _ | .object _ => false
  | _ => true

/-- A value without parts is read from its text. -/
theorem readAtom_render (dialect : Dialect) (layout : Layout) (level : Nat) {value : Value}
    (atom : isAtom value = true) (printable : value.Printable layout.plain) {rest : List Char}
    (stops : Stops rest) :
    readAtom dialect (render layout level value ++ rest) = .ok (value, rest) := by
  cases value with
  | null => exact readLiteral_append dialect "null" .null rest
  | bool b =>
    cases b with
    | false => exact readLiteral_append dialect "false" (.bool false) rest
    | true => exact readLiteral_append dialect "true" (.bool true) rest
  | int n =>
    have writable : Numeral.isWritable n = true := by
      simpa [Value.Printable, Value.anyPart, Value.isUnprintable] using printable
    exact readAtom_int dialect writable stops
  | float x => exact readAtom_writeFloat x stops
  | foreign => cases printable
  | text _ => cases atom
  | list _ => cases atom
  | object _ => cases atom

/-! ## Beginnings -/

/-- Characters that begin a value: not a gap, not the end of a list and not a byte order mark. -/
def Begins (cs : List Char) : Prop :=
  ∃ c rest, cs = c :: rest ∧ isGap c = false ∧ c ≠ ']' ∧ c ≠ Char.ofNat 0xFEFF

theorem Begins.skipGap_eq {cs : List Char} (begins : Begins cs) : skipGap cs = cs := by
  obtain ⟨c, rest, rfl, noGap, -⟩ := begins
  simp [skipGap, noGap]

theorem Begins.ne_nil {cs : List Char} (begins : Begins cs) : cs ≠ [] := by
  obtain ⟨c, rest, rfl, -⟩ := begins
  exact List.cons_ne_nil c rest

theorem Begins.ne_end {cs : List Char} (begins : Begins cs) (closed : List Char) :
    cs ≠ ']' :: closed := by
  obtain ⟨c, rest, rfl, -, noEnd, -⟩ := begins
  exact fun same => noEnd (List.cons.inj same).1

/-- What is written for a value begins a value. -/
theorem begins_render (layout : Layout) (level : Nat) {value : Value}
    (printable : value.Printable layout.plain) {rest : List Char} (stops : Stops rest) :
    Begins (render layout level value ++ rest) := by
  by_cases atom : isAtom value = true
  · obtain ⟨c, more, first, start⟩ :=
      start_of_readAtom (readAtom_render .stored layout level atom printable stops)
    refine ⟨c, more, first, ?_, ?_, ?_⟩
    · by_contra gap
      simp only [Bool.not_eq_false, isGap, Bool.or_eq_true, beq_iff_eq] at gap
      rcases gap with ((rfl | rfl) | rfl) | rfl <;> cases start
    · rintro rfl
      cases start
    · rintro rfl
      cases start
  · cases value with
    | text s => exact ⟨'"', _, rfl, rfl, by decide, by decide⟩
    | list items => cases items <;> exact ⟨'[', _, rfl, rfl, by decide, by decide⟩
    | object members =>
      rcases members with _ | ⟨⟨_, _⟩, _⟩ <;> exact ⟨'\x7b', _, rfl, rfl, by decide, by decide⟩
    | _ => exact absurd rfl atom

/-! ## Lists and objects -/

/-- Wherever a value is written, it is read as itself. -/
def ReadsBack (dialect : Dialect) (layout : Layout) (value : Value) : Prop :=
  ∀ {level fuel depth : Nat} {cs rest : List Char}, Stops rest →
    2 * (render layout level value).length < fuel →
    depth + value.nesting ≤ dialect.depthLimit →
    skipGap cs = render layout level value ++ rest →
    readValue dialect fuel depth cs = .ok (value, rest)

theorem stops_renderItems (layout : Layout) (level : Nat) (items : List Value) {rest : List Char}
    (stops : Stops rest) : Stops (renderItems layout level items ++ rest) := by
  cases items with
  | nil => exact stops
  | cons item items =>
    rw [renderItems, List.append_assoc, List.append_assoc]
    exact stops_separator level _

theorem stops_renderMembers (layout : Layout) (level : Nat) (members : List (String × Value))
    {rest : List Char} (stops : Stops rest) :
    Stops (renderMembers layout level members ++ rest) := by
  cases members with
  | nil => exact stops
  | cons member members =>
    rw [renderMembers, List.append_assoc, List.append_assoc, List.append_assoc, List.append_assoc]
    exact stops_separator level _

/-- What is written for items, the first one without the mark before it, is read as the items. -/
theorem readItems_render {level outer depth fuel : Nat} {item : Value} {items : List Value}
    (each : ∀ part ∈ item :: items, part.Printable layout.plain ∧ ReadsBack dialect layout part ∧
      depth + part.nesting ≤ dialect.depthLimit)
    (enough : 2 * ((render layout level item).length +
      (renderItems layout level items).length) + 1 < fuel) (tail : List Char) :
    readItems dialect fuel depth (render layout level item ++
      (renderItems layout level items ++ (lineGap layout outer ++ ']' :: tail))) =
        .ok (item :: items, tail) := by
  have closed : Stops (lineGap layout outer ++ ']' :: tail) :=
    stops_lineGap outer (stops_cons (c := ']') tail (by decide))
  induction items generalizing item fuel with
  | nil =>
    obtain ⟨fuel, rfl⟩ : ∃ less, fuel = less + 1 := ⟨fuel - 1, by omega⟩
    obtain ⟨⟨printable, readsBack, room⟩, -⟩ := List.forall_mem_cons.mp each
    refine readItems_last (readsBack closed (by omega) room
      (begins_render layout level printable closed).skipGap_eq) ?_
    exact skipGap_lineGap outer _
  | cons next more inductionHypothesis =>
    obtain ⟨fuel, rfl⟩ : ∃ less, fuel = less + 1 := ⟨fuel - 1, by omega⟩
    obtain ⟨⟨printable, readsBack, room⟩, others⟩ := List.forall_mem_cons.mp each
    obtain ⟨gap, mark, skips⟩ := separator_eq layout level
    simp only [renderItems, mark, List.length_append, List.length_cons, List.cons_append,
      List.append_assoc] at enough ⊢
    have begins := begins_render layout level (others next List.mem_cons_self).1
      (stops_renderItems layout level more closed)
    have stops (cs : List Char) : Stops (',' :: cs) := stops_cons cs (by decide)
    refine readItems_next (readsBack (stops _) (by omega) room
      (begins_render layout level printable (stops _)).skipGap_eq) rfl ?_ ?_ ?_
    all_goals rw [skips, begins.skipGap_eq]
    · exact begins.ne_nil
    · exact begins.ne_end
    · exact inductionHypothesis others (by omega)

/-- A name with its colon is read as the name from behind its opening quote. -/
theorem readName_writeText (dialect : Dialect) (plain : Bool) {name : String}
    (whole : plain = true → Text.holdsHalf name = false) (rest : List Char) :
    ∃ body, writeText plain name ++ ':' :: rest = '"' :: body ∧
      readName dialect body = .ok (name, rest) := by
  obtain ⟨body, quoted, read⟩ := readText_writeText dialect plain whole (':' :: rest)
  refine ⟨body, quoted, ?_⟩
  rw [readName_text (read body) rfl, String.ofList_toList]

/-- What is written for members, the first one without the mark before it, is read from behind
the quote that opens it as the members. -/
theorem readMembers_render (level outer : Nat) {depth fuel : Nat} {member : String × Value}
    {members : List (String × Value)} (shallow : depth < dialect.depthLimit)
    (each : ∀ part ∈ member :: members, (layout.plain = true → Text.holdsHalf part.1 = false) ∧
      part.2.Printable layout.plain ∧ ReadsBack dialect layout part.2 ∧
      depth + 1 + part.2.nesting ≤ dialect.depthLimit)
    (enough : 2 * ((render layout level member.2).length +
      (renderMembers layout level members).length) + 1 < fuel) (isFirst : Bool)
    (tail : List Char) :
    ∃ body, writeText layout.plain member.1 ++ ':' :: ' ' :: (render layout level member.2 ++
        (renderMembers layout level members ++ (lineGap layout outer ++ '\x7d' :: tail))) =
          '"' :: body ∧
      readMembers dialect fuel (depth + 1) isFirst body = .ok (member :: members, tail) := by
  obtain ⟨fuel, rfl⟩ : ∃ less, fuel = less + 1 := ⟨fuel - 1, by omega⟩
  obtain ⟨⟨whole, printable, readsBack, room⟩, others⟩ := List.forall_mem_cons.mp each
  have closed : Stops (lineGap layout outer ++ '\x7d' :: tail) :=
    stops_lineGap outer (stops_cons (c := '\x7d') tail (by decide))
  have stops := stops_renderMembers layout level members closed
  obtain ⟨body, quoted, named⟩ := readName_writeText dialect layout.plain whole
    (' ' :: (render layout level member.2 ++
      (renderMembers layout level members ++ (lineGap layout outer ++ '\x7d' :: tail))))
  refine ⟨body, quoted, ?_⟩
  have begins : skipGap (' ' :: (render layout level member.2 ++ _)) = _ :=
    (skipGap_space _).trans (begins_render layout level printable stops).skipGap_eq
  have read : readValue dialect fuel (depth + 1) _ = _ := readsBack stops (by omega) room begins
  cases members with
  | nil => exact readMembers_last isFirst shallow named read (skipGap_lineGap outer _)
  | cons next more =>
    obtain ⟨gap, mark, skips⟩ := separator_eq layout level
    have enoughMore : 2 * ((render layout level next.2).length +
        (renderMembers layout level more).length) + 1 < fuel := by
      simp only [renderMembers, mark, List.length_append, List.length_cons] at enough
      omega
    obtain ⟨nextBody, nextQuoted, nextRead⟩ :=
      readMembers_render level outer shallow others enoughMore false tail
    refine readMembers_next isFirst shallow named read ?_ (skips ('"' :: nextBody)) nextRead
    rw [← nextQuoted, renderMembers, mark]
    simp only [List.cons_append, List.append_assoc, List.nil_append]
    rfl
termination_by members.length

theorem keptMembers_eq {members : List (String × Value)} (distinct : (Entries.keys members).Nodup) :
    keptMembers dialect members = members := by
  cases dialect with
  | project => rfl
  | stored => exact Entries.ofPairs_of_nodup distinct

theorem readsBack_text {s : String} (whole : layout.plain = true → Text.holdsHalf s = false) :
    ReadsBack dialect layout (.text s) := by
  intro level fuel depth cs rest stops enough room begins
  obtain ⟨fuel, rfl⟩ : ∃ less, fuel = less + 1 := ⟨fuel - 1, by omega⟩
  obtain ⟨body, quoted, read⟩ := readText_writeText dialect layout.plain whole rest
  rw [render, quoted] at begins
  rw [readValue_text begins (read body), String.ofList_toList]

/-- A list is read back when its items are. -/
theorem readsBack_list {items : List Value}
    (each : ∀ part ∈ items, part.Printable layout.plain ∧ ReadsBack dialect layout part) :
    ReadsBack dialect layout (.list items) := by
  intro level fuel depth cs rest stops enough room begins
  rw [Value.nesting] at room
  obtain ⟨fuel, rfl⟩ : ∃ less, fuel = less + 1 := ⟨fuel - 1, by omega⟩
  have shallow : depth < dialect.depthLimit := by omega
  cases items with
  | nil => exact readValue_noItems begins shallow
  | cons item items =>
    have within : ∀ part ∈ item :: items, part.Printable layout.plain ∧
        ReadsBack dialect layout part ∧ depth + 1 + part.nesting ≤ dialect.depthLimit := by
      intro part member
      have parts := (Value.itemsNesting_le_iff (item :: items) _).mp (Nat.le_refl _) part member
      exact ⟨(each part member).1, (each part member).2, by omega⟩
    simp only [render, List.length_append, List.length_cons, List.cons_append,
      List.append_assoc, List.nil_append] at enough begins
    have closed : Stops (lineGap layout level ++ ']' :: rest) :=
      stops_lineGap level (stops_cons (c := ']') rest (by decide))
    have first := begins_render layout (level + 1) (each item List.mem_cons_self).1
      (stops_renderItems layout (level + 1) items closed)
    refine readValue_items begins shallow ?_ ?_ ?_
    all_goals rw [skipGap_lineGap, first.skipGap_eq]
    · exact first.ne_nil
    · exact first.ne_end
    · exact readItems_render within (by omega) rest

/-- An object with distinct names is read back when the values of its members are. -/
theorem readsBack_object {members : List (String × Value)}
    (distinct : (Entries.keys members).Nodup)
    (each : ∀ part ∈ members, (layout.plain = true → Text.holdsHalf part.1 = false) ∧
      part.2.Printable layout.plain ∧ ReadsBack dialect layout part.2) :
    ReadsBack dialect layout (.object members) := by
  intro level fuel depth cs rest stops enough room begins
  rw [Value.nesting] at room
  obtain ⟨fuel, rfl⟩ : ∃ less, fuel = less + 1 := ⟨fuel - 1, by omega⟩
  have shallow : depth < dialect.depthLimit := by omega
  cases members with
  | nil => exact readValue_noMembers begins shallow
  | cons member members =>
    have within : ∀ part ∈ member :: members,
        (layout.plain = true → Text.holdsHalf part.1 = false) ∧
        part.2.Printable layout.plain ∧ ReadsBack dialect layout part.2 ∧
          depth + 1 + part.2.nesting ≤ dialect.depthLimit := by
      intro part isPart
      have parts := (Value.membersNesting_le_iff (member :: members) _).mp (Nat.le_refl _) part
        isPart
      obtain ⟨whole, printable, readsBack⟩ := each part isPart
      exact ⟨whole, printable, readsBack, by omega⟩
    simp only [render, List.length_append, List.length_cons, List.cons_append,
      List.append_assoc, List.nil_append] at enough begins
    obtain ⟨body, quoted, read⟩ := readMembers_render (level + 1) level shallow within
      (show _ < fuel by omega) true rest
    rw [quoted] at begins
    rw [readValue_members begins shallow (skipGap_lineGap _ _) read, keptMembers_eq distinct]

/-- Every printable value whose objects have distinct names is read back from what is written for
it. -/
theorem readsBack_of_printable {value : Value} (printable : value.Printable layout.plain)
    (distinct : value.Distinct) : ReadsBack dialect layout value := by
  induction value using Value.partsInduction with
  | text s =>
    refine readsBack_text ?_
    simpa [Value.Printable, Value.anyPart, Value.isUnprintable] using printable
  | list items inductionHypothesis =>
    rw [Value.printable_list_iff] at printable
    rw [Value.Distinct, Value.distinctItems_iff] at distinct
    exact readsBack_list fun part member => ⟨printable part member,
      inductionHypothesis part member (printable part member) (distinct part member)⟩
  | object members inductionHypothesis =>
    rw [Value.printable_object_iff] at printable
    rw [Value.Distinct, Value.distinctMembers_iff] at distinct
    refine readsBack_object distinct.1 fun part isPart => ?_
    obtain ⟨whole, partPrintable⟩ := printable part isPart
    exact ⟨whole, partPrintable,
      inductionHypothesis part isPart partPrintable (distinct.2 part isPart)⟩
  | _ =>
    intro level fuel depth cs rest stops enough room begins
    obtain ⟨fuel, rfl⟩ : ∃ less, fuel = less + 1 := ⟨fuel - 1, by omega⟩
    refine readValue_atom ?_
    rw [begins]
    exact readAtom_render dialect layout level rfl printable stops

/-! ## Documents -/

/-- A printable value is read back from its document, unless it nests deeper than the dialect
allows. -/
theorem read_printable {value : Value} (printable : value.Printable layout.plain)
    (distinct : value.Distinct) (shallow : value.nesting ≤ dialect.depthLimit) :
    read dialect (String.ofList (render layout 0 value)) = .ok value := by
  have noRest : Stops [] := nofun
  have begins := begins_render layout 0 printable noRest
  have opened := begins.skipGap_eq
  obtain ⟨c, rest, first, -, -, noMark⟩ := begins
  have back : readValue dialect (2 * (render layout 0 value).length + 2) 0 _ = _ :=
    readsBack_of_printable printable distinct noRest (by omega) (by omega) opened
  rw [List.append_nil] at first back
  rw [read, String.toList_ofList, readCharacters, if_neg]
  · rw [back]
    rfl
  · simp [first, noMark]

/-- A portable value is read back from its document in any layout. -/
theorem read_render {value : Value} (portable : value.Portable) (distinct : value.Distinct)
    (shallow : value.nesting ≤ dialect.depthLimit) :
    read dialect (String.ofList (render layout 0 value)) = .ok value :=
  read_printable (portable.printable layout.plain) distinct shallow

end Gamebook.Json
