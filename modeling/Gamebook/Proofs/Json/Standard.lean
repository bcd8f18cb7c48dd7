import Gamebook.Proofs.Json.Float
import Gamebook.Proofs.Json.Parts
import Gamebook.Proofs.Json.Text

/-!
# Standard documents

The standard grammar of documents has a numeral for every number and no word for an undefined or
infinite one, so a reader that keeps to it takes nothing else. Numerals, texts and gaps are its
leaves; a document is a value between gaps, and the grammar says of each part what it spells.
Whole numbers, finite floats and texts are written as the grammar has them, in plain characters
or not, and items and members that are spelled one by one are spelled together.
-/

namespace Gamebook.Json

/-! ## Numerals -/

/-- The ways to write an exponent: its letter in either case, and a plus sign or none in front
of figures that are not below zero. -/
inductive WritesExponent : Option (Bool × List Char) → List Char → Prop
  | none : WritesExponent none []
  | below {mark : Char} {figures : List Char} (isMark : isExponentMark mark = true) :
      WritesExponent (some (true, figures)) (mark :: '-' :: figures)
  | above {mark : Char} {figures : List Char} (isMark : isExponentMark mark = true) :
      WritesExponent (some (false, figures)) (mark :: '+' :: figures)
  | unsigned {mark : Char} {figures : List Char} (isMark : isExponentMark mark = true) :
      WritesExponent (some (false, figures)) (mark :: figures)

/-- A numeral and its number: a minus sign or none, figures of which a zero in front stands
alone, and perhaps a point with figures behind it and an exponent. -/
inductive IsNumeral : List Char → Value → Prop
  | parts (negative : Bool) {parts : NumberParts} {exponent : List Char}
      (wellFormed : parts.WellFormed) (noRest : parts.rest = [])
      (writes : WritesExponent parts.exponent exponent) :
      IsNumeral (signCharacters negative ++
        (parts.whole ++ (NumberParts.fractionCharacters parts.fraction ++ exponent)))
        (parts.value negative)

/-- The characters of numerals. -/
def isNumeralCharacter (c : Char) : Bool :=
  isFigure c || isExponentMark c || c == '-' || c == '+' || c == '.'

theorem IsNumeral.characters {cs : List Char} {value : Value} (numeral : IsNumeral cs value) :
    ∀ c ∈ cs, isNumeralCharacter c = true := by
  obtain ⟨negative, wellFormed, -, writes⟩ := numeral
  have figures {ds : List Char} (all : ∀ c ∈ ds, isFigure c = true) :
      ∀ c ∈ ds, isNumeralCharacter c = true := fun c member => by
    simp only [isNumeralCharacter, all c member, Bool.true_or]
  have mark {c : Char} (isMark : isExponentMark c = true) : isNumeralCharacter c = true := by
    simp only [isNumeralCharacter, isMark, Bool.or_true, Bool.true_or]
  simp only [List.forall_mem_append]
  refine ⟨?_, figures wellFormed.whole.2, ?_, ?_⟩
  · cases negative
    · exact nofun
    · exact List.forall_mem_singleton.mpr rfl
  · generalize isFraction : NumberParts.fraction _ = fraction
    cases fraction with
    | none => simp [NumberParts.fractionCharacters]
    | some places =>
      exact List.forall_mem_cons.mpr ⟨rfl, figures (wellFormed.fraction places isFraction).2⟩
  · generalize isExponent : NumberParts.exponent _ = exponent at writes
    cases writes with
    | none => simp
    | below isMark =>
      have size := (wellFormed.exponent _ _ isExponent).2
      exact List.forall_mem_cons.mpr ⟨mark isMark, List.forall_mem_cons.mpr ⟨rfl, figures size⟩⟩
    | above isMark =>
      have size := (wellFormed.exponent _ _ isExponent).2
      exact List.forall_mem_cons.mpr ⟨mark isMark, List.forall_mem_cons.mpr ⟨rfl, figures size⟩⟩
    | unsigned isMark =>
      have size := (wellFormed.exponent _ _ isExponent).2
      exact List.forall_mem_cons.mpr ⟨mark isMark, figures size⟩

theorem writesExponent_characters (exponent : Option (Bool × List Char)) :
    WritesExponent exponent (NumberParts.exponentCharacters exponent) := by
  rcases exponent with _ | ⟨_ | _, figures⟩
  · exact .none
  · exact .above rfl
  · exact .below rfl

/-- The characters of well-formed parts with nothing behind them are a numeral. -/
theorem isNumeral_characters (negative : Bool) {parts : NumberParts}
    (wellFormed : parts.WellFormed) (noRest : parts.rest = []) :
    IsNumeral (signCharacters negative ++ parts.characters) (parts.value negative) := by
  have numeral : IsNumeral _ _ :=
    .parts negative wellFormed noRest (writesExponent_characters parts.exponent)
  rwa [NumberParts.characters, noRest, List.append_nil]

theorem isNumeral_int (n : Int) : IsNumeral (Numeral.text n).toList (.int n) := by
  have noRest : Stops [] := nofun
  have numeral := isNumeral_characters (n < 0) (wellFormed_toDigits n.natAbs noRest) rfl
  rw [value_toDigits] at numeral
  rw [toList_text]
  simpa [NumberParts.characters, NumberParts.fractionCharacters,
    NumberParts.exponentCharacters] using numeral

theorem isNumeral_finite (negative : Bool) {units : Nat} (representable : Representable units) :
    IsNumeral (writeFloat (.finite negative units representable))
      (.float (.finite negative units representable)) := by
  obtain ⟨parts, characters, wellFormed, -, noRest, value⟩ :=
    magnitudeText_characters representable [] nofun
  have numeral := isNumeral_characters negative wellFormed noRest
  rw [value, Binary64.ofUnits, dif_pos representable, ← characters, List.append_nil] at numeral
  cases negative <;> simpa [writeFloat, Decimal.text, signCharacters] using numeral

/-! ## Texts -/

/-- What stands between the quotes of a text: characters other than quotes, backslashes and
controls, and escapes of a letter or of four hexadecimal digits. -/
inductive IsTextBody : List Char → Prop
  | nil : IsTextBody []
  | character {c : Char} {rest : List Char} (noQuote : c ≠ '"') (noBackslash : c ≠ '\\')
      (noControl : 0x20 ≤ c.toNat) (others : IsTextBody rest) : IsTextBody (c :: rest)
  | letter {c : Char} {rest : List Char} (known : (escapedCharacter? c).isSome = true)
      (others : IsTextBody rest) : IsTextBody ('\\' :: c :: rest)
  | numbered {a b c d : Char} {rest : List Char} (four : (fourHex? a b c d).isSome = true)
      (others : IsTextBody rest) : IsTextBody ('\\' :: 'u' :: a :: b :: c :: d :: rest)

/-- A text between its quotes, and what it is read as. -/
inductive IsQuoted : List Char → String → Prop
  | body {body : List Char} {s : String} (standard : IsTextBody body)
      (read : ∀ begun, readText .stored begun none (body ++ ['"']) = .ok (s.toList, [])) :
      IsQuoted ('"' :: (body ++ ['"'])) s

theorem isTextBody_numbered {n : Nat} (small : n < 0x10000) {rest : List Char}
    (others : IsTextBody rest) : IsTextBody (numbered n ++ rest) := by
  obtain ⟨a, b, c, d, digits, four⟩ := fourHex?_hexDigits small
  rw [numbered, digits]
  exact .numbered (by rw [four]; rfl) others

theorem half_lt {c : Char} {half : Nat} (isHalf : Text.half? c = some half) : half < 0x10000 := by
  unfold Text.half? at isHalf
  split at isHalf
  next inside =>
    obtain ⟨-, below⟩ := (Bool.and_eq_true _ _).mp inside
    have below := of_decide_eq_true below
    obtain rfl := Option.some.inj isHalf
    unfold Text.halfPlace at *
    omega
  next => nomatch isHalf

/-- What is written for a character may stand in a text. -/
theorem isTextBody_escaped (plain : Bool) (c : Char) {rest : List Char}
    (others : IsTextBody rest) : IsTextBody (escaped plain c ++ rest) := by
  have valid : c.toNat < 0xD800 ∨ 0xDFFF < c.toNat ∧ c.toNat < 0x110000 := c.valid
  fun_cases escaped plain c
  -- A character by its number: a control, one below 65536, a half, or the two halves of a pair.
  case case8 control => exact isTextBody_numbered (by omega) others
  case case10 small => exact isTextBody_numbered small others
  case case11 half isHalf => exact isTextBody_numbered (half_lt isHalf) others
  case case12 offset =>
    rw [List.append_assoc]
    exact isTextBody_numbered (by omega) (isTextBody_numbered (by omega) others)
  case case9 noQuote noBackslash _ _ _ _ _ noControl _ =>
    exact .character noQuote noBackslash (Nat.le_of_not_lt noControl) others
  -- What is left is escaped by a letter or a sign.
  all_goals exact .letter rfl others

/-- What is written between quotes may stand there, halves or not. -/
theorem isTextBody_flatMap_escaped (plain : Bool) (cs : List Char) :
    IsTextBody (cs.flatMap (escaped plain)) := by
  induction cs with
  | nil => exact .nil
  | cons c rest inductionHypothesis => exact isTextBody_escaped plain c inductionHypothesis

/-- A text is written in the standard way. -/
theorem isQuoted_writeText (plain : Bool) {s : String}
    (whole : plain = true → Text.holdsHalf s = false) : IsQuoted (writeText plain s) s := by
  refine .body (isTextBody_flatMap_escaped plain s.toList) fun begun => ?_
  exact readText_characters .stored begun plain
    (fun isPlain => (Text.holdsHalf_eq_false_iff s).mp (whole isPlain)) []

/-! ## Documents -/

/-- Blanks between the parts of a document. -/
def IsGap (cs : List Char) : Prop := ∀ c ∈ cs, isGap c = true

/-- What the grammar spells: a value, a value between gaps, the items of a list, a member, and
the members of an object. Items and members are not empty. -/
inductive Phrase
  | value (value : Value)
  | item (value : Value)
  | items (items : List Value)
  | member (name : String) (value : Value)
  | members (members : List (String × Value))

/-- The standard grammar of documents. -/
inductive Spelled : Phrase → List Char → Prop
  | null : Spelled (.value .null) "null".toList
  | bool (b : Bool) : Spelled (.value (.bool b)) (if b then "true" else "false").toList
  | number {value : Value} {cs : List Char} (numeral : IsNumeral cs value) :
      Spelled (.value value) cs
  | text {s : String} {cs : List Char} (quoted : IsQuoted cs s) : Spelled (.value (.text s)) cs
  | noItems {gap : List Char} (blank : IsGap gap) :
      Spelled (.value (.list [])) ('[' :: (gap ++ [']']))
  | list {items : List Value} {cs : List Char} (inside : Spelled (.items items) cs) :
      Spelled (.value (.list items)) ('[' :: (cs ++ [']']))
  | noMembers {gap : List Char} (blank : IsGap gap) :
      Spelled (.value (.object [])) ('\x7b' :: (gap ++ ['\x7d']))
  | object {members : List (String × Value)} {cs : List Char}
      (inside : Spelled (.members members) cs) :
      Spelled (.value (.object members)) ('\x7b' :: (cs ++ ['\x7d']))
  | item {value : Value} {before cs after : List Char} (front : IsGap before)
      (spelled : Spelled (.value value) cs) (back : IsGap after) :
      Spelled (.item value) (before ++ (cs ++ after))
  | lastItem {value : Value} {cs : List Char} (last : Spelled (.item value) cs) :
      Spelled (.items [value]) cs
  | nextItem {value : Value} {items : List Value} {cs rest : List Char}
      (first : Spelled (.item value) cs) (others : Spelled (.items items) rest) :
      Spelled (.items (value :: items)) (cs ++ ',' :: rest)
  | member {name : String} {value : Value} {before quoted after cs : List Char}
      (front : IsGap before) (named : IsQuoted quoted name) (back : IsGap after)
      (spelled : Spelled (.item value) cs) :
      Spelled (.member name value) (before ++ (quoted ++ (after ++ ':' :: cs)))
  | lastMember {name : String} {value : Value} {cs : List Char}
      (last : Spelled (.member name value) cs) : Spelled (.members [(name, value)]) cs
  | nextMember {name : String} {value : Value} {members : List (String × Value)}
      {cs rest : List Char} (first : Spelled (.member name value) cs)
      (others : Spelled (.members members) rest) :
      Spelled (.members ((name, value) :: members)) (cs ++ ',' :: rest)

/-- A standard document of a value. -/
def Standard (document : String) (value : Value) : Prop := Spelled (.item value) document.toList

/-! ## What is written -/

theorem isGap_nil : IsGap [] := nofun

theorem isGap_space : IsGap [' '] := List.forall_mem_singleton.mpr rfl

section Written

variable (layout : Layout)

theorem isGap_lineGap (level : Nat) : IsGap (lineGap layout level) := by
  unfold lineGap
  split
  next => exact isGap_nil
  next width _ =>
    refine List.forall_mem_cons.mpr ⟨rfl, fun c member => ?_⟩
    rw [List.eq_of_mem_replicate member]
    rfl

/-- The mark between neighbours is a comma with a gap behind it. -/
theorem separator_gap (level : Nat) : ∃ gap, separator layout level = ',' :: gap ∧ IsGap gap := by
  unfold separator
  split
  next => exact ⟨[' '], rfl, isGap_space⟩
  next => exact ⟨lineGap layout level, rfl, isGap_lineGap layout level⟩

variable {layout}

/-- Items that are spelled one by one are spelled together, in whatever gaps they stand. -/
theorem spelled_renderItems {level : Nat} {item : Value} {items : List Value}
    (each : ∀ part ∈ item :: items, Spelled (.value part) (render layout level part))
    {before after : List Char} (front : IsGap before) (back : IsGap after) :
    Spelled (.items (item :: items))
      (before ++ (render layout level item ++ (renderItems layout level items ++ after))) := by
  induction items generalizing item before with
  | nil => exact .lastItem (.item front (each item List.mem_cons_self) back)
  | cons next more inductionHypothesis =>
    obtain ⟨here, there⟩ := List.forall_mem_cons.mp each
    obtain ⟨gap, mark, blank⟩ := separator_gap layout level
    have spelled := Spelled.nextItem (.item front here isGap_nil) (inductionHypothesis there blank)
    simpa only [renderItems, mark, List.append_assoc, List.cons_append, List.append_nil,
      List.nil_append] using spelled

/-- So are members. -/
theorem spelled_renderMembers {level : Nat} {member : String × Value}
    {members : List (String × Value)}
    (each : ∀ part ∈ member :: members, IsQuoted (writeText layout.plain part.1) part.1 ∧
      Spelled (.value part.2) (render layout level part.2))
    {before after : List Char} (front : IsGap before) (back : IsGap after) :
    Spelled (.members (member :: members))
      (before ++ (writeText layout.plain member.1 ++ ':' :: ' ' ::
        (render layout level member.2 ++ (renderMembers layout level members ++ after)))) := by
  induction members generalizing member before with
  | nil =>
    obtain ⟨named, spelled⟩ := each member List.mem_cons_self
    have last := Spelled.member front named isGap_nil (.item isGap_space spelled back)
    exact .lastMember last
  | cons next more inductionHypothesis =>
    obtain ⟨⟨named, spelled⟩, there⟩ := List.forall_mem_cons.mp each
    obtain ⟨gap, mark, blank⟩ := separator_gap layout level
    have first := Spelled.member front named isGap_nil (.item isGap_space spelled isGap_nil)
    have both := Spelled.nextMember first (inductionHypothesis there blank)
    simpa only [renderMembers, mark, List.append_assoc, List.cons_append, List.append_nil,
      List.nil_append] using both

end Written

end Gamebook.Json
