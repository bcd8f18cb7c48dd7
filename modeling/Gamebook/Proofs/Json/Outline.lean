import Gamebook.Proofs.Json.Standard

/-!
# Words outside texts

An outline keeps the characters of a document outside its texts, and the quotes. The word for
an undefined or infinite number begins with a letter that the outline of a standard document
never has. In the outline of a written value such a word stands as soon as one of its numbers
is not finite. So for written values it is the same that every number is finite, that they are
written in the standard way, and that neither word stands outside their texts.
-/

namespace Gamebook

/-- Whether a part is a number that is undefined or infinite. -/
def Value.isUnbounded : Value → Bool
  | .float x => !x.isFinite
  | _ => false

/-- Every number in the value is finite. -/
def Value.AllFinite (value : Value) : Prop := value.anyPart Value.isUnbounded = false

theorem Value.allFinite_list_iff (items : List Value) :
    (Value.list items).AllFinite ↔ ∀ item ∈ items, item.AllFinite :=
  Value.anyPart_list_eq_false_iff _ _

theorem Value.allFinite_object_iff (members : List (String × Value)) :
    (Value.object members).AllFinite ↔ ∀ member ∈ members, member.2.AllFinite := by
  simp [Value.AllFinite, Value.anyPart_object_eq_false_iff, Value.isUnbounded]

end Gamebook

namespace Gamebook.Json

/-! ## Finite numbers are written in the standard way -/

/-- A printable value in which every number is finite is spelled by what is written for it. -/
theorem spelled_render {layout : Layout} {value : Value} (printable : value.Printable layout.plain)
    (finite : value.AllFinite) (level : Nat) :
    Spelled (.value value) (render layout level value) := by
  induction value using Value.partsInduction generalizing level with
  | null => exact .null
  | bool b => exact .bool b
  | int n => exact .number (isNumeral_int n)
  | float x =>
    cases x with
    | finite negative units representable => exact .number (isNumeral_finite negative representable)
    | nan => cases finite
    | infinity negative => cases finite
  | text s =>
    have whole : layout.plain = true → Text.holdsHalf s = false := by
      simpa [Value.Printable, Value.anyPart, Value.isUnprintable] using printable
    exact .text (isQuoted_writeText layout.plain whole)
  | list items inductionHypothesis =>
    rw [Value.printable_list_iff] at printable
    rw [Value.allFinite_list_iff] at finite
    cases items with
    | nil => exact .noItems isGap_nil
    | cons item rest =>
      have items := spelled_renderItems (fun part member =>
        inductionHypothesis part member (printable part member) (finite part member) (level + 1))
        (isGap_lineGap layout (level + 1)) (isGap_lineGap layout level)
      simpa [render] using Spelled.list items
  | object members inductionHypothesis =>
    rw [Value.printable_object_iff] at printable
    rw [Value.allFinite_object_iff] at finite
    cases members with
    | nil => exact .noMembers isGap_nil
    | cons member rest =>
      have members := spelled_renderMembers (fun part isPart =>
        ⟨isQuoted_writeText layout.plain (printable part isPart).1,
          inductionHypothesis part isPart (printable part isPart).2 (finite part isPart)
            (level + 1)⟩)
        (isGap_lineGap layout (level + 1)) (isGap_lineGap layout level)
      simpa [render] using Spelled.object members
  | foreign => cases printable

/-! ## Outlines -/

/-- The characters outside texts, the quotes of the texts with them. Inside a text a backslash
takes the next character with it. -/
def outline : Bool → List Char → List Char
  | true, '\\' :: _ :: rest => outline true rest
  | inside, '"' :: rest => '"' :: outline (!inside) rest
  | true, _ :: rest => outline true rest
  | false, c :: rest => c :: outline false rest
  | _, [] => []

/-- Outside of texts the characters have this outline, whatever stands behind them. -/
def Outlines (cs ds : List Char) : Prop :=
  ∀ rest, outline false (cs ++ rest) = ds ++ outline false rest

namespace Outlines

theorem outline_eq {cs ds : List Char} (outlines : Outlines cs ds) : outline false cs = ds := by
  have whole := outlines []
  rwa [List.append_nil, outline, List.append_nil] at whole

theorem append {cs cs' ds ds' : List Char} (first : Outlines cs ds) (second : Outlines cs' ds') :
    Outlines (cs ++ cs') (ds ++ ds') := by
  intro rest
  rw [List.append_assoc, first, second, List.append_assoc]

/-- Characters without quotes are their own outline. -/
theorem self {cs : List Char} (noQuote : '"' ∉ cs) : Outlines cs cs := by
  intro rest
  induction cs with
  | nil => rfl
  | cons c others inductionHypothesis =>
    obtain ⟨here, there⟩ := not_or.mp (mt List.mem_cons.mpr noQuote)
    rw [List.cons_append, outline, inductionHypothesis there, List.cons_append]
    exact fun isQuote => here isQuote.symm

end Outlines

theorem hexValue?_apart {c : Char} (isDigit : (hexValue? c).isSome = true) :
    c ≠ '"' ∧ c ≠ '\\' := by
  constructor
  all_goals
    rintro rfl
    exact absurd isDigit (by decide)

theorem outline_character {c : Char} (noQuote : c ≠ '"') (noBackslash : c ≠ '\\')
    (rest : List Char) : outline true (c :: rest) = outline true rest := by
  rw [outline]
  · exact fun _ _ isBackslash => absurd isBackslash noBackslash
  · exact noQuote

/-- Nothing of what stands between quotes is in an outline. -/
theorem outline_body {body : List Char} (standard : IsTextBody body) (rest : List Char) :
    outline true (body ++ rest) = outline true rest := by
  induction standard with
  | nil => rfl
  | character noQuote noBackslash _ _ inductionHypothesis =>
    rw [List.cons_append, outline_character noQuote noBackslash, inductionHypothesis]
  | letter _ _ inductionHypothesis => exact inductionHypothesis
  | @numbered a b c d _ four _ inductionHypothesis =>
    have digits : (hexValue? a).isSome ∧ (hexValue? b).isSome ∧ (hexValue? c).isSome ∧
        (hexValue? d).isSome := by
      unfold fourHex? at four
      split at four
      next isA isB isC isD => simp [isA, isB, isC, isD]
      next => nomatch four
    obtain ⟨isA, isB, isC, isD⟩ := digits
    have skip {c : Char} (isDigit : (hexValue? c).isSome = true) (rest : List Char) :
        outline true (c :: rest) = outline true rest :=
      outline_character (hexValue?_apart isDigit).1 (hexValue?_apart isDigit).2 rest
    simp only [List.cons_append]
    rw [outline, skip isA, skip isB, skip isC, skip isD, inductionHypothesis]

/-- The outline of a text is its quotes. -/
theorem outlines_text {body : List Char} (standard : IsTextBody body) :
    Outlines ('"' :: (body ++ ['"'])) ['"', '"'] := by
  intro rest
  rw [List.cons_append, outline, List.append_assoc]
  simp [outline_body standard, outline]

/-! ## Words for other numbers -/

/-- Neither word for an undefined or infinite number stands in the characters. -/
structure Wordless (cs : List Char) : Prop where
  undefined : ¬"NaN".toList <:+: cs
  infinite : ¬"Infinity".toList <:+: cs

/-- What has no word has none in its parts. -/
theorem Wordless.of_infix {cs ds : List Char} (wordless : Wordless ds) (part : cs <:+: ds) :
    Wordless cs where
  undefined word := wordless.undefined (word.trans part)
  infinite word := wordless.infinite (word.trans part)

/-- What the words begin with. -/
def beginsWord (c : Char) : Bool := c == 'N' || c == 'I'

/-- The characters have an outline, in which there is nothing that the words begin with. -/
def Letterless (cs : List Char) : Prop := ∃ ds, Outlines cs ds ∧ ds.any beginsWord = false

namespace Letterless

theorem append {cs ds : List Char} (first : Letterless cs) (second : Letterless ds) :
    Letterless (cs ++ ds) := by
  obtain ⟨front, outlinesFront, frontLetterless⟩ := first
  obtain ⟨back, outlinesBack, backLetterless⟩ := second
  exact ⟨front ++ back, outlinesFront.append outlinesBack,
    by simp only [List.any_append, frontLetterless, backLetterless, Bool.or_self]⟩

/-- Characters that are neither quotes nor one of the letters. -/
theorem self {cs : List Char} (plain : (cs.any fun c => c == '"' || beginsWord c) = false) :
    Letterless cs := by
  rw [List.any_eq_false] at plain
  simp only [Bool.or_eq_true, beq_iff_eq, not_or] at plain
  refine ⟨cs, .self fun isQuote => (plain _ isQuote).1 rfl, List.any_eq_false.mpr ?_⟩
  exact fun c member => (plain c member).2

/-- Characters of a class without quotes and without those letters. -/
theorem ofClass (test : Char → Bool) (apart : ['"', 'N', 'I'].any test = false) {cs : List Char}
    (each : ∀ c ∈ cs, test c = true) : Letterless cs := by
  simp only [List.any_eq_false, List.forall_mem_cons] at apart
  refine self (List.any_eq_false.mpr fun c member => ?_)
  simp only [beginsWord, Bool.or_eq_true, beq_iff_eq]
  rintro (rfl | rfl | rfl)
  · exact apart.1 (each _ member)
  · exact apart.2.1 (each _ member)
  · exact apart.2.2.1 (each _ member)

theorem cons {c : Char} (plain : (c == '"' || beginsWord c) = false) {cs : List Char}
    (letterless : Letterless cs) : Letterless (c :: cs) := by
  have sign : Letterless [c] := self (by rw [List.any_cons, plain, List.any_nil, Bool.or_self])
  exact sign.append letterless

theorem text {body : List Char} (standard : IsTextBody body) :
    Letterless ('"' :: (body ++ ['"'])) := ⟨_, outlines_text standard, by decide⟩

theorem quoted {cs : List Char} {s : String} (quoted : IsQuoted cs s) : Letterless cs := by
  obtain ⟨standard, -⟩ := quoted
  exact .text standard

theorem gap {cs : List Char} (blank : IsGap cs) : Letterless cs :=
  ofClass isGap (by decide) blank

theorem numeral {cs : List Char} {value : Value} (numeral : IsNumeral cs value) :
    Letterless cs :=
  ofClass isNumeralCharacter (by decide) numeral.characters

theorem outline {cs : List Char} (letterless : Letterless cs) : Wordless (outline false cs) := by
  obtain ⟨ds, outlines, others⟩ := letterless
  rw [outlines.outline_eq]
  rw [List.any_eq_false] at others
  constructor
  · intro word
    exact others 'N' (word.subset (by decide)) rfl
  · intro word
    exact others 'I' (word.subset (by decide)) rfl

end Letterless

/-- Nothing that the grammar spells has in its outline what the words begin with. -/
theorem Spelled.letterless {phrase : Phrase} {cs : List Char} (spelled : Spelled phrase cs) :
    Letterless cs := by
  induction spelled with
  | null => exact .self (by decide)
  | bool b => cases b <;> exact .self (by decide)
  | number numeral => exact .numeral numeral
  | text quoted => exact .quoted quoted
  | noItems blank => exact .cons (by decide) (.append (.gap blank) (.self (by decide)))
  | list _ inductionHypothesis =>
    exact .cons (by decide) (inductionHypothesis.append (.self (by decide)))
  | noMembers blank => exact .cons (by decide) (.append (.gap blank) (.self (by decide)))
  | object _ inductionHypothesis =>
    exact .cons (by decide) (inductionHypothesis.append (.self (by decide)))
  | item front _ back inductionHypothesis =>
    exact .append (.gap front) (inductionHypothesis.append (.gap back))
  | lastItem _ inductionHypothesis => exact inductionHypothesis
  | nextItem _ _ first others => exact first.append (.cons (by decide) others)
  | member front named back _ inductionHypothesis =>
    exact .append (.gap front) (.append (.quoted named)
      (.append (.gap back) (.cons (by decide) inductionHypothesis)))
  | lastMember _ inductionHypothesis => exact inductionHypothesis
  | nextMember _ _ first others => exact first.append (.cons (by decide) others)

/-- Where a document is standard if the numbers of a value are finite, and they are finite if the
document has no word, these are the same, and the same as being standard at all. -/
theorem standard_iff_of {document : String} {value : Value}
    (standard : value.AllFinite → Standard document value)
    (finite : Wordless (outline false document.toList) → value.AllFinite) :
    (Standard document value ↔ value.AllFinite) ∧
      ((∃ other, Standard document other) ↔ value.AllFinite) ∧
      (Wordless (outline false document.toList) ↔ value.AllFinite) := by
  have wordless {other : Value} (isStandard : Standard document other) :
      Wordless (outline false document.toList) := isStandard.letterless.outline
  refine ⟨⟨fun isStandard => finite (wordless isStandard), standard⟩, ⟨?_, ?_⟩, finite, ?_⟩
  · rintro ⟨other, isStandard⟩
    exact finite (wordless isStandard)
  · exact fun allFinite => ⟨value, standard allFinite⟩
  · exact fun allFinite => wordless (standard allFinite)

/-- The characters have an outline, and what is said holds unless one of the words is in it. -/
def Tells (cs : List Char) (said : Prop) : Prop :=
  ∃ ds, Outlines cs ds ∧ (Wordless ds → said)

namespace Tells

theorem append {cs ds : List Char} {this that : Prop} (first : Tells cs this)
    (second : Tells ds that) : Tells (cs ++ ds) (this ∧ that) := by
  obtain ⟨front, outlinesFront, sayThis⟩ := first
  obtain ⟨back, outlinesBack, sayThat⟩ := second
  refine ⟨front ++ back, outlinesFront.append outlinesBack, fun wordless => ?_⟩
  exact ⟨sayThis (wordless.of_infix (List.prefix_append front back).isInfix),
    sayThat (wordless.of_infix (List.suffix_append front back).isInfix)⟩

theorem imp {cs : List Char} {this that : Prop} (tells : Tells cs this) (leads : this → that) :
    Tells cs that := by
  obtain ⟨ds, outlines, sayThis⟩ := tells
  exact ⟨ds, outlines, fun wordless => leads (sayThis wordless)⟩

theorem of_letterless {cs : List Char} (letterless : Letterless cs) {said : Prop} (holds : said) :
    Tells cs said := by
  obtain ⟨ds, outlines, -⟩ := letterless
  exact ⟨ds, outlines, fun _ => holds⟩

theorem behind {cs front : List Char} {said : Prop} (letterless : Letterless front)
    (tells : Tells cs said) : Tells (front ++ cs) said :=
  ((of_letterless letterless trivial).append tells).imp And.right

theorem before {cs back : List Char} {said : Prop} (letterless : Letterless back)
    (tells : Tells cs said) : Tells (cs ++ back) said :=
  (tells.append (of_letterless letterless trivial)).imp And.left

end Tells

/-! ## What is written -/

section Render

variable (layout : Layout) (level : Nat)

theorem letterless_lineGap : Letterless (lineGap layout level) := .gap (isGap_lineGap layout level)

theorem letterless_separator : Letterless (separator layout level) := by
  obtain ⟨gap, mark, blank⟩ := separator_gap layout level
  rw [mark]
  exact .cons (by decide) (.gap blank)

theorem letterless_close {c : Char} (plain : (c == '"' || beginsWord c) = false) :
    Letterless (lineGap layout level ++ [c]) :=
  (letterless_lineGap layout level).append (.cons plain (.self rfl))

theorem letterless_writeText (plain : Bool) (s : String) : Letterless (writeText plain s) :=
  .text (isTextBody_flatMap_escaped plain s.toList)

theorem letterless_name (plain : Bool) (s : String) :
    Letterless (writeText plain s ++ [':', ' ']) :=
  (letterless_writeText plain s).append (.self rfl)

/-- A float is finite unless one of the words is written for it. -/
theorem tells_writeFloat (x : Binary64) : Tells (writeFloat x) (Value.float x).AllFinite := by
  cases x with
  | finite negative units representable =>
    exact .of_letterless (.numeral (isNumeral_finite negative representable)) rfl
  | nan => exact ⟨_, .self (by decide), fun wordless => absurd ⟨[], [], rfl⟩ wordless.undefined⟩
  | infinity negative =>
    refine ⟨_, .self (by cases negative <;> decide), fun wordless => ?_⟩
    have word : "Infinity".toList <:+: (if negative then "-Infinity" else "Infinity").toList := by
      cases negative
      · exact ⟨[], [], rfl⟩
      · exact ⟨['-'], [], rfl⟩
    exact absurd word wordless.infinite

variable {layout level}

theorem tells_renderItems {items : List Value}
    (each : ∀ item ∈ items, Tells (render layout level item) item.AllFinite) :
    Tells (renderItems layout level items) (∀ item ∈ items, item.AllFinite) := by
  induction items with
  | nil => exact .of_letterless (.self rfl) (by simp)
  | cons item rest inductionHypothesis =>
    obtain ⟨here, there⟩ := List.forall_mem_cons.mp each
    have all := (here.behind (letterless_separator layout level)).append
      (inductionHypothesis there)
    exact all.imp fun both => List.forall_mem_cons.mpr both

theorem tells_renderMembers {members : List (String × Value)}
    (each : ∀ member ∈ members, Tells (render layout level member.2) member.2.AllFinite) :
    Tells (renderMembers layout level members) (∀ member ∈ members, member.2.AllFinite) := by
  induction members with
  | nil => exact .of_letterless (.self rfl) (by simp)
  | cons member rest inductionHypothesis =>
    obtain ⟨here, there⟩ := List.forall_mem_cons.mp each
    have front := (letterless_separator layout level).append (letterless_name layout.plain member.1)
    have all := (here.behind front).append (inductionHypothesis there)
    rw [renderMembers, List.append_assoc (separator layout level)]
    exact all.imp fun both => List.forall_mem_cons.mpr both

/-- In what is written for a value one of the words stands outside texts, or every number is
finite. -/
theorem tells_render (value : Value) : Tells (render layout level value) value.AllFinite := by
  induction value using Value.partsInduction generalizing level with
  | null => exact .of_letterless Spelled.null.letterless rfl
  | bool b => exact .of_letterless (Spelled.bool b).letterless rfl
  | int n => exact .of_letterless (.numeral (isNumeral_int n)) rfl
  | float x => exact tells_writeFloat x
  | text s => exact .of_letterless (letterless_writeText layout.plain s) rfl
  | list items inductionHypothesis =>
    rw [Value.allFinite_list_iff]
    cases items with
    | nil => exact .of_letterless (Spelled.noItems isGap_nil).letterless nofun
    | cons item rest =>
      obtain ⟨here, there⟩ := List.forall_mem_cons.mp fun item member =>
        @inductionHypothesis item member (level + 1)
      have inside : Tells _ (∀ part ∈ item :: rest, part.AllFinite) :=
        (here.append (tells_renderItems there)).imp fun both => List.forall_mem_cons.mpr both
      have front := (letterless_lineGap layout (level + 1)).cons (c := '[') (by decide)
      have back := letterless_close layout level (c := ']') (by decide)
      simpa [render] using (inside.behind front).before back
  | object members inductionHypothesis =>
    rw [Value.allFinite_object_iff]
    cases members with
    | nil => exact .of_letterless (Spelled.noMembers isGap_nil).letterless nofun
    | cons member rest =>
      obtain ⟨here, there⟩ := List.forall_mem_cons.mp fun member isMember =>
        @inductionHypothesis member isMember (level + 1)
      have inside : Tells _ (∀ part ∈ member :: rest, part.2.AllFinite) :=
        (here.append (tells_renderMembers there)).imp fun both => List.forall_mem_cons.mpr both
      have name := letterless_name layout.plain member.1
      have front := ((letterless_lineGap layout (level + 1)).append name).cons (c := '\x7b')
        (by decide)
      have back := letterless_close layout level (c := '\x7d') (by decide)
      simpa [render] using (inside.behind front).before back
  | foreign => exact .of_letterless (.self rfl) rfl

/-- What is written for a value has a word outside texts unless every number is finite. -/
theorem allFinite_of_wordless {value : Value}
    (wordless : Wordless (outline false (render layout level value))) : value.AllFinite := by
  obtain ⟨ds, outlines, finite⟩ := @tells_render layout level value
  rw [outlines.outline_eq] at wordless
  exact finite wordless

/-- A printable value is written as a standard document of it, or of anything, or without a word
outside texts, exactly when every number in it is finite. -/
theorem standard_print_iff {value : Value} (printable : value.Printable layout.plain)
    {document : String} (written : print layout value = .ok document) :
    (Standard document value ↔ value.AllFinite) ∧
      ((∃ other, Standard document other) ↔ value.AllFinite) ∧
      (Wordless (outline false document.toList) ↔ value.AllFinite) := by
  have characters : document.toList = render layout 0 value := by
    rw [print, printable.fault?_eq_none] at written
    rw [← Except.ok.inj written, String.toList_ofList]
  refine standard_iff_of (fun finite => ?_) fun wordless => ?_
  · have item := Spelled.item isGap_nil (spelled_render printable finite 0) isGap_nil
    rwa [List.nil_append, List.append_nil, ← characters] at item
  · rw [characters] at wordless
    exact allFinite_of_wordless wordless

end Render

end Gamebook.Json
