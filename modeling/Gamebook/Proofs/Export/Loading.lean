import Gamebook.Proofs.Export.Page
import Gamebook.Proofs.Json.Outline
import Gamebook.Proofs.Story.Written

/-!
# Pages whose data a strict reader loads

The data of a page is written with words for undefined and infinite numbers, and a reader that
keeps to the standard grammar takes no such word. Only the values of rules are numbers there, and
validation asks of a value that it is a number and not that it is finite. So of an admitted story
the data is a standard document exactly when every value of a rule is finite; else a word stands
in it outside its texts, and it is a standard document of nothing at all. Numbering the risky
characters changes none of this, as neither a numeral nor a word has one.
-/

namespace Gamebook

/-! ## The values of rules -/

/-- The values of the requirements and the consequences of a choice. -/
def Choice.ruleValues (choice : Choice) : List Scalar :=
  choice.requirements.map (·.value) ++ choice.consequences.map (·.value)

/-- The values of all rules of a story. -/
def Project.ruleValues (project : Project) : List Scalar :=
  project.scenes.flatMap fun scene => scene.choices.flatMap Choice.ruleValues

/-- No rule of the story has an undefined or infinite number for its value. -/
def Project.FiniteRules (project : Project) : Prop :=
  ∀ x, Scalar.float x ∈ project.ruleValues → x.isFinite = true

namespace Value

section Tests

variable {test : Value → Bool} (noText : ∀ s, test (.text s) = false)

theorem anyPart_ofScalar (test : Value → Bool) (x : Scalar) :
    (ofScalar x).anyPart test = test (ofScalar x) := by
  cases x <;> rfl

include noText

/-- Of an object only the values count for a test that no text passes. -/
theorem anyPart_record_eq_false_iff (members : List (String × Value)) :
    (Value.object members).anyPart test = false ↔
      ∀ member ∈ members, member.2.anyPart test = false := by
  simp [anyPart_object_eq_false_iff, noText]

theorem anyPart_text (s : String) : (Value.text s).anyPart test = false := noText s

theorem anyPart_choice_eq_false_iff (choice : Choice) : choice.toValue.anyPart test = false ↔
    ∀ value ∈ choice.ruleValues, test (ofScalar value) = false := by
  simp only [Choice.toValue, Condition.toValue, Consequence.toValue, Choice.ruleValues,
    anyPart_record_eq_false_iff noText, anyPart_list_eq_false_iff, List.forall_mem_cons,
    List.forall_mem_map, List.forall_mem_append, anyPart_text noText, anyPart_ofScalar,
    List.not_mem_nil, IsEmpty.forall_iff, implies_true, true_and, and_true]

/-- A test that neither texts nor nothing pass asks of the data of a story only the values of
rules. -/
theorem anyPart_storyData_eq_false_iff (noNull : test .null = false) (project : Project) :
    (Page.storyData project).anyPart test = false ↔
      ∀ value ∈ project.ruleValues, test (ofScalar value) = false := by
  have optional (s : Option String) : (ofText? s).anyPart test = false := by
    cases s
    · exact noNull
    · exact noText _
  simp only [Page.storyData, Scene.toValue, Project.ruleValues,
    anyPart_record_eq_false_iff noText, anyPart_list_eq_false_iff, List.forall_mem_cons,
    List.forall_mem_map, List.forall_mem_flatMap, anyPart_text noText, optional,
    anyPart_choice_eq_false_iff noText,
    List.not_mem_nil, IsEmpty.forall_iff, implies_true, true_and, and_true]

end Tests

end Value

end Gamebook

namespace Gamebook.Page

open Json

/-! ## Standard documents with numbered risky characters -/

theorem numberRisky_concat {c : Char} (plain : isRisky c = false) (cs : List Char) :
    numberRisky (cs ++ [c]) = numberRisky cs ++ [c] := by
  rw [numberRisky_append, numberRisky_plain plain, numberRisky_nil]

theorem isTextBody_numberRisky {body : List Char} (standard : IsTextBody body) :
    IsTextBody (numberRisky body) := by
  induction standard with
  | nil => exact .nil
  | @character c _ noQuote noBackslash noControl _ inductionHypothesis =>
    cases risky : isRisky c with
    | true =>
      rw [numberRisky_risky risky]
      exact isTextBody_numbered (numbered_plain risky).1 inductionHypothesis
    | false =>
      rw [numberRisky_plain risky]
      exact .character noQuote noBackslash noControl inductionHypothesis
  | letter known _ inductionHypothesis =>
    have plain := isRisky_eq_false (fun c => (escapedCharacter? c).isSome) (by decide) known
    rw [numberRisky_plain (by decide), numberRisky_plain plain]
    exact .letter known inductionHypothesis
  | numbered four _ inductionHypothesis =>
    obtain ⟨n, isNumber⟩ := Option.isSome_iff_exists.mp four
    rw [numberRisky_fourHex isNumber]
    exact .numbered four inductionHypothesis

theorem isQuoted_numberRisky {cs : List Char} {s : String} (quoted : IsQuoted cs s) :
    IsQuoted (numberRisky cs) s := by
  obtain ⟨standard, read⟩ := quoted
  rw [numberRisky_plain (by decide), numberRisky_concat (by decide)]
  refine .body (isTextBody_numberRisky standard) fun begun => ?_
  have survives := readText_numberRisky .stored [] begun none _ _ _ (read [])
  rwa [numberRisky_concat (by decide), numberRisky_nil] at survives

theorem numberRisky_gap {cs : List Char} (blank : IsGap cs) : numberRisky cs = cs :=
  numberRisky_eq fun c member => isRisky_eq_false Json.isGap (by decide) (blank c member)

theorem numberRisky_numeral {cs : List Char} {value : Value} (numeral : IsNumeral cs value) :
    numberRisky cs = cs :=
  numberRisky_eq fun c member =>
    isRisky_eq_false isNumeralCharacter (by decide) (numeral.characters c member)

/-- What the grammar spells it spells with risky characters numbered. -/
theorem spelled_numberRisky {phrase : Phrase} {cs : List Char} (spelled : Spelled phrase cs) :
    Spelled phrase (numberRisky cs) := by
  induction spelled with
  | null => exact .null
  | bool b => cases b <;> exact .bool _
  | number numeral =>
    rw [numberRisky_numeral numeral]
    exact .number numeral
  | text quoted => exact .text (isQuoted_numberRisky quoted)
  | noItems blank =>
    rw [numberRisky_plain (by decide), numberRisky_concat (by decide), numberRisky_gap blank]
    exact .noItems blank
  | list _ inductionHypothesis =>
    rw [numberRisky_plain (by decide), numberRisky_concat (by decide)]
    exact .list inductionHypothesis
  | noMembers blank =>
    rw [numberRisky_plain (by decide), numberRisky_concat (by decide), numberRisky_gap blank]
    exact .noMembers blank
  | object _ inductionHypothesis =>
    rw [numberRisky_plain (by decide), numberRisky_concat (by decide)]
    exact .object inductionHypothesis
  | item front _ back inductionHypothesis =>
    rw [numberRisky_append, numberRisky_append, numberRisky_gap front, numberRisky_gap back]
    exact .item front inductionHypothesis back
  | lastItem _ inductionHypothesis => exact .lastItem inductionHypothesis
  | nextItem _ _ first others =>
    rw [numberRisky_append, numberRisky_plain (by decide)]
    exact .nextItem first others
  | member front named back _ inductionHypothesis =>
    rw [numberRisky_append, numberRisky_append, numberRisky_append, numberRisky_plain (by decide),
      numberRisky_gap front, numberRisky_gap back]
    exact .member front (isQuoted_numberRisky named) back inductionHypothesis
  | lastMember _ inductionHypothesis => exact .lastMember inductionHypothesis
  | nextMember _ _ first others =>
    rw [numberRisky_append, numberRisky_plain (by decide)]
    exact .nextMember first others

/-! ## Words among numbered risky characters -/

/-- Inside a text nothing of a risky character's number is in the outline, and not even where a
backslash takes the first sign of it. -/
theorem outline_numbered {c : Char} (risky : isRisky c = true) (rest : List Char) :
    outline true (numbered c.toNat ++ rest) = outline true rest ∧
      outline true ('\\' :: (numbered c.toNat ++ rest)) = outline true rest := by
  rcases isRisky_cases risky with rfl | rfl | rfl | rfl | rfl <;> exact ⟨rfl, rfl⟩

/-- The outline of numbered characters is the numbered outline. -/
theorem outline_numberRisky (inside : Bool) (cs : List Char) :
    outline inside (numberRisky cs) = numberRisky (outline inside cs) := by
  fun_induction outline inside cs
  case case1 c rest inductionHypothesis =>
    rw [numberRisky_plain (by decide)]
    cases risky : isRisky c with
    | true => rw [numberRisky_risky risky, (outline_numbered risky _).2, inductionHypothesis]
    | false => rw [numberRisky_plain risky, outline, inductionHypothesis]
  case case2 rest inductionHypothesis =>
    rw [numberRisky_plain (by decide), outline, inductionHypothesis, numberRisky_plain (by decide)]
  case case3 c rest noBackslash noQuote inductionHypothesis =>
    cases risky : isRisky c with
    | true => rw [numberRisky_risky risky, (outline_numbered risky _).1, inductionHypothesis]
    | false =>
      rw [numberRisky_plain risky, outline, inductionHypothesis]
      · rintro d others rfl isRest
        cases rest with
        | nil => cases isRest
        | cons next more => exact noBackslash next more rfl rfl
      · exact noQuote
  case case4 c rest noQuote inductionHypothesis =>
    cases risky : isRisky c with
    | true =>
      have noQuote : '"' ∉ numbered c.toNat := by
        rcases isRisky_cases risky with rfl | rfl | rfl | rfl | rfl <;> decide
      rw [numberRisky_risky risky, numberRisky_risky risky, Outlines.self noQuote,
        inductionHypothesis]
    | false =>
      rw [numberRisky_plain risky, numberRisky_plain risky, outline, inductionHypothesis]
      exact noQuote
  case case5 => rw [numberRisky_nil, outline]

theorem wordless_of_numberRisky {cs : List Char} (wordless : Wordless (numberRisky cs)) :
    Wordless cs := by
  have kept {word : List Char} (plain : word.any isRisky = false) (isPart : word <:+: cs) :
      word <:+: numberRisky cs := by
    obtain ⟨front, back, rfl⟩ := isPart
    have same : numberRisky word = word := numberRisky_eq (by simpa using plain)
    rw [numberRisky_append, numberRisky_append, same]
    exact ⟨_, _, rfl⟩
  exact ⟨fun word => wordless.undefined (kept (by decide) word),
    fun word => wordless.infinite (kept (by decide) word)⟩

/-! ## The data of a page -/

/-- The numbers in the data of a story are those of its rules. -/
theorem storyData_allFinite_iff (project : Project) :
    (storyData project).AllFinite ↔ project.FiniteRules := by
  rw [Value.AllFinite, Value.anyPart_storyData_eq_false_iff (fun _ => rfl) rfl]
  constructor
  · intro each x isValue
    simpa [Value.ofScalar, Value.isUnbounded] using each _ isValue
  · intro finite value isValue
    cases value with
    | float x => simpa [Value.ofScalar, Value.isUnbounded] using finite x isValue
    | _ => rfl

/-- The data of a story is written unless a rule has a whole number with too many digits. -/
theorem dataBlock_written_iff (project : Project) :
    (∃ block, dataBlock project = .ok block) ↔ ∀ value ∈ project.ruleValues, value.Quotable := by
  have printable : Json.fault? (storyData project) = none ↔ (storyData project).Printable false :=
    ⟨Value.printable_of_fault?_eq_none nofun, Value.Printable.fault?_eq_none⟩
  simp only [dataBlock_eq_ok_iff, exists_and_left, exists_eq', and_true]
  rw [printable, Value.Printable, Value.anyPart_storyData_eq_false_iff (fun _ => rfl) rfl]
  refine forall₂_congr fun value _ => ?_
  rw [← Value.printable_ofScalar_iff, Value.Printable, Value.anyPart_ofScalar]

/-- The data in a page is a standard document of the story data, or of anything, or without a
word outside texts, exactly when the rules are finite. -/
theorem dataBlock_standard_iff {project : Project} {block : String}
    (written : dataBlock project = .ok block) :
    (Standard block (storyData project) ↔ project.FiniteRules) ∧
      ((∃ value, Standard block value) ↔ project.FiniteRules) ∧
      (Wordless (outline false block.toList) ↔ project.FiniteRules) := by
  obtain ⟨noFault, rfl⟩ := (dataBlock_eq_ok_iff project block).mp written
  rw [← storyData_allFinite_iff]
  refine standard_iff_of (fun finite => ?_) fun wordless => ?_
  · have printable : (storyData project).Printable oneLine.plain :=
      Value.printable_of_fault?_eq_none nofun noFault
    have item := Spelled.item isGap_nil (spelled_render printable finite 0) isGap_nil
    rw [List.nil_append, List.append_nil] at item
    rw [Standard, String.toList_ofList]
    exact spelled_numberRisky item
  · rw [String.toList_ofList, outline_numberRisky] at wordless
    exact allFinite_of_wordless (wordless_of_numberRisky wordless)

end Gamebook.Page

namespace Gamebook.Export

open Page

/-- An admitted story has a page unless a rule has a whole number with too many digits. What the
page holds between its tags is a standard document of the story data, or a standard document at
all, or free of words for undefined and infinite numbers, exactly when the rules are finite. -/
theorem page_loads_iff {project : Project}
    (admitted : (Validation.report project).isValid = true) :
    ((∃ text, page project = .ok text) ↔ ∀ value ∈ project.ruleValues, value.Quotable) ∧
      ∀ text, page project = .ok text → ∃ block, dataBlock project = .ok block ∧
        text = document project block ∧
        (Json.Standard block (storyData project) ↔ project.FiniteRules) ∧
        ((∃ value, Json.Standard block value) ↔ project.FiniteRules) ∧
        (Json.Wordless (Json.outline false block.toList) ↔ project.FiniteRules) := by
  constructor
  · rw [← dataBlock_written_iff]
    constructor
    · rintro ⟨text, written⟩
      obtain ⟨-, block, isBlock, -⟩ := (page_eq_ok_iff project text).mp written
      exact ⟨block, isBlock⟩
    · rintro ⟨block, isBlock⟩
      exact ⟨_, (page_eq_ok_iff project _).mpr ⟨admitted, block, isBlock, rfl⟩⟩
  · intro text written
    obtain ⟨-, block, isBlock, isDocument⟩ := (page_eq_ok_iff project text).mp written
    exact ⟨block, isBlock, isDocument, dataBlock_standard_iff isBlock⟩

/-- A story whose texts are full of words for other numbers. -/
def wordStory : Project :=
  { lampStory with
    name := "NaN"
    scenes :=
      [{ id := "hall", title := "\"Infinity", description := "\\\": NaN"
         choices :=
           [{ id := "rest", text := "<Infinity>"
              consequences :=
                [⟨.attribute, "heat", .float (Binary64.ofDecimal true 5 1 (-1)), .add⟩] }] }] }

theorem wordStory_structured : Validation.Structured wordStory where
  scenes := by decide
  start := by decide
  sceneIds := by decide
  choiceIds := by decide
  targets := by decide
  conditions := by decide
  consequences := by decide +kernel
  kinds := by decide

theorem wordStory_ruleValues :
    wordStory.ruleValues = [.float (Binary64.ofDecimal true 5 1 (-1))] := rfl

/-- A strict reader loads the page of a story that has the words in its texts only. -/
theorem page_loads_words : ∃ text block, page wordStory = .ok text ∧
    dataBlock wordStory = .ok block ∧ text = document wordStory block ∧
    Json.Standard block (storyData wordStory) ∧
    Json.Wordless (Json.outline false block.toList) := by
  have admitted := (Validation.isValid_iff wordStory).mpr wordStory_structured
  obtain ⟨hasPage, loads⟩ := page_loads_iff admitted
  have quotable : ∀ value ∈ wordStory.ruleValues, value.Quotable := by
    simp [wordStory_ruleValues, Scalar.Quotable]
  have finite : wordStory.FiniteRules := by
    intro x isValue
    simp only [wordStory_ruleValues, List.mem_singleton, Scalar.float.injEq] at isValue
    rw [isValue]
    decide +kernel
  obtain ⟨text, written⟩ := hasPage.mpr quotable
  obtain ⟨block, isBlock, isDocument, standard, -, wordless⟩ := loads text written
  exact ⟨text, block, written, isBlock, isDocument, standard.mpr finite, wordless.mpr finite⟩

/-- A story in which a rest makes the heat infinite. -/
def feverStory : Project :=
  { lampStory with
    scenes :=
      [{ id := "hall", title := "Hall"
         choices :=
           [{ id := "rest", text := "Rest"
              consequences := [⟨.attribute, "heat", .float (.infinity false), .set⟩] }] }] }

theorem feverStory_structured : Validation.Structured feverStory where
  scenes := by decide
  start := by decide
  sceneIds := by decide
  choiceIds := by decide
  targets := by decide
  conditions := by decide
  consequences := by decide
  kinds := by decide

/-- The story is admitted and has a page, and what the page holds between its tags is no standard
document of anything: a word for other numbers stands in it outside texts. -/
theorem page_of_fever_loads_nothing : (Validation.report feverStory).isValid = true ∧
    ∃ text block, page feverStory = .ok text ∧ dataBlock feverStory = .ok block ∧
      text = document feverStory block ∧ (∀ value, ¬Json.Standard block value) ∧
      ¬Json.Wordless (Json.outline false block.toList) := by
  have valid := (Validation.isValid_iff feverStory).mpr feverStory_structured
  have unbounded : ¬feverStory.FiniteRules := fun finite =>
    absurd (finite (.infinity false) (by decide)) (by decide)
  have quotable : ∀ value ∈ feverStory.ruleValues, value.Quotable := by
    rintro value isValue
    rw [List.mem_singleton.mp isValue]
    trivial
  obtain ⟨block, isBlock⟩ := (dataBlock_written_iff feverStory).mpr quotable
  have written := (page_eq_ok_iff feverStory _).mpr ⟨valid, block, isBlock, rfl⟩
  obtain ⟨-, standard, wordless⟩ := dataBlock_standard_iff isBlock
  refine ⟨valid, _, block, written, isBlock, rfl, ?_, mt wordless.mp unbounded⟩
  exact fun value isStandard => unbounded (standard.mp ⟨value, isStandard⟩)

end Gamebook.Export
