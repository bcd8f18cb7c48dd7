import Gamebook.Proofs.Story.Schema
import Gamebook.Proofs.Text.Blank
import Gamebook.Proofs.Text.Letter
import Gamebook.Reply.Lines

/-!
# What lines tell about a scene

Each line of a reply tells one thing by itself: a choice, a title or a description behind a label,
the header of a section, or plain text. What the lines gathered so far decides only where plain
text goes: the first is the title and all later text belongs to the description, while a second
title is plain text. So a reply read by its lines comes to its choices in order, its first text and
the texts after that.
-/

namespace Gamebook.Reply

/-! ## Labels and headers -/

/-- The labels of titles. -/
def titleLabels : List String := ["title", "scene", "scene title"]

/-- A line with a label is the label, what stands between it and the colon, and the value. -/
theorem exists_of_labelled? {line : List Char} {label value : String}
    (found : labelled? line = some (label, value)) :
    ∃ name between behind, cleanCharacters line = name ++ (between ++ ':' :: behind) ∧
      isLabel name = true ∧ label = (String.ofList name).toLower ∧
      value = String.ofList (Text.trimBlanks behind) := by
  unfold labelled? at found
  dsimp only at found
  split at found
  next behind left =>
    split at found
    next isName =>
      obtain ⟨rfl, rfl⟩ := Prod.mk.inj (Option.some.inj found)
      obtain ⟨between, split⟩ :
          Text.dropTrailingBlanks ((cleanCharacters line).takeWhile (· != ':')) <+:
            (cleanCharacters line).takeWhile (· != ':') := List.rdropWhile_prefix _ _
      refine ⟨_, between, behind, ?_, isName, rfl, rfl⟩
      rw [← List.append_assoc, split, ← left, List.takeWhile_append_dropWhile]
    next => cases found
  next => cases found

theorem toNat_lt_of_isLabel {name : List Char} (isName : isLabel name = true) :
    ∀ c ∈ name, c.toNat < 0x80 := by
  have letter {c : Char} (isLetter : isLabelLetter c = true) : c.toNat < 0x80 := by
    simp only [isLabelLetter, Bool.or_eq_true, Bool.and_eq_true, decide_eq_true_eq] at isLetter
    rcases isLetter with upper | lower
    · exact Nat.lt_of_le_of_lt upper.2 (by decide)
    · exact Nat.lt_of_le_of_lt lower.2 (by decide)
  cases name with
  | nil => exact List.forall_mem_nil _
  | cons first rest =>
    simp only [isLabel, Bool.and_eq_true, List.all_eq_true, Bool.or_eq_true,
      decide_eq_true_eq] at isName
    refine List.forall_mem_cons.mpr ⟨letter isName.1.1, fun c member => ?_⟩
    rcases isName.2 c member with isLetter | rfl
    · exact letter isLetter
    · decide

/-- A section header is in lower case one of those that are known, with colons behind it. -/
theorem exists_of_isSectionHeader {cleaned : String} (isHeader : isSectionHeader cleaned = true) :
    ∃ header ∈ sectionHeaders, ∃ colons, (Text.lower cleaned).toList = header.toList ++ colons ∧
      ∀ c ∈ colons, c = ':' := by
  unfold isSectionHeader at isHeader
  dsimp only at isHeader
  generalize (Text.lower cleaned).toList = lowered at isHeader ⊢
  refine ⟨_, List.contains_iff_mem.mp isHeader, (lowered.reverse.takeWhile (· = ':')).reverse, ?_,
    fun c member => ?_⟩
  · rw [String.toList_ofList, ← List.reverse_append, List.takeWhile_append_dropWhile,
      List.reverse_reverse]
  · simpa using List.mem_takeWhile_imp (List.mem_reverse.mp member)

/-- A line with the label of a title is no header of a section. -/
theorem isSectionHeader_of_titled {line label value : String}
    (found : labelled? line.toList = some (label, value)) (isTitle : label ∈ titleLabels) :
    isSectionHeader (clean line) = false := by
  obtain ⟨name, between, behind, split, isName, rfl, -⟩ := exists_of_labelled? found
  rw [Bool.eq_false_iff]
  intro isHeader
  obtain ⟨header, known, colons, lowered, -⟩ := exists_of_isSectionHeader isHeader
  -- both stand at the front of the line in lower case, and they differ at once
  have apart : ∀ label ∈ titleLabels, ∀ header ∈ sectionHeaders, 2 ≤ label.toList.length ∧
      2 ≤ header.toList.length ∧ label.toList.take 2 ≠ header.toList.take 2 := by decide
  obtain ⟨longLabel, longHeader, differ⟩ := apart _ isTitle _ known
  rw [Text.lower, clean, String.toList_ofList, String.toList_ofList, split,
    Text.lowerAfter_append (toNat_lt_of_isLabel isName)] at lowered
  have lowerName : (String.ofList name).toLower.toList = name.map Char.toLower := by
    change ((String.ofList name).map Char.toLower).toList = _
    rw [String.toList_map, String.toList_ofList]
  rw [lowerName] at longLabel differ
  have front := congrArg (List.take 2) lowered
  rw [List.take_append_of_le_length longLabel, List.take_append_of_le_length longHeader] at front
  exact differ front

/-! ## What a line tells -/

/-- What a line tells about a scene. A title comes with the whole line, which is what counts when
there is a title already. -/
inductive Telling
  | choice (text : String)
  | header
  | title (value line : String)
  | description (value : String)
  | plain (line : String)
  deriving DecidableEq

/-- What a line tells that has neither a choice nor a label with a value. -/
def tellingOf (cleaned : String) : Telling :=
  if isSectionHeader cleaned then .header else .plain cleaned

/-- What a line tells. -/
def telling (line : String) : Telling :=
  match choiceOnLine? line with
  | some text => .choice text
  | none =>
    match labelled? line.toList with
    | none => tellingOf (clean line)
    | some (label, value) =>
      if titleLabels.contains label && !value.isEmpty then .title value (clean line)
      else if label = "description" && !value.isEmpty then .description value
      else if sectionHeaders.contains label && value.isEmpty then .header
      else tellingOf (clean line)

/-- What has been gathered with one more thing that is told. -/
def SceneParts.hear (parts : SceneParts) : Telling → SceneParts
  | .choice text => { parts with choices := parts.choices ++ [text] }
  | .header => parts
  | .title value line =>
    if parts.title.isNone then { parts with title := some value }
    else { parts with description := parts.description ++ [line] }
  | .description value => { parts with description := parts.description ++ [value] }
  | .plain line =>
    if parts.title.isNone && parts.description.isEmpty then { parts with title := some line }
    else { parts with description := parts.description ++ [line] }

theorem hear_tellingOf (parts : SceneParts) (cleaned : String) :
    parts.hear (tellingOf cleaned) = parts.plain cleaned := by
  unfold tellingOf SceneParts.plain
  split <;> rfl

/-- Taking a line is hearing what it tells. -/
theorem take_eq_hear (parts : SceneParts) (line : String) :
    parts.take line = parts.hear (telling line) := by
  unfold SceneParts.take telling
  cases choiceOnLine? line with
  | some text => rfl
  | none =>
    cases found : labelled? line.toList with
    | none => exact (hear_tellingOf parts (clean line)).symm
    | some pair =>
      obtain ⟨label, value⟩ := pair
      change (if titleLabels.contains label && !value.isEmpty && parts.title.isNone then _ else _) =
        parts.hear (if titleLabels.contains label && !value.isEmpty then _ else _)
      cases titled : titleLabels.contains label && !value.isEmpty with
      | true =>
        rw [Bool.and_eq_true] at titled
        have isTitle := List.contains_iff_mem.mp titled.1
        have noDescription : label ≠ "description" := by
          rintro rfl
          exact absurd isTitle (by decide)
        have filled : value.isEmpty = false := by simpa using titled.2
        have noHeader := isSectionHeader_of_titled found isTitle
        cases fresh : parts.title.isNone <;>
          simp [SceneParts.hear, SceneParts.plain, noDescription, filled, noHeader, fresh]
      | false =>
        rw [Bool.false_and, if_neg Bool.false_ne_true, if_neg Bool.false_ne_true]
        split
        next => rfl
        next =>
          split
          next => rfl
          next => exact (hear_tellingOf parts (clean line)).symm

/-- Taking lines is hearing what they tell one after the other. -/
theorem foldl_take (lines : List String) (parts : SceneParts) :
    lines.foldl SceneParts.take parts = (lines.map telling).foldl SceneParts.hear parts := by
  rw [List.foldl_map]
  exact congrArg (List.foldl · parts lines) (funext₂ take_eq_hear)

/-! ## What a line can tell -/

theorem isLabel_of_filled {text : String} (trimmed : Text.trim text = text)
    (filled : text.isEmpty = false) : IsLabel text :=
  ⟨fun empty => by simp [empty] at filled, trimmed⟩

theorem trim_ofList_trimBlanks (cs : List Char) :
    Text.trim (String.ofList (Text.trimBlanks cs)) = String.ofList (Text.trimBlanks cs) := by
  rw [Text.trim, String.toList_ofList, Text.trimBlanks_trimBlanks]

theorem trim_clean (line : String) : Text.trim (clean line) = clean line :=
  trim_ofList_trimBlanks _

/-- Every text that is told is trimmed, and those behind a label are not empty. -/
inductive Telling.Trimmed : Telling → Prop
  | choice {text : String} (trimmed : Text.trim text = text) : Trimmed (.choice text)
  | header : Trimmed .header
  | title {value line : String} (isValue : IsLabel value) (isLine : IsLabel line) :
    Trimmed (.title value line)
  | description {value : String} (isValue : IsLabel value) : Trimmed (.description value)
  | plain {line : String} (trimmed : Text.trim line = line) : Trimmed (.plain line)

theorem choiceOnLine?_trimmed {line text : String} (found : choiceOnLine? line = some text) :
    Text.trim text = text := by
  unfold choiceOnLine? at found
  split at found
  next offered _ =>
    split at found
    next => cases found
    next =>
      obtain rfl := Option.some.inj found
      exact trim_ofList_trimBlanks _
  next => cases found

theorem tellingOf_trimmed (line : String) : (tellingOf (clean line)).Trimmed := by
  unfold tellingOf
  split
  next => exact .header
  next => exact .plain (trim_clean line)

theorem telling_trimmed (line : String) : (telling line).Trimmed := by
  unfold telling
  cases offered : choiceOnLine? line with
  | some text => exact .choice (choiceOnLine?_trimmed offered)
  | none =>
    cases found : labelled? line.toList with
    | none => exact tellingOf_trimmed line
    | some pair =>
      obtain ⟨label, value⟩ := pair
      obtain ⟨name, between, behind, split, isName, -, rfl⟩ := exists_of_labelled? found
      have trimmed := trim_ofList_trimBlanks behind
      have something : (clean line).isEmpty = false := by
        cases name with
        | nil => cases isName
        | cons c name => simp [clean, split, String.isEmpty_eq_false_iff]
      dsimp only
      split_ifs with titled described
      · rw [Bool.and_eq_true] at titled
        exact .title (isLabel_of_filled trimmed (by simpa using titled.2))
          (isLabel_of_filled (trim_clean line) something)
      · rw [Bool.and_eq_true] at described
        exact .description (isLabel_of_filled trimmed (by simpa using described.2))
      · exact .header
      · exact tellingOf_trimmed line

/-! ## What is gathered -/

/-- The choice that is told. -/
def Telling.choice? : Telling → Option String
  | .choice text => some text
  | _ => none

/-- Whether something is told about the scene itself. -/
def Telling.isProse : Telling → Bool
  | .choice _ | .header => false
  | _ => true

/-- The title that prose gives a scene without one. -/
def Telling.title? : Telling → Option String
  | .title value _ => some value
  | .plain line => some line
  | _ => none

/-- What prose adds to the description of a scene with a title. -/
def Telling.description? : Telling → Option String
  | .title _ line => some line
  | .description value => some value
  | .plain line => some line
  | _ => none

theorem foldl_hear_choices (tellings : List Telling) (parts : SceneParts) :
    (tellings.foldl SceneParts.hear parts).choices =
      parts.choices ++ tellings.filterMap Telling.choice? := by
  induction tellings generalizing parts with
  | nil => simp
  | cons telling tellings inductionHypothesis =>
    rw [List.foldl_cons, inductionHypothesis]
    cases telling <;> simp only [SceneParts.hear] <;> (try split) <;>
      simp [Telling.choice?, List.filterMap_cons]

/-- Once there is a title, all other prose belongs to the description. -/
theorem foldl_hear_titled {parts : SceneParts} (titled : parts.title.isNone = false)
    (tellings : List Telling) :
    tellings.foldl SceneParts.hear parts =
      { title := parts.title
        description := parts.description ++ tellings.filterMap Telling.description?
        choices := parts.choices ++ tellings.filterMap Telling.choice? } := by
  induction tellings generalizing parts with
  | nil => simp
  | cons telling tellings inductionHypothesis =>
    have still : (parts.hear telling).title = parts.title := by
      cases telling <;> simp [SceneParts.hear, titled]
    rw [List.foldl_cons, inductionHypothesis (still ▸ titled), still]
    cases telling <;>
      simp [SceneParts.hear, titled, Telling.description?, Telling.choice?, List.filterMap_cons]

/-- What is in the description stays there. -/
theorem foldl_hear_keeps {text : String} {parts : SceneParts} (member : text ∈ parts.description)
    (tellings : List Telling) :
    text ∈ (tellings.foldl SceneParts.hear parts).description := by
  refine List.foldlRecOn (motive := fun parts : SceneParts => text ∈ parts.description) tellings _
    member fun parts member telling _ => ?_
  cases telling <;> simp only [SceneParts.hear] <;> (try split) <;> simp [member]

/-- What comes of the prose that is told: nothing, a title with a description behind it, or a
description from the start on. -/
inductive Gathers : List Telling → Option String → List String → Prop
  | nothing : Gathers [] none []
  | titled {first : Telling} {title : String} (isTitle : first.title? = some title)
    (later : List Telling) : Gathers (first :: later) title (later.filterMap Telling.description?)
  | described {value : String} (later : List Telling) (title : Option String)
    {description : List String} (member : value ∈ description) :
    Gathers (.description value :: later) title description

theorem filterMap_description_prose (tellings : List Telling) :
    (tellings.filter Telling.isProse).filterMap Telling.description? =
      tellings.filterMap Telling.description? := by
  induction tellings with
  | nil => rfl
  | cons telling tellings inductionHypothesis =>
    cases telling <;>
      simp [List.filter_cons, List.filterMap_cons, Telling.isProse, Telling.description?,
        inductionHypothesis]

/-- Where nothing was told before, the title and the description come of the prose alone. -/
theorem gathers_hear (tellings : List Telling) {parts : SceneParts} (untitled : parts.title = none)
    (undescribed : parts.description = []) :
    Gathers (tellings.filter Telling.isProse) (tellings.foldl SceneParts.hear parts).title
      (tellings.foldl SceneParts.hear parts).description := by
  induction tellings generalizing parts with
  | nil =>
    rw [List.foldl_nil, untitled, undescribed]
    exact .nothing
  | cons telling tellings inductionHypothesis =>
    rw [List.foldl_cons]
    -- the first prose decides what all later prose is
    have titledBy {title : String} (isTitle : telling.title? = some title)
        (heard : parts.hear telling = { parts with title := some title }) :
        Gathers (telling :: tellings.filter Telling.isProse)
          (tellings.foldl SceneParts.hear (parts.hear telling)).title
          (tellings.foldl SceneParts.hear (parts.hear telling)).description := by
      rw [heard, foldl_hear_titled rfl, undescribed, List.nil_append,
        ← filterMap_description_prose tellings]
      exact .titled isTitle _
    cases telling with
    | choice text => exact inductionHypothesis untitled undescribed
    | header => exact inductionHypothesis untitled undescribed
    | title value line => exact titledBy rfl (by simp [SceneParts.hear, untitled])
    | plain line => exact titledBy rfl (by simp [SceneParts.hear, untitled, undescribed])
    | description value =>
      exact .described _ _ (foldl_hear_keeps (by simp [SceneParts.hear]) tellings)

theorem trimmed_none : ∀ text ∈ (none : Option String), Text.trim text = text :=
  fun text isNone => absurd isNone (Option.not_mem_none text)

theorem trimmed_some {value : String} (trimmed : Text.trim value = value) :
    ∀ text ∈ some value, Text.trim text = text := by
  intro text isValue
  obtain rfl := Option.some.inj isValue
  exact trimmed

/-- Every text that was gathered is trimmed. -/
structure SceneParts.Trimmed (parts : SceneParts) : Prop where
  title : ∀ title ∈ parts.title, Text.trim title = title
  description : ∀ text ∈ parts.description, Text.trim text = text
  choices : ∀ text ∈ parts.choices, Text.trim text = text

theorem hear_trimmed {parts : SceneParts} (trimmed : parts.Trimmed) {telling : Telling}
    (told : telling.Trimmed) : (parts.hear telling).Trimmed := by
  have titled {value : String} (isTrimmed : Text.trim value = value) :
      { parts with title := some value }.Trimmed :=
    ⟨trimmed_some isTrimmed, trimmed.description, trimmed.choices⟩
  have described {value : String} (isTrimmed : Text.trim value = value) :
      { parts with description := parts.description ++ [value] }.Trimmed :=
    ⟨trimmed.title,
      List.forall_mem_append.mpr ⟨trimmed.description, List.forall_mem_singleton.mpr isTrimmed⟩,
      trimmed.choices⟩
  cases told with
  | header => exact trimmed
  | choice isTrimmed =>
    exact ⟨trimmed.title, trimmed.description,
      List.forall_mem_append.mpr ⟨trimmed.choices, List.forall_mem_singleton.mpr isTrimmed⟩⟩
  | description isValue => exact described isValue.2
  | title isValue isLine =>
    simp only [SceneParts.hear]
    split
    · exact titled isValue.2
    · exact described isLine.2
  | plain isTrimmed =>
    simp only [SceneParts.hear]
    split
    · exact titled isTrimmed
    · exact described isTrimmed

/-- What some lines have told from the start. -/
def heard (lines : List String) : SceneParts := lines.foldl SceneParts.take {}

theorem heard_trimmed (lines : List String) : (heard lines).Trimmed := by
  have nothing : SceneParts.Trimmed {} :=
    ⟨trimmed_none, List.forall_mem_nil _, List.forall_mem_nil _⟩
  refine List.foldlRecOn (motive := SceneParts.Trimmed) lines _ nothing ?_
  intro parts trimmed line _
  rw [take_eq_hear]
  exact hear_trimmed trimmed (telling_trimmed line)

end Gamebook.Reply
