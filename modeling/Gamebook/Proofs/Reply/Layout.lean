import Gamebook.Proofs.Reply.Unflagged

/-!
# The plain layout of a scene

A scene is laid out with its title behind a label, the lines of its description, the header of the
choices, and the choices with their numbers. Where all its lines are plain, no part of it can be
taken for another: each line tells just what it stands for, and the scene is read back without a
note.
-/

namespace Gamebook.Reply

/-! ## Plain lines -/

/-- Characters that stand for more than themselves: marks of emphasis, the colon of labels and the
braces of objects. -/
def isSpecial (c : Char) : Bool := isEmphasis c || c = ':' || c = '\x7b' || c = '\x7d'

/-- A line that is nothing but text. -/
structure PlainLine (line : String) : Prop where
  isText : IsLabel line
  unbroken : Text.Unbroken line.toList
  noSpecial : ∀ c ∈ line.toList, isSpecial c = false
  noHeading : line.toList.head? ≠ some '#' ∧ line.toList.head? ≠ some '>'
  unlisted : ∀ item, ¬Lists line.toList item
  unlabelled : ∀ text, ¬LabelsChoice line.toList text
  noHeader : Text.lower line ∉ sectionHeaders

theorem plainLine_iff (line : String) :
    PlainLine line ↔ IsLabel line ∧ Text.Unbroken line.toList ∧
      line.toList.any isSpecial = false ∧
      (line.toList.head? ≠ some '#' ∧ line.toList.head? ≠ some '>') ∧
      bullet? line.toList = none ∧ choiceLabel? line.toList = none ∧
      Text.lower line ∉ sectionHeaders := by
  simp only [bullet?_eq_none_iff, choiceLabel?_eq_none_iff, List.any_eq_false, Bool.not_eq_true]
  constructor
  · rintro ⟨isText, unbroken, noSpecial, noHeading, unlisted, unlabelled, noHeader⟩
    exact ⟨isText, unbroken, noSpecial, noHeading, unlisted, unlabelled, noHeader⟩
  · rintro ⟨isText, unbroken, noSpecial, noHeading, unlisted, unlabelled, noHeader⟩
    exact ⟨isText, unbroken, noSpecial, noHeading, unlisted, unlabelled, noHeader⟩

instance (line : String) : Decidable (PlainLine line) :=
  decidable_of_iff' _ (plainLine_iff line)

variable {line : String}

theorem PlainLine.filled (plain : PlainLine line) : line.toList ≠ [] :=
  fun empty => plain.isText.1 (String.toList_eq_nil_iff.mp empty)

theorem PlainLine.trimmed (plain : PlainLine line) : Text.trimBlanks line.toList = line.toList := by
  have same := congrArg String.toList plain.isText.2
  rwa [Text.trim, String.toList_ofList] at same

theorem PlainLine.begins (plain : PlainLine line) :
    ∀ c ∈ line.toList.head?, Text.isBlank c = false :=
  ((Text.trimBlanks_eq_self_iff _).mp plain.trimmed).1

theorem PlainLine.ends (plain : PlainLine line) :
    ∀ c ∈ line.toList.getLast?, Text.isBlank c = false :=
  ((Text.trimBlanks_eq_self_iff _).mp plain.trimmed).2

theorem PlainLine.noEmphasis (plain : PlainLine line) :
    ∀ c ∈ line.toList, isEmphasis c = false := by
  intro c member
  have ordinary := plain.noSpecial c member
  simp only [isSpecial, Bool.or_eq_false_iff] at ordinary
  exact ordinary.1.1.1

theorem PlainLine.absent (plain : PlainLine line) {c : Char} (special : isSpecial c = true) :
    c ∉ line.toList := by
  intro member
  cases (plain.noSpecial c member).symm.trans special

/-- Characters without marks and outer blanks are clean. -/
theorem cleanCharacters_eq_self {cs : List Char} (begins : ∀ c ∈ cs.head?, isHeadingMark c = false)
    (noEmphasis : ∀ c ∈ cs, isEmphasis c = false)
    (ends : ∀ c ∈ cs.getLast?, Text.isBlank c = false) : cleanCharacters cs = cs := by
  have kept : cs.dropWhile isHeadingMark = cs := by
    cases cs with
    | nil => rfl
    | cons c rest => exact List.dropWhile_cons_of_neg (Bool.eq_false_iff.mp (begins c rfl))
  have unmarked : cs.filter (fun c => !isEmphasis c) = cs :=
    List.filter_eq_self.mpr fun c member => by simp [noEmphasis c member]
  rw [cleanCharacters, kept, unmarked, Text.trimBlanks_eq_self_iff]
  refine ⟨fun c isFirst => ?_, ends⟩
  have noMark := begins c isFirst
  simp only [isHeadingMark, Bool.or_eq_false_iff] at noMark
  exact noMark.2

/-- A plain line behind characters that are no marks is clean. -/
theorem PlainLine.clean_behind (plain : PlainLine line) {front : List Char}
    (begins : ∀ c ∈ (front ++ line.toList).head?, isHeadingMark c = false)
    (noEmphasis : front.any isEmphasis = false) :
    cleanCharacters (front ++ line.toList) = front ++ line.toList := by
  refine cleanCharacters_eq_self begins ?_ ?_
  · exact List.forall_mem_append.mpr ⟨by simpa using noEmphasis, plain.noEmphasis⟩
  · rw [List.getLast?_append_of_ne_nil _ plain.filled]
    exact plain.ends

theorem PlainLine.clean (plain : PlainLine line) : cleanCharacters line.toList = line.toList := by
  refine @PlainLine.clean_behind line plain [] ?_ rfl
  intro c isFirst
  have noHash : c ≠ '#' := fun same => plain.noHeading.1 (same ▸ isFirst)
  have noQuote : c ≠ '>' := fun same => plain.noHeading.2 (same ▸ isFirst)
  simp [isHeadingMark, noHash, noQuote, plain.begins c isFirst]

theorem PlainLine.isSectionHeader_eq (plain : PlainLine line) : isSectionHeader line = false := by
  rw [Bool.eq_false_iff]
  intro isHeader
  obtain ⟨header, known, colons, lowered, allColons⟩ := exists_of_isSectionHeader isHeader
  have noColon : ':' ∉ (Text.lower line).toList :=
    fun member => plain.absent (by decide) (Text.mem_of_colon_lower member)
  cases colons with
  | nil =>
    rw [List.append_nil, String.toList_inj] at lowered
    exact plain.noHeader (lowered ▸ known)
  | cons c colons =>
    obtain rfl := allColons c List.mem_cons_self
    exact noColon (lowered ▸ List.mem_append_right _ List.mem_cons_self)

/-! ## What laid out lines tell -/

theorem choiceOnLine?_eq_none
    (unlabelled : ∀ text, ¬LabelsChoice (cleanCharacters line.toList) text)
    (unlisted : ∀ item, ¬Lists line.toList item) : choiceOnLine? line = none := by
  rw [Option.eq_none_iff_forall_ne_some]
  intro text offered
  obtain ⟨_, offers, -⟩ := choiceOnLine?_eq_some_iff.mp offered
  cases offers with
  | labelled labels => exact unlabelled _ labels
  | listed _ lists => exact unlisted _ lists

/-- A plain line is plain text. -/
theorem PlainLine.telling_eq (plain : PlainLine line) : telling line = .plain line := by
  have noChoice : choiceOnLine? line = none :=
    choiceOnLine?_eq_none (plain.clean.symm ▸ plain.unlabelled) plain.unlisted
  have noColon : line.toList.dropWhile (· != ':') = [] :=
    List.dropWhile_eq_nil_iff.mpr fun c member =>
      bne_iff_ne.mpr fun same => plain.absent (by decide) (same ▸ member)
  have noLabel : labelled? line.toList = none := by
    rw [labelled?, plain.clean, noColon]
  have cleaned : Reply.clean line = line := by
    rw [Reply.clean, plain.clean, String.ofList_toList]
  simp only [telling, noChoice, noLabel, cleaned, tellingOf, plain.isSectionHeader_eq]
  rfl

/-- Behind its label a plain line is the title. -/
theorem PlainLine.telling_titled (plain : PlainLine line) :
    telling ("Title: " ++ line) = .title line ("Title: " ++ line) := by
  have whole : ("Title: " ++ line).toList = "Title: ".toList ++ line.toList := String.toList_append
  have clean : cleanCharacters ("Title: " ++ line).toList = ("Title: " ++ line).toList := by
    rw [whole]
    exact plain.clean_behind (by rintro _ ⟨⟩; decide) (by decide)
  have noChoice : choiceOnLine? ("Title: " ++ line) = none := by
    refine choiceOnLine?_eq_none (fun text labels => ?_) (fun item lists => ?_)
    · obtain ⟨c, isFirst, isLetter⟩ := labels.begins
      rw [clean, whole] at isFirst
      cases isFirst
      revert isLetter
      decide
    · have listed := bullet?_eq_some_iff.mpr lists
      rw [whole] at listed
      cases listed
  have labelled : labelled? ("Title: " ++ line).toList = some ("title", line) := by
    have label : ("Title: ".toList ++ line.toList).takeWhile (· != ':') = "Title".toList := rfl
    have behind : ("Title: ".toList ++ line.toList).dropWhile (· != ':') =
        ':' :: ' ' :: line.toList := rfl
    have isName : isLabel (Text.dropTrailingBlanks "Title".toList) = true := by decide
    have name : (String.ofList (Text.dropTrailingBlanks "Title".toList)).toLower = "title" := by
      decide +kernel
    have value : Text.trimBlanks (' ' :: line.toList) = line.toList := plain.trimmed
    rw [labelled?, clean, whole]
    simp only [label, behind, isName, name, value, String.ofList_toList, if_true]
  have filled : line.isEmpty = false := String.isEmpty_eq_false_iff.mpr plain.isText.1
  have cleaned : Reply.clean ("Title: " ++ line) = "Title: " ++ line := by
    rw [Reply.clean, clean, String.ofList_toList]
  simp only [telling, noChoice, labelled, cleaned, filled]
  rfl

/-- What holds of the figures of numbers. -/
theorem figure_ordinary {c : Char} (isFigure : c.isDigit = true) :
    Text.isDigit c = true ∧ isHeadingMark c = false ∧ isEmphasis c = false ∧ c ≠ '\x7b' ∧
      c.toLower ≠ 'c' ∧ c.toLower ≠ 'o' := by
  have each : ∀ n < 58, 48 ≤ n → Text.isDigit (Char.ofNat n) = true ∧
      isHeadingMark (Char.ofNat n) = false ∧ isEmphasis (Char.ofNat n) = false ∧
      Char.ofNat n ≠ '\x7b' ∧ (Char.ofNat n).toLower ≠ 'c' ∧ (Char.ofNat n).toLower ≠ 'o' := by
    decide
  simp only [Char.isDigit, Bool.and_eq_true, decide_eq_true_eq, ge_iff_le,
    UInt32.le_iff_toNat_le] at isFigure
  have bounds : 48 ≤ c.toNat ∧ c.toNat ≤ 57 := isFigure
  have ordinary := each c.toNat (by omega) bounds.1
  rwa [Char.ofNat_toNat] at ordinary

/-- The figures of a number, of which there is at least one. -/
theorem exists_figures (number : Nat) :
    ∃ first rest, (toString number).toList = first :: rest ∧
      ∀ c ∈ first :: rest, c.isDigit = true := by
  have figures : ∀ c ∈ (toString number).toList, c.isDigit = true := by
    intro c member
    exact Nat.isDigit_of_mem_toDigits (by decide) (by decide) (Nat.toList_repr ▸ member)
  cases whole : (toString number).toList with
  | nil => exact absurd whole (by simp [toString, Nat.toList_repr])
  | cons first rest => exact ⟨first, rest, rfl, whole ▸ figures⟩

/-- Behind its number a plain line is a choice. -/
theorem PlainLine.telling_numbered (plain : PlainLine line) (number : Nat) :
    telling (toString number ++ ". " ++ line) = .choice line := by
  obtain ⟨first, rest, figures, all⟩ := exists_figures number
  have whole : (toString number ++ ". " ++ line).toList =
      (first :: rest ++ ['.', ' ']) ++ line.toList := by
    rw [String.toList_append, String.toList_append, figures]
    rfl
  obtain ⟨-, noMark, -, -, noC, noO⟩ := figure_ordinary (all first List.mem_cons_self)
  have clean : cleanCharacters (toString number ++ ". " ++ line).toList =
      (first :: rest ++ ['.', ' ']) ++ line.toList := by
    rw [whole]
    refine plain.clean_behind (by rintro _ ⟨⟩; exact noMark) ?_
    rw [List.any_append, List.any_eq_false.mpr fun c member => ?_]
    · decide
    · simp [(figure_ordinary (all c member)).2.2.1]
  have unlabelled : ∀ text,
      ¬LabelsChoice (cleanCharacters (toString number ++ ". " ++ line).toList) text := by
    intro text labels
    obtain ⟨c, isFirst, isLetter⟩ := labels.begins
    have noBlank : Text.isBlank first = false :=
      isBlank_of_isDigit (figure_ordinary (all first List.mem_cons_self)).1
    rw [clean, List.append_assoc, List.cons_append,
      Text.dropBlanks_of_head (by rintro _ ⟨⟩; exact noBlank)] at isFirst
    cases isFirst
    exact isLetter.elim noC noO
  have lists : Lists (toString number ++ ". " ++ line).toList line.toList := by
    have mark : IsItemMark (first :: rest ++ ['.']) :=
      .number (List.cons_ne_nil _ _) (fun d member => (figure_ordinary (all d member)).1) (.inl rfl)
    have listed : Lists ([] ++ (first :: rest ++ ['.'] ++ ([' '] ++ line.toList))) line.toList :=
      .mk (List.forall_mem_nil _) mark (List.cons_ne_nil _ _)
        (List.forall_mem_singleton.mpr (by decide)) plain.begins
    rw [whole]
    simpa using listed
  have something : ∃ c ∈ line.toList, Text.isBlank c = false := by
    cases start : line.toList with
    | nil => exact absurd start plain.filled
    | cons c rest => exact ⟨c, List.mem_cons_self, plain.begins c (by rw [start]; rfl)⟩
  have offered : choiceOnLine? (toString number ++ ". " ++ line) = some line :=
    choiceOnLine?_eq_some_iff.mpr ⟨line.toList, .listed unlabelled lists, something, by
      rw [plain.clean, String.ofList_toList]⟩
  simp only [telling, offered]

theorem telling_header : telling "Choices:" = .header := by decide +kernel

/-! ## Laid out scenes -/

/-- A scene to be laid out: a title, the lines of the description, and choices. -/
structure SceneLayout where
  title : String
  description : List String
  choices : List String

/-- Choices behind their numbers, from one on. -/
def numbered (choices : List String) : List String :=
  (choices.zipIdx 1).map fun (choice, number) => toString number ++ ". " ++ choice

namespace SceneLayout

/-- The lines of a laid out scene. -/
def lines (layout : SceneLayout) : List String :=
  ("Title: " ++ layout.title) :: (layout.description ++ "Choices:" :: numbered layout.choices)

/-- All lines to be laid out are plain, and there is a description and a choice. -/
structure Plain (layout : SceneLayout) : Prop where
  title : PlainLine layout.title
  description : ∀ line ∈ layout.description, PlainLine line
  choices : ∀ line ∈ layout.choices, PlainLine line
  described : layout.description ≠ []
  offered : layout.choices ≠ []

end SceneLayout

theorem map_telling_numbered {choices : List String} (plain : ∀ line ∈ choices, PlainLine line) :
    (numbered choices).map telling = choices.map Telling.choice := by
  have each : ∀ entry ∈ choices.zipIdx 1,
      telling (toString entry.2 ++ ". " ++ entry.1) = .choice entry.1 := by
    intro entry member
    exact (plain _ (List.fst_mem_of_mem_zipIdx member)).telling_numbered entry.2
  have first : choices = (choices.zipIdx 1).map Prod.fst := (List.zipIdx_map_fst 1 choices).symm
  calc (numbered choices).map telling
    _ = (choices.zipIdx 1).map fun entry => telling (toString entry.2 ++ ". " ++ entry.1) := by
      rw [numbered, List.map_map, Function.comp_def]
    _ = (choices.zipIdx 1).map fun entry => Telling.choice entry.1 := List.map_congr_left each
    _ = ((choices.zipIdx 1).map Prod.fst).map Telling.choice := by
      rw [List.map_map, Function.comp_def]
    _ = choices.map Telling.choice := by rw [← first]

theorem map_telling_plain {lines : List String} (plain : ∀ line ∈ lines, PlainLine line) :
    lines.map telling = lines.map Telling.plain :=
  List.map_congr_left fun line member => (plain line member).telling_eq

/-- The lines of a plain layout come to what was laid out. -/
theorem heard_layout {layout : SceneLayout} (plain : layout.Plain) :
    heard layout.lines = ⟨some layout.title, layout.description, layout.choices⟩ := by
  have told : layout.lines.map telling =
      .title layout.title ("Title: " ++ layout.title) :: (layout.description.map Telling.plain ++
        .header :: layout.choices.map Telling.choice) := by
    rw [SceneLayout.lines, List.map_cons, List.map_append, List.map_cons,
      plain.title.telling_titled, map_telling_plain plain.description, telling_header,
      map_telling_numbered plain.choices]
  rw [heard, foldl_take, told, List.foldl_cons, foldl_hear_titled rfl]
  simp [SceneParts.hear, List.filterMap_append, List.filterMap_cons, List.filterMap_map,
    Function.comp_def, Telling.description?, Telling.choice?]

/-! ## Reading a layout back -/

/-- A line with something on it where no object opens. -/
structure SolidLine (line : String) : Prop where
  unbroken : Text.Unbroken line.toList
  noObject : '\x7b' ∉ line.toList
  something : Text.isAllBlank line = false

/-- A plain line is solid, also behind other characters. -/
theorem PlainLine.solid_behind (plain : PlainLine line) {front : String}
    (unbroken : Text.Unbroken front.toList) (noObject : '\x7b' ∉ front.toList) :
    SolidLine (front ++ line) := by
  constructor
  · rw [String.toList_append, Text.unbroken_append]
    exact ⟨unbroken, plain.unbroken⟩
  · rw [String.toList_append, List.mem_append, not_or]
    exact ⟨noObject, plain.absent (by decide)⟩
  · have something : line.toList.all Text.isBlank = false := isAllBlank_of_isLabel plain.isText
    rw [Text.isAllBlank, String.toList_append, List.all_append, something, Bool.and_false]

theorem PlainLine.solid (plain : PlainLine line) : SolidLine line := by
  have solid := @PlainLine.solid_behind line plain "" Text.unbroken_nil List.not_mem_nil
  rwa [String.empty_append] at solid

theorem PlainLine.solid_numbered (plain : PlainLine line) (number : Nat) :
    SolidLine (toString number ++ ". " ++ line) := by
  obtain ⟨first, rest, figures, all⟩ := exists_figures number
  have front : (toString number ++ ". ").toList = first :: rest ++ ['.', ' '] := by
    rw [String.toList_append, figures]
    rfl
  refine plain.solid_behind ?_ ?_
  · rw [front, Text.unbroken_append]
    refine ⟨Text.unbroken_of_no_blank fun c member => ?_, by decide⟩
    exact isBlank_of_isDigit (figure_ordinary (all c member)).1
  · rw [front, List.mem_append, not_or]
    exact ⟨fun member => (figure_ordinary (all _ member)).2.2.2.1 rfl, by decide⟩

theorem SceneLayout.Plain.solid {layout : SceneLayout} (plain : layout.Plain) :
    ∀ line ∈ layout.lines, SolidLine line := by
  have header : SolidLine "Choices:" := ⟨by decide, by decide, by decide⟩
  refine List.forall_mem_cons.mpr ⟨plain.title.solid_behind (by decide) (by decide), ?_⟩
  refine List.forall_mem_append.mpr ⟨fun line isLine => (plain.description line isLine).solid, ?_⟩
  refine List.forall_mem_cons.mpr ⟨header, fun line isLine => ?_⟩
  obtain ⟨⟨choice, number⟩, member, rfl⟩ := List.mem_map.mp isLine
  exact (plain.choices choice (List.fst_mem_of_mem_zipIdx member)).solid_numbered number

/-- A reply with no opening brace on a line holds no object. -/
theorem objectIn?_of_lines {text : String}
    (noObject : ∀ line ∈ Text.lines text, '\x7b' ∉ line.toList) : objectIn? text = .ok none := by
  have absent : '\x7b' ∉ text.toList := by
    intro member
    obtain ⟨line, isLine, onLine⟩ := Text.exists_line_of_mem (by decide) member
    refine noObject (String.ofList line) (List.mem_map_of_mem isLine) ?_
    rwa [String.toList_ofList]
  rw [objectIn?, objectSlice?_eq_none absent]

/-- The scene of lines that tell a title, a description and choices needs no note. -/
theorem sceneOfLines_of_heard {lines : List String} {title : String}
    {description choices : List String} (told : heard lines = ⟨some title, description, choices⟩)
    (titled : title ≠ "") (described : description ≠ []) (offered : choices ≠ [])
    (ids : IdSource) :
    (sceneOfLines lines ids).2.1 = [] ∧ (sceneOfLines lines ids).1.title = title ∧
      (sceneOfLines lines ids).1.description = String.intercalate " " description ∧
      (sceneOfLines lines ids).1.choices.map (·.text) = choices ∧
      ∀ choice ∈ (sceneOfLines lines ids).1.choices, choice.Plain := by
  have label : filled (heard lines).title = some title := by
    simp [told, filled, Option.filter, String.isEmpty_eq_false_iff.mpr titled]
  have notes : (sceneOfLines lines ids).2.1 =
      (orDefault (filled (heard lines).title) _ _).2 ++
        noteIf (heard lines).description.isEmpty _ ++ noteIf (heard lines).choices.isEmpty _ := rfl
  have name : (sceneOfLines lines ids).1.title =
      (orDefault (filled (heard lines).title) _ _).1 := rfl
  obtain ⟨source, drawn⟩ := sceneOfLines_choices lines ids
  obtain ⟨-, -, -, plain⟩ := source.drawChoices_draws choices
  rw [told] at drawn
  refine ⟨?_, ?_, ?_, ?_, ?_⟩
  · rw [notes, label, told]
    simp [orDefault, noteIf, described, offered]
  · rw [name, label]
    rfl
  · rw [sceneOfLines_description, told]
  · rw [drawn, drawChoices_texts]
  · rwa [drawn]

/-- Every plain layout is the lines of a text, and every text with these lines is read back as the
scene that was laid out, without a note: its title, the lines of its description with a space
between neighbours, and its choices in order, which all end the story. -/
theorem layout_read_back {layout : SceneLayout} (plain : layout.Plain) (ids : IdSource) :
    resolveKind (.text "scene") = .ok (.scene, []) ∧
    Text.lines (String.intercalate "\n" layout.lines) = layout.lines ∧
    ∀ text, Text.lines text = layout.lines →
      ∃ scene, (read .scene [] text ids).1 = ⟨.scene, .scene scene, []⟩ ∧
        scene.title = layout.title ∧
        scene.description = String.intercalate " " layout.description ∧
        scene.choices.map (·.text) = layout.choices ∧ ∀ choice ∈ scene.choices, choice.Plain := by
  have solid := plain.solid
  refine ⟨resolveKind_name .scene, ?_, ?_⟩
  · refine Text.lines_intercalate (fun line isLine => (solid line isLine).unbroken) ?_
    rintro _ isLine rfl
    cases (solid "" isLine).something
  · intro text laidOut
    have missing : objectIn? text = .ok none :=
      objectIn?_of_lines fun line isLine => (solid line (laidOut ▸ isLine)).noObject
    have all : filledLines text = layout.lines := by
      rw [filledLines, laidOut, List.filter_eq_self]
      intro line isLine
      rw [(solid line isLine).something, Bool.not_false]
    have isRead := read_scene_of_lines missing (all ▸ List.cons_ne_nil _ _) [] ids
    obtain ⟨noNotes, kept⟩ := sceneOfLines_of_heard (heard_layout plain) plain.title.isText.1
      plain.described plain.offered ids
    rw [all, noNotes] at isRead
    exact ⟨_, isRead, kept⟩

/-- A plain layout with words that could name other parts of a scene. -/
def gateLayout : SceneLayout where
  title := "The title of a scene"
  description := ["Choice is all you have", "Description 1. of 2", "The choices"]
  choices := ["Go on (3.)", "Optional"]

theorem gateLayout_read_back :
    gateLayout.Plain ∧
    resolveKind (.text "scene") = .ok (.scene, []) ∧
    Text.lines (String.intercalate "\n" gateLayout.lines) = gateLayout.lines ∧
    ∀ text, Text.lines text = gateLayout.lines →
      ∃ scene, (read .scene [] text {}).1 = ⟨.scene, .scene scene, []⟩ ∧
        scene.title = gateLayout.title ∧
        scene.description = String.intercalate " " gateLayout.description ∧
        scene.choices.map (·.text) = gateLayout.choices ∧
        ∀ choice ∈ scene.choices, choice.Plain := by
  have plain : gateLayout.Plain := {
    title := by decide +kernel
    description := by decide +kernel
    choices := by decide +kernel
    described := List.cons_ne_nil _ _
    offered := List.cons_ne_nil _ _ }
  exact ⟨plain, layout_read_back plain {}⟩

end Gamebook.Reply
