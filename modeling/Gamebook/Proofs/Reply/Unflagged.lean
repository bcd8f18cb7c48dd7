import Gamebook.Proofs.Reply.Object
import Gamebook.Proofs.Reply.Offer
import Gamebook.Proofs.Reply.Telling

/-!
# Content without notes

Whatever a reply says, the entity that is read from it is known by a label, which is trimmed and not
empty, and all choices of a scene end the story. Content without notes was found in the reply, but
a line is tested for blanks before its marks are dropped. So what a line offers can come to a choice
without a text, and lines of nothing but marks behind the title to a description without one, and
no note tells of either. There is no other way to content that is blank without a note.
-/

namespace Gamebook

/-- An entity of a kind is known by a label. -/
inductive Entity.Labelled : Entity → ContentKind → Prop
  | scene {scene : Scene} (title : IsLabel scene.title) : Labelled (.scene scene) .scene
  | character {character : Character} (name : IsLabel character.name) :
    Labelled (.character character) .character
  | item {item : Item} (name : IsLabel item.name) : Labelled (.item item) .item

namespace Reply

/-! ## Labels -/

theorem isLabel_of_textField? {members : Entries Value} {names : List String} {text : String}
    (found : textField? members names = some text) : IsLabel text := by
  obtain ⟨name, -, given⟩ := List.exists_of_findSome?_eq_some found
  obtain ⟨written, -, taken⟩ := Option.bind_eq_some_iff.mp given
  dsimp only at taken
  split at taken
  next => cases taken
  next something =>
    obtain rfl := Option.some.inj taken
    exact isLabel_of_filled (Text.trim_trim written) (by simpa using something)

theorem isLabel_filled {found : Option String}
    (trimmed : ∀ text ∈ found, Text.trim text = text) : ∀ text ∈ filled found, IsLabel text := by
  intro text isFilled
  obtain ⟨isFound, something⟩ := Option.filter_eq_some_iff.mp isFilled
  exact isLabel_of_filled (trimmed text isFound) (by simpa using something)

/-- What replaces a label is one too. -/
theorem isLabel_orDefault {found : Option String} (labels : ∀ text ∈ found, IsLabel text)
    (note : String) {standard : String} (isStandard : IsLabel standard) :
    IsLabel (orDefault found note standard).1 := by
  cases found with
  | none => exact isStandard
  | some text => exact labels text rfl

theorem trim_of_labelled? {line : List Char} {label value : String}
    (found : labelled? line = some (label, value)) : Text.trim value = value := by
  obtain ⟨_, _, behind, _, _, _, rfl⟩ := exists_of_labelled? found
  exact trim_ofList_trimBlanks behind

theorem CharacterParts.plain_trimmed {parts : CharacterParts}
    (trimmed : ∀ name ∈ parts.name, Text.trim name = name) (line : String) :
    ∀ name ∈ (parts.plain (clean line)).name, Text.trim name = name := by
  unfold CharacterParts.plain
  split_ifs
  · exact trimmed_some (trim_clean line)
  · exact trimmed
  · exact trimmed

theorem CharacterParts.takeText_trimmed {parts : CharacterParts}
    (trimmed : ∀ name ∈ parts.name, Text.trim name = name) (line : String) :
    ∀ name ∈ (parts.takeText line).name, Text.trim name = name := by
  have plain := CharacterParts.plain_trimmed trimmed line
  unfold CharacterParts.takeText
  split
  next => exact plain
  next label value found =>
    split_ifs
    · exact trimmed_some (trim_of_labelled? found)
    · exact trimmed
    · exact trimmed
    · exact trimmed
    · exact plain

theorem CharacterParts.takeAll_trimmed {lines : List String} {parts after : CharacterParts}
    (trimmed : ∀ name ∈ parts.name, Text.trim name = name)
    (taken : parts.takeAll lines = .ok after) : ∀ name ∈ after.name, Text.trim name = name := by
  induction lines generalizing parts with
  | nil =>
    obtain rfl := Except.ok.inj taken
    exact trimmed
  | cons line lines inductionHypothesis =>
    rw [CharacterParts.takeAll] at taken
    split at taken
    next => exact inductionHypothesis (CharacterParts.takeText_trimmed trimmed line) taken
    next =>
      split at taken
      next => cases taken
      next values _ =>
        have same : ∀ name ∈ { parts with values := values }.name, Text.trim name = name := trimmed
        exact inductionHypothesis same taken

theorem ItemParts.plain_trimmed {parts : ItemParts}
    (trimmed : ∀ name ∈ parts.name, Text.trim name = name) (line : String) :
    ∀ name ∈ (parts.plain (clean line)).name, Text.trim name = name := by
  unfold ItemParts.plain
  split_ifs
  · exact trimmed_some (trim_clean line)
  · exact trimmed

theorem ItemParts.take_trimmed {parts : ItemParts}
    (trimmed : ∀ name ∈ parts.name, Text.trim name = name) (line : String) :
    ∀ name ∈ (parts.take line).name, Text.trim name = name := by
  have plain := ItemParts.plain_trimmed trimmed line
  unfold ItemParts.take
  dsimp only
  split
  next => exact plain
  next label value found =>
    split_ifs
    · exact trimmed_some (trim_of_labelled? found)
    · exact trimmed
    · exact trimmed
    · exact trimmed
    · exact trimmed
    · exact plain

theorem isLabel_defaults :
    IsLabel defaultSceneTitle ∧ IsLabel defaultCharacterName ∧ IsLabel defaultItemName := by
  decide

theorem defaultEntity_labelled (kind : ContentKind) (ids : IdSource) :
    (defaultEntity kind ids).1.Labelled kind := by
  obtain ⟨title, characterName, itemName⟩ := isLabel_defaults
  cases kind with
  | scene => exact .scene title
  | character => exact .character characterName
  | item => exact .item itemName

theorem ofObject_labelled (kind : ContentKind) (members : Entries Value) (ids : IdSource) :
    (ofObject kind members ids).1.Labelled kind := by
  obtain ⟨title, characterName, itemName⟩ := isLabel_defaults
  cases kind with
  | scene => exact .scene (isLabel_orDefault (fun _ => isLabel_of_textField?) _ title)
  | character =>
    exact .character (isLabel_orDefault (fun _ => isLabel_of_textField?) _ characterName)
  | item => exact .item (isLabel_orDefault (fun _ => isLabel_of_textField?) _ itemName)

theorem ofLines_labelled {kind : ContentKind} {lines notes : List String} {ids left : IdSource}
    {entity : Entity} (made : ofLines kind lines ids = .ok (entity, notes, left)) :
    entity.Labelled kind := by
  obtain ⟨title, characterName, itemName⟩ := isLabel_defaults
  cases kind with
  | scene =>
    obtain ⟨rfl, -, -⟩ := Except.ok.inj made
    exact .scene (isLabel_orDefault (isLabel_filled (heard_trimmed lines).title) _ title)
  | character =>
    rw [ofLines, characterOfLines] at made
    cases taken : CharacterParts.takeAll {} lines with
    | error fault =>
      rw [taken] at made
      cases made
    | ok parts =>
      rw [taken] at made
      obtain ⟨rfl, -, -⟩ := Except.ok.inj made
      have trimmed := CharacterParts.takeAll_trimmed trimmed_none taken
      exact .character (isLabel_orDefault (isLabel_filled trimmed) _ characterName)
  | item =>
    obtain ⟨rfl, -, -⟩ := Except.ok.inj made
    have trimmed : ∀ name ∈ (lines.foldl ItemParts.take {}).name, Text.trim name = name :=
      List.foldlRecOn
        (motive := fun parts : ItemParts => ∀ name ∈ parts.name, Text.trim name = name)
        lines _ trimmed_none fun _ trimmed line _ => ItemParts.take_trimmed trimmed line
    exact .item (isLabel_orDefault (isLabel_filled trimmed) _ itemName)

/-- Every reply gives an entity that is known by a label. -/
theorem read_labelled (kind : ContentKind) (earlier : List String) (text : String)
    (ids : IdSource) : (read kind earlier text ids).1.entity.Labelled kind := by
  have reads := reads_read kind earlier text ids
  generalize read kind earlier text ids = result at reads ⊢
  cases reads with
  | byDefault => exact defaultEntity_labelled kind ids
  | fromObject => exact ofObject_labelled kind _ ids
  | fromLines _ made => exact ofLines_labelled made

/-! ## Blank texts -/

/-- What a line offers is not blank, and it is nothing but marks. -/
def OffersOnlyMarks (line : String) : Prop :=
  ∃ offered, Offers line offered ∧ (∃ c ∈ offered, Text.isBlank c = false) ∧
    cleanCharacters offered = []

/-- A reply without an object has a line that offers only marks. -/
def OffersMarks (text : String) : Prop :=
  objectIn? text = .ok none ∧ ∃ line ∈ filledLines text, OffersOnlyMarks line

/-- The prose of a reply: what its lines tell about the scene itself. -/
def prose (text : String) : List Telling :=
  ((filledLines text).map telling).filter Telling.isProse

/-- The prose of a reply without an object is a title, and then only lines of nothing but marks. -/
def DescribesMarks (text : String) : Prop :=
  objectIn? text = .ok none ∧ ∃ first later, prose text = first :: later ∧
    first.title?.isSome = true ∧ ∀ told ∈ later, told = .plain ""

/-- A line is plain text without a character when it offers no choice and is nothing but marks. -/
theorem telling_eq_marks_iff (line : String) :
    telling line = .plain "" ↔ choiceOnLine? line = none ∧ clean line = "" := by
  have nothing : tellingOf "" = .plain "" := by decide +kernel
  have ofClean (cleaned : String) (same : tellingOf cleaned = .plain "") : cleaned = "" := by
    rw [tellingOf] at same
    split at same
    next => cases same
    next => exact Telling.plain.inj same
  unfold telling
  constructor
  · intro same
    cases offered : choiceOnLine? line with
    | some text =>
      rw [offered] at same
      cases same
    | none =>
      refine ⟨rfl, ofClean _ ?_⟩
      rw [offered] at same
      cases found : labelled? line.toList with
      | none => simpa only [found] using same
      | some pair =>
        simp only [found] at same
        split_ifs at same
        exact same
  · rintro ⟨offered, empty⟩
    have unlabelled : labelled? line.toList = none := by
      rw [clean, String.ofList_eq_empty_iff] at empty
      rw [labelled?, empty]
      rfl
    simp only [offered, unlabelled, empty, nothing]

theorem choice?_telling (line : String) : (telling line).choice? = choiceOnLine? line := by
  have ofClean (cleaned : String) : (tellingOf cleaned).choice? = none := by
    rw [tellingOf]
    split <;> rfl
  unfold telling
  cases choiceOnLine? line with
  | some text => rfl
  | none =>
    cases labelled? line.toList with
    | none => exact ofClean _
    | some pair =>
      dsimp only
      split_ifs
      · rfl
      · rfl
      · rfl
      · exact ofClean _

/-- Lines come to the choices on them, in their order. -/
theorem heard_choices (lines : List String) :
    (heard lines).choices = lines.filterMap choiceOnLine? := by
  rw [heard, foldl_take, foldl_hear_choices, List.filterMap_map, List.nil_append]
  exact congrArg (List.filterMap · lines) (funext choice?_telling)

theorem mem_heard_choices_iff (lines : List String) :
    "" ∈ (heard lines).choices ↔ ∃ line ∈ lines, OffersOnlyMarks line := by
  simp only [heard_choices, List.mem_filterMap, choiceOnLine?_eq_some_iff, OffersOnlyMarks,
    eq_comm (a := ""), String.ofList_eq_empty_iff]

/-- Texts with a space between neighbours are blank when each of them is. -/
theorem isAllBlank_intercalate (texts : List String) :
    Text.isAllBlank (String.intercalate " " texts) = true ↔
      ∀ text ∈ texts, Text.isAllBlank text = true := by
  simp only [Text.isAllBlank, List.all_eq_true, String.toList_intercalate]
  constructor
  · intro blank text isText c member
    exact blank c (Text.mem_intercalate_of_mem _ (List.mem_map_of_mem isText) member)
  · intro blank c member
    rcases Text.mem_intercalate member with space | ⟨piece, isPiece, inPiece⟩
    · obtain rfl := List.mem_singleton.mp space
      decide
    · obtain ⟨text, isText, rfl⟩ := List.mem_map.mp isPiece
      exact blank text isText c inPiece

theorem isAllBlank_of_isLabel {text : String} (isLabel : IsLabel text) :
    Text.isAllBlank text = false := by
  simpa [Text.isAllBlank_of_trimmed isLabel.2] using isLabel.1

/-- Prose adds something blank to a description only as a line of nothing but marks. -/
theorem description?_blank_iff {told : Telling} (trimmed : told.Trimmed)
    (isProse : told.isProse = true) :
    (∀ text ∈ told.description?, Text.isAllBlank text = true) ↔ told = .plain "" := by
  cases trimmed with
  | choice | header => cases isProse
  | title _ isLine => simp [Telling.description?, isAllBlank_of_isLabel isLine]
  | description isValue => simp [Telling.description?, isAllBlank_of_isLabel isValue]
  | plain isTrimmed => simp [Telling.description?, Text.isAllBlank_of_trimmed isTrimmed]

theorem gathers_heard (text : String) :
    Gathers (prose text) (heard (filledLines text)).title
      (heard (filledLines text)).description := by
  rw [heard, foldl_take]
  exact gathers_hear _ rfl rfl

theorem prose_trimmed (text : String) :
    ∀ told ∈ prose text, told.Trimmed ∧ told.isProse = true := by
  intro told member
  obtain ⟨isTold, isProse⟩ := List.mem_filter.mp member
  obtain ⟨line, -, rfl⟩ := List.mem_map.mp isTold
  exact ⟨telling_trimmed line, isProse⟩

/-- The description that lines come to is blank just when they describe only marks. -/
theorem heard_blank_iff {text : String} (missing : objectIn? text = .ok none)
    (described : (heard (filledLines text)).description ≠ []) :
    Text.isAllBlank (String.intercalate " " (heard (filledLines text)).description) = true ↔
      DescribesMarks text := by
  have gathers := gathers_heard text
  have trimmed := prose_trimmed text
  rw [isAllBlank_intercalate, DescribesMarks]
  generalize prose text = all, (heard (filledLines text)).title = title,
    (heard (filledLines text)).description = description at gathers trimmed described ⊢
  cases gathers with
  | nothing => exact absurd rfl described
  | @titled first title isTitle later =>
    have each {told : Telling} (isLater : told ∈ later) :
        (∀ text ∈ told.description?, Text.isAllBlank text = true) ↔ told = .plain "" := by
      obtain ⟨isTrimmed, isProse⟩ := trimmed told (List.mem_cons_of_mem _ isLater)
      exact description?_blank_iff isTrimmed isProse
    constructor
    · intro blank
      refine ⟨missing, first, later, rfl, by simp [isTitle], fun told isLater => ?_⟩
      refine (each isLater).mp fun text adds => ?_
      exact blank text (List.mem_filterMap.mpr ⟨told, isLater, adds⟩)
    · rintro ⟨-, _, _, same, -, marks⟩ text adds
      obtain ⟨rfl, rfl⟩ := List.cons.inj same
      obtain ⟨told, isLater, adds⟩ := List.mem_filterMap.mp adds
      exact (each isLater).mpr (marks told isLater) text adds
  | @described value later title description member =>
    refine iff_of_false (fun blank => ?_) ?_
    · cases (trimmed _ List.mem_cons_self).1 with
      | description isValue =>
        cases (isAllBlank_of_isLabel isValue).symm.trans (blank value member)
    · rintro ⟨-, first, later, same, isTitle, -⟩
      obtain ⟨rfl, -⟩ := List.cons.inj same
      cases isTitle

/-! ## Scenes without notes -/

theorem noteIf_eq_nil_iff (condition : Bool) (note : String) :
    noteIf condition note = [] ↔ condition = false := by
  cases condition <;> simp [noteIf]

/-- Without notes there is none for a description or for choices. -/
theorem unnoted {others : List String} {description choices : Bool} {first second : String}
    (noNotes : others ++ noteIf description first ++ noteIf choices second = []) :
    description = false ∧ choices = false := by
  obtain ⟨before, last⟩ := List.append_eq_nil_iff.mp noNotes
  exact ⟨(noteIf_eq_nil_iff _ _).mp (List.append_eq_nil_iff.mp before).2,
    (noteIf_eq_nil_iff _ _).mp last⟩

/-- The choices that are drawn for some texts have these texts. -/
theorem exists_drawn_iff (source : IdSource) (texts : List String) (holds : String → Prop) :
    (∃ choice ∈ (source.drawChoices texts).1, holds choice.text) ↔ ∃ text ∈ texts, holds text := by
  have drawn := drawChoices_texts source texts
  generalize (source.drawChoices texts).1 = choices at drawn
  subst drawn
  simp

/-- A scene that is read from a reply ends the story with each choice. It is blank, in a choice or
without a note in its description, just where the reply offers or describes only marks. -/
structure BlankFrom (text : String) (scene : Scene) (notes : List String) : Prop where
  plain : ∀ choice ∈ scene.choices, choice.Plain
  choices : (∃ choice ∈ scene.choices, Text.isAllBlank choice.text = true) ↔ OffersMarks text
  some : notes = [] → scene.choices ≠ []
  description : notes = [] →
    (Text.isAllBlank scene.description = true ↔ DescribesMarks text)

theorem isLabel_of_choiceText? {written : Value} {text : String}
    (found : choiceText? written = some text) : IsLabel text := by
  cases written with
  | text given =>
    unfold choiceText? at found
    dsimp only at found
    split at found
    next => cases found
    next something =>
      obtain rfl := Option.some.inj found
      exact isLabel_of_filled (Text.trim_trim given) (by simpa using something)
  | object members => exact isLabel_of_textField? found
  | _ => cases found

theorem sceneOfObject_choices (members : Entries Value) (ids : IdSource) :
    ∃ texts, (sceneOfObject members ids).1.choices = (ids.drawChoices texts).1 ∧
      ∀ text ∈ texts, IsLabel text := by
  refine ⟨_, rfl, fun text isText => ?_⟩
  obtain ⟨written, -, given⟩ := List.mem_filterMap.mp isText
  exact isLabel_of_choiceText? given

/-- An object describes a scene with a label or not at all. -/
theorem sceneOfObject_description (members : Entries Value) (ids : IdSource) :
    (sceneOfObject members ids).1.description = "" ∨
      IsLabel (sceneOfObject members ids).1.description := by
  change (textField? members _).getD "" = "" ∨ IsLabel ((textField? members _).getD "")
  cases given : textField? members ["description", "text", "narration"] with
  | none => exact .inl rfl
  | some description => exact .inr (isLabel_of_textField? given)

theorem sceneOfObject_noted {members : Entries Value} {ids : IdSource}
    (noNotes : (sceneOfObject members ids).2.1 = []) :
    (sceneOfObject members ids).1.description ≠ "" ∧
      (sceneOfObject members ids).1.choices ≠ [] := by
  obtain ⟨described, offered⟩ := unnoted noNotes
  exact ⟨String.isEmpty_eq_false_iff.mp described, List.isEmpty_eq_false_iff.mp offered⟩

theorem sceneOfObject_blankFrom {text : String} {members : Entries Value}
    (found : objectIn? text = .ok (some members)) (ids : IdSource) :
    BlankFrom text (sceneOfObject members ids).1 (sceneOfObject members ids).2.1 := by
  have present : objectIn? text ≠ .ok none := by
    intro missing
    cases found.symm.trans missing
  obtain ⟨texts, drawn, labels⟩ := sceneOfObject_choices members ids
  obtain ⟨-, -, -, plain⟩ := ids.drawChoices_draws texts
  constructor
  · rwa [drawn]
  · refine iff_of_false (fun blank => ?_) (fun offers => present offers.1)
    rw [drawn, exists_drawn_iff ids texts (Text.isAllBlank · = true)] at blank
    obtain ⟨text, isText, blank⟩ := blank
    cases (isAllBlank_of_isLabel (labels text isText)).symm.trans blank
  · intro noNotes
    exact (sceneOfObject_noted noNotes).2
  · intro noNotes
    refine iff_of_false (fun blank => ?_) (fun describes => present describes.1)
    rcases sceneOfObject_description members ids with nothing | isLabel
    · exact (sceneOfObject_noted noNotes).1 nothing
    · cases (isAllBlank_of_isLabel isLabel).symm.trans blank

theorem sceneOfLines_choices (lines : List String) (ids : IdSource) :
    ∃ source : IdSource,
      (sceneOfLines lines ids).1.choices = (source.drawChoices (heard lines).choices).1 :=
  ⟨_, rfl⟩

theorem sceneOfLines_description (lines : List String) (ids : IdSource) :
    (sceneOfLines lines ids).1.description = String.intercalate " " (heard lines).description := rfl

theorem sceneOfLines_noted {lines : List String} {ids : IdSource}
    (noNotes : (sceneOfLines lines ids).2.1 = []) :
    (heard lines).description ≠ [] ∧ (heard lines).choices ≠ [] := by
  obtain ⟨described, offered⟩ := unnoted noNotes
  exact ⟨List.isEmpty_eq_false_iff.mp described, List.isEmpty_eq_false_iff.mp offered⟩

theorem sceneOfLines_blankFrom {text : String} (missing : objectIn? text = .ok none)
    (ids : IdSource) :
    BlankFrom text (sceneOfLines (filledLines text) ids).1
      (sceneOfLines (filledLines text) ids).2.1 := by
  obtain ⟨source, drawn⟩ := sceneOfLines_choices (filledLines text) ids
  obtain ⟨-, -, -, plain⟩ := source.drawChoices_draws (heard (filledLines text)).choices
  constructor
  · rwa [drawn]
  · rw [drawn, exists_drawn_iff source _ (Text.isAllBlank · = true), OffersMarks,
      and_iff_right missing, ← mem_heard_choices_iff]
    have trimmed := (heard_trimmed (filledLines text)).choices
    constructor
    · rintro ⟨choice, isChoice, blank⟩
      rw [Text.isAllBlank_of_trimmed (trimmed choice isChoice), String.isEmpty_iff] at blank
      exact blank ▸ isChoice
    · intro isChoice
      exact ⟨"", isChoice, rfl⟩
  · intro noNotes
    obtain ⟨-, offered⟩ := sceneOfLines_noted noNotes
    rw [drawn]
    intro nothing
    refine offered ?_
    rw [← drawChoices_texts source (heard (filledLines text)).choices, nothing, List.map_nil]
  · intro noNotes
    rw [sceneOfLines_description]
    exact heard_blank_iff missing (sceneOfLines_noted noNotes).1

theorem default_blankFrom {text : String} {ids : IdSource}
    (unreadable : filledLines text = [] ∨
      ∃ fault, entityOf .scene text (filledLines text) ids = .error fault)
    {scene : Scene} (noChoices : scene.choices = []) (note : String) :
    BlankFrom text scene [note] := by
  have noOffer : ¬OffersMarks text := by
    rintro ⟨missing, line, isLine, -⟩
    rcases unreadable with nothing | ⟨fault, failed⟩
    · rw [nothing] at isLine
      cases isLine
    · rw [entityOf, missing] at failed
      cases failed
  have noted : [note] ≠ [] := List.cons_ne_nil note []
  refine ⟨by simp [noChoices], iff_of_false (by simp [noChoices]) noOffer, ?_, ?_⟩
  · intro noNotes
    exact absurd noNotes noted
  · intro noNotes
    exact absurd noNotes noted

/-- Every reply gives a scene that is blank only where the reply offers or describes marks. -/
theorem read_blankFrom (text : String) (ids : IdSource) :
    ∃ scene, (read .scene [] text ids).1.entity = .scene scene ∧
      BlankFrom text scene (read .scene [] text ids).1.notes := by
  have reads := reads_read .scene [] text ids
  generalize read .scene [] text ids = result at reads ⊢
  cases reads with
  | byDefault note unreadable => exact ⟨_, rfl, default_blankFrom unreadable rfl note⟩
  | fromObject found => exact ⟨_, rfl, sceneOfObject_blankFrom found ids⟩
  | fromLines missing made =>
    obtain ⟨rfl, rfl, -⟩ := Except.ok.inj made
    exact ⟨_, rfl, sceneOfLines_blankFrom missing ids⟩

/-- Whatever a reply says, what is read from it is of the kind that is asked for and known by a
label, and the choices of a scene end the story. One of these choices is blank just when the reply
offers only marks. A scene that is not ambiguous leaves a choice, and its description is blank just
when the reply describes only marks. -/
theorem unflagged_content (text : String) (ids : IdSource) :
    (∀ kind, resolveKind (.text kind.name) = .ok (kind, []) ∧
      (read kind [] text ids).1.entity.Labelled kind) ∧
    ∃ scene, (read .scene [] text ids).1.entity = .scene scene ∧
      (∀ choice ∈ scene.choices, choice.Plain) ∧
      ((∃ choice ∈ scene.choices, Text.isAllBlank choice.text = true) ↔ OffersMarks text) ∧
      ((read .scene [] text ids).1.isAmbiguous = false →
        scene.choices ≠ [] ∧
          (Text.isAllBlank scene.description = true ↔ DescribesMarks text)) := by
  refine ⟨fun kind => ⟨resolveKind_name kind, read_labelled kind [] text ids⟩, ?_⟩
  obtain ⟨scene, made, blank⟩ := read_blankFrom text ids
  refine ⟨scene, made, blank.plain, blank.choices, fun unambiguous => ?_⟩
  have noNotes : (read .scene [] text ids).1.notes = [] := by
    simpa [Content.isAmbiguous] using unambiguous
  exact ⟨blank.some noNotes, blank.description noNotes⟩

/-- Behind a bullet two stars are a choice without a text, and behind a title three stars are a
description without one; no note tells of either. -/
theorem marks_pass_unflagged :
    (∃ scene,
      (read .scene [] "Title: Gate\nA rusted gate.\n- **" {}).1 = ⟨.scene, .scene scene, []⟩ ∧
        ∃ choice ∈ scene.choices, Text.isAllBlank choice.text = true) ∧
    ∃ scene, (read .scene [] "Title: Gate\n***\n1. Push" {}).1 = ⟨.scene, .scene scene, []⟩ ∧
      Text.isAllBlank scene.description = true := by
  have unnoted {text : String} (missing : objectIn? text = .ok none)
      (something : filledLines text ≠ [])
      (noNotes : (sceneOfLines (filledLines text) {}).2.1 = []) :
      (read .scene [] text {}).1 =
        ⟨.scene, .scene (sceneOfLines (filledLines text) {}).1, []⟩ := by
    rw [read_scene_of_lines missing something, noNotes, List.nil_append]
  constructor
  · exact ⟨_, unnoted rfl (by decide +kernel) (by decide +kernel), by decide +kernel⟩
  · exact ⟨_, unnoted rfl (by decide +kernel) (by decide +kernel), by decide +kernel⟩

end Reply

end Gamebook
