import Gamebook.Export.Artifact
import Gamebook.Proofs.Export.Data
import Gamebook.Proofs.Story.Schema
import Gamebook.Proofs.Story.Shape
import Gamebook.Proofs.Text.Occurrence
import Gamebook.Proofs.Validation

/-!
# Pages that author text cannot break

Author text stands in a page at three places: in the visible title, in the visible description
and in the data. At none of them can it hold the sign that a tag begins with, and neither the
style nor the player holds a tag of a script. So a page has the tags that it was written with
and no others, and what stands between the tag that opens the data and the next one that closes
a script is the data, as it was written.
-/

namespace Gamebook.Page

open Text

/-! ## The tags of scripts -/

/-- The tag in front of the data of a page. -/
def openingTag : String := "<script type=\"application/json\" id=\"story-data\">"

/-- The tag behind the data and behind the player. -/
def closingTag : String := "</script>"

/-- The characters of a literal. -/
theorem toList_literal {literal : String} {cs : List Char} (same : literal = String.ofList cs) :
    literal.toList = cs := by
  rw [same, String.toList_ofList]

/-- What the tag in front of the data begins with, and no other tag of a page. -/
def openingStart : List Char := ['<', 's', 'c', 'r', 'i', 'p', 't', ' ']

/-- What the tag that closes a script begins with, and no other tag of a page. -/
def closingStart : List Char := ['<', '/', 's', 'c']

theorem openingTag_starts : ∃ more, openingTag.toList = openingStart ++ more :=
  ⟨_, toList_literal rfl⟩

theorem closingTag_starts : ∃ more, closingTag.toList = closingStart ++ more :=
  ⟨_, toList_literal rfl⟩

/-- The tag in front of the data holds itself once and no closing tag. -/
theorem openingTag_adds :
    Adds openingTag.toList openingTag.toList 1 ∧ Adds closingTag.toList openingTag.toList 0 := by
  obtain ⟨more, isClosing⟩ := closingTag_starts
  rw [isClosing, @toList_literal openingTag _ rfl]
  exact ⟨adds_self (by decide), adds_of_clearOf (by decide) more⟩

/-- The closing tag holds itself once and no tag in front of data. -/
theorem closingTag_adds :
    Adds openingTag.toList closingTag.toList 0 ∧ Adds closingTag.toList closingTag.toList 1 := by
  obtain ⟨more, isOpening⟩ := openingTag_starts
  rw [isOpening, @toList_literal closingTag _ rfl]
  exact ⟨adds_of_clearOf (by decide) more, adds_self (by decide)⟩

/-- Neither tag begins in the characters, whatever stands behind them. -/
structure Tagless (cs : List Char) : Prop where
  opening : Adds openingTag.toList cs 0
  closing : Adds closingTag.toList cs 0

theorem Tagless.append {cs ds : List Char} (first : Tagless cs) (second : Tagless ds) :
    Tagless (cs ++ ds) :=
  ⟨first.opening.append second.opening, first.closing.append second.closing⟩

/-- Whether from each place on the characters differ from what the tags begin with. -/
def clearOfTags (cs : List Char) : Bool := clearOf openingStart cs && clearOf closingStart cs

theorem tagless_of_clear {cs : List Char} (clear : clearOfTags cs = true) : Tagless cs := by
  obtain ⟨opening, isOpening⟩ := openingTag_starts
  obtain ⟨closing, isClosing⟩ := closingTag_starts
  obtain ⟨noOpening, noClosing⟩ := (Bool.and_eq_true _ _).mp clear
  exact ⟨isOpening ▸ adds_of_clearOf noOpening opening,
    isClosing ▸ adds_of_clearOf noClosing closing⟩

theorem tagless_literal {literal : String} {cs : List Char} (same : literal = String.ofList cs)
    (clear : clearOfTags cs = true) : Tagless literal.toList := by
  rw [toList_literal same]
  exact tagless_of_clear clear

theorem tagless_of_absent {cs : List Char} (absent : '<' ∉ cs) : Tagless cs :=
  tagless_of_clear ((Bool.and_eq_true _ _).mpr
    ⟨clearOf_of_absent absent _, clearOf_of_absent absent _⟩)

/-! ## Visible text, style and player -/

theorem less_notMem_visibleCharacter (c : Char) : '<' ∉ visibleCharacter c := by
  fun_cases visibleCharacter c
  case case6 noLess _ _ _ => simpa [eq_comm] using noLess
  all_goals decide

theorem visible_tagless (text : String) : Tagless (visible text).toList := by
  refine tagless_of_absent fun member => ?_
  rw [visible, String.toList_ofList] at member
  obtain ⟨c, -, written⟩ := List.mem_flatMap.mp member
  exact less_notMem_visibleCharacter c written

/-- Lines without a tag have none together. -/
theorem intercalate_tagless {lines : List String} (each : ∀ line ∈ lines, Tagless line.toList) :
    Tagless (String.intercalate "\n" lines).toList := by
  induction lines with
  | nil => exact ⟨.nil _, .nil _⟩
  | cons line others inductionHypothesis =>
    obtain ⟨here, there⟩ := List.forall_mem_cons.mp each
    cases others with
    | nil => simpa using here
    | cons next others =>
      rw [String.intercalate_cons_cons, String.toList_append, String.toList_append]
      exact (here.append (tagless_literal rfl (by decide))).append (inductionHypothesis there)

theorem styleLines_tagless : ∀ line ∈ styleLines, Tagless line.toList := by
  simp only [styleLines, List.forall_mem_cons, List.not_mem_nil, IsEmpty.forall_iff, implies_true,
    and_true]
  and_intros
  all_goals exact tagless_literal rfl (by decide +kernel)

set_option maxRecDepth 4000 in
theorem playerLines_tagless : ∀ line ∈ playerLines, Tagless line.toList := by
  simp only [playerLines, List.forall_mem_cons, List.not_mem_nil, IsEmpty.forall_iff, implies_true,
    and_true]
  and_intros
  all_goals exact tagless_literal rfl (by decide +kernel)

theorem style_tagless {background panel text accent : String}
    (ofBackground : Tagless background.toList) (ofPanel : Tagless panel.toList)
    (ofText : Tagless text.toList) (ofAccent : Tagless accent.toList) :
    Tagless (style background panel text accent).toList := by
  have bottom := intercalate_tagless styleLines_tagless
  unfold style
  generalize String.intercalate "\n" styleLines = lines at bottom
  simp only [String.toList_append]
  refine .append (.append (.append (.append (.append (.append (.append (.append (.append
    ?_ ofBackground) ?_) ofPanel) ?_) ofText) ?_) ofAccent) ?_) bottom
  all_goals exact tagless_literal rfl (by decide)

/-- No theme's style has a tag in it. -/
theorem themeStyle_tagless (theme : Theme) : Tagless (themeStyle theme).toList := by
  cases theme
  all_goals
    unfold themeStyle
    apply style_tagless
  all_goals exact tagless_literal rfl (by decide)

theorem playerScript_tagless : Tagless playerScript.toList :=
  intercalate_tagless playerLines_tagless

/-! ## The document -/

/-- What stands in front of the data. -/
def front (project : Project) : String :=
  String.intercalate "\n"
    ["<!DOCTYPE html>",
      "<html lang=\"en\">",
      "<head>",
      "<meta charset=\"utf-8\">",
      "<meta name=\"viewport\" content=\"width=device-width, initial-scale=1\">",
      "<title>" ++ visible project.name ++ "</title>",
      "<style>" ++ themeStyle project.settings.theme ++ "</style>",
      "</head>",
      "<body>",
      "<main>",
      "<header><h1>" ++ visible project.name ++ "</h1><p>" ++ visible project.description ++
        "</p></header>",
      "<section id=\"game\" aria-live=\"polite\"></section>",
      "<div class=\"controls\"><button id=\"restart\" type=\"button\">Restart</button></div>",
      "</main>",
      ""]

/-- What stands between the data and the end of the player. -/
def middle : String := String.intercalate "\n" ["", "<script>" ++ playerScript]

/-- What stands behind the player. -/
def back : String := String.intercalate "\n" ["", "</body>", "</html>", ""]

/-- A page is the data between its tags, and then the player up to another closing tag. -/
theorem document_eq (project : Project) (data : String) :
    document project data =
      front project ++ openingTag ++ data ++ closingTag ++ middle ++ closingTag ++ back := by
  simp only [document, front, middle, back, openingTag, closingTag, String.intercalate_cons_cons,
    String.intercalate_singleton, String.append_assoc, String.append_empty, String.empty_append]

theorem front_tagless (project : Project) : Tagless (front project).toList := by
  refine intercalate_tagless ?_
  simp only [List.forall_mem_cons, List.not_mem_nil, IsEmpty.forall_iff, implies_true, and_true,
    String.toList_append]
  have title := visible_tagless project.name
  have description := visible_tagless project.description
  have style := themeStyle_tagless project.settings.theme
  refine ⟨?_, ?_, ?_, ?_, ?_, .append (.append ?_ title) ?_, .append (.append ?_ style) ?_, ?_, ?_,
    ?_, .append (.append (.append (.append ?_ title) ?_) description) ?_, ?_, ?_, ?_, ?_⟩
  all_goals exact tagless_literal rfl (by decide)

theorem middle_tagless : Tagless middle.toList := by
  refine intercalate_tagless ?_
  simp only [List.forall_mem_cons, List.not_mem_nil, IsEmpty.forall_iff, implies_true, and_true,
    String.toList_append]
  refine ⟨?_, .append ?_ playerScript_tagless⟩
  all_goals exact tagless_literal rfl (by decide)

theorem back_tagless : Tagless back.toList := by
  refine intercalate_tagless ?_
  simp only [List.forall_mem_cons, List.not_mem_nil, IsEmpty.forall_iff, implies_true, and_true]
  and_intros
  all_goals exact tagless_literal rfl (by decide)

/-- Data without a tag stands in a page of which the tag in front of it and the closing ones
are the only ones. -/
theorem document_tags (project : Project) {data : String} (tagless : Tagless data.toList) :
    occurrences openingTag.toList (document project data).toList = 1 ∧
      occurrences closingTag.toList (document project data).toList = 2 := by
  have start := front_tagless project
  simp only [document_eq, String.toList_append]
  constructor
  · exact ((((((start.opening.append openingTag_adds.1).append tagless.opening).append
      closingTag_adds.1).append middle_tagless.opening).append closingTag_adds.1).append
      back_tagless.opening).occurrences_eq
  · exact ((((((start.closing.append openingTag_adds.2).append tagless.closing).append
      closingTag_adds.2).append middle_tagless.closing).append closingTag_adds.2).append
      back_tagless.closing).occurrences_eq

/-! ## The data -/

/-- The data of a story nests as deep as its rules stand in it. -/
theorem storyData_shaped (project : Project) : (storyData project).Shaped 7 := by
  refine Value.shaped_object (by simp) ?_
  simp only [List.forall_mem_cons]
  exact ⟨Value.shaped_text _ _, Value.shaped_ofText? _ _, Value.shaped_text _ _,
    Value.shaped_list_map fun scene _ => scene.toValue_shaped, nofun⟩

/-- The data in a page is the document of the story data with its risky characters numbered. -/
theorem dataBlock_eq_ok_iff (project : Project) (data : String) :
    dataBlock project = .ok data ↔ Json.fault? (storyData project) = none ∧
      String.ofList (numberRisky (Json.render Json.oneLine 0 (storyData project))) = data := by
  unfold dataBlock Json.print
  split
  next fault isFault => simp [isFault, Except.map]
  next noFault => simp [noFault, Except.map, numberRisky]

/-- The data in a page is read as the story data. -/
theorem read_dataBlock {project : Project} {data : String} (written : dataBlock project = .ok data)
    (dialect : Json.Dialect) : Json.read dialect data = .ok (storyData project) := by
  obtain ⟨noFault, rfl⟩ := (dataBlock_eq_ok_iff project data).mp written
  have shaped := storyData_shaped project
  have shallow : (storyData project).nesting ≤ dialect.depthLimit := by
    refine Nat.le_trans shaped.shallow ?_
    cases dialect <;> decide
  have whole : Json.read dialect
      (String.ofList (Json.render Json.oneLine 0 (storyData project))) = .ok (storyData project) :=
    Json.read_printable (Value.printable_of_fault?_eq_none nofun noFault) shaped.distinct shallow
  rw [Json.read, String.toList_ofList] at whole
  rw [Json.read, String.toList_ofList]
  exact readCharacters_numberRisky whole

end Gamebook.Page

namespace Gamebook.Export

open Page

/-- A page with one tag that opens data and two that close a script. What stands between the
first and the next one that closes is free of every character that could end it, and either
reader takes it for the title, the start, the terminal target and the scenes of the story. -/
structure Intact (project : Project) (text : String) : Prop where
  opening : Text.occurrences openingTag.toList text.toList = 1
  closing : Text.occurrences closingTag.toList text.toList = 2
  data : ∃ before block after, text = before ++ openingTag ++ block ++ closingTag ++ after ∧
    (∀ c ∈ block.toList, c ∉ ['<', '>', '&', '\u2028', '\u2029']) ∧
    ∀ dialect, Json.read dialect block = .ok (.object
      [("title", .text project.name),
        ("startSceneId", .ofText? (project.startScene?.map (·.id))),
        ("terminal", .text terminalTarget),
        ("scenes", .list (project.scenes.map Scene.toValue))])

theorem page_eq_ok_iff (project : Project) (text : String) : page project = .ok text ↔
    (Validation.report project).isValid = true ∧
      ∃ data, dataBlock project = .ok data ∧ text = document project data := by
  simp only [page, Validation.Report.require]
  grind

/-- Whatever the author wrote, a page that is written is intact. -/
theorem page_intact {project : Project} {text : String} (written : page project = .ok text) :
    Intact project text := by
  obtain ⟨-, data, isData, rfl⟩ := (page_eq_ok_iff project text).mp written
  have free : ∀ c ∈ data.toList, isRisky c = false := by
    obtain ⟨-, rfl⟩ := (dataBlock_eq_ok_iff project data).mp isData
    rw [String.toList_ofList]
    exact numberRisky_free _
  have tagless : Tagless data.toList :=
    tagless_of_absent fun less => nomatch free '<' less
  obtain ⟨opening, closing⟩ := document_tags project tagless
  refine ⟨opening, closing, front project, data, middle ++ closingTag ++ back, ?_, ?_,
    read_dataBlock isData⟩
  · simp only [document_eq, String.append_assoc]
  · intro c member risky
    have plain := free c member
    simp only [List.mem_cons, List.not_mem_nil, or_false] at risky
    rcases risky with rfl | rfl | rfl | rfl | rfl <;> simp [isRisky] at plain

/-- A story whose texts are full of tags. -/
def markupStory : Project :=
  { lampStory with
    name := "</title></script>"
    description := "<script type=\"application/json\" id=\"story-data\">"
    scenes :=
      [{ id := "hall", title := "</script>&\u2028"
         choices := [{ id := "rest", text := "<b>Rest</b>" }] }] }

theorem markupStory_structured : Validation.Structured markupStory where
  scenes := by decide
  start := by decide
  sceneIds := by decide
  choiceIds := by decide
  targets := by decide
  conditions := by decide
  consequences := by decide
  kinds := by decide

/-- The page of a story that tries every way out. -/
theorem page_intact_markup : ∃ text, page markupStory = .ok text ∧ Intact markupStory text := by
  have valid := (Validation.isValid_iff markupStory).mpr markupStory_structured
  have isData := (dataBlock_eq_ok_iff markupStory _).mpr ⟨by decide +kernel, rfl⟩
  have written := (page_eq_ok_iff markupStory _).mpr ⟨valid, _, isData, rfl⟩
  exact ⟨_, written, page_intact written⟩

end Gamebook.Export
