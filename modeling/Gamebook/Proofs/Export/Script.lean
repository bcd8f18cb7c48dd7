import Gamebook.Export.Artifact
import Gamebook.Proofs.Export.Passage
import Gamebook.Proofs.Story.Lookup
import Gamebook.Proofs.Story.Schema
import Gamebook.Proofs.Validation

/-!
# Scripts are read back passage by passage

Every line that a script is made of holds no break, so the lines of a script are the
lines it was written from, whatever the author wrote. Reading it gives one passage for
each scene in order and, exactly when some choice ends the story, the ending after them.
A passage of a scene has the links of its choices at the end, and before them only what
stands in the description in the full shape of a link. Since titles differ, every link
of a choice names the passage of its target and no other.
-/

namespace Gamebook.Script

/-! ## The lines of a script -/

theorem passageTitle_unbroken (title : String) :
    Text.Unbroken (Validation.passageTitle title).toList := Text.collapse_unbroken title

theorem inlineText_unbroken (text : String) : Text.Unbroken (inlineText text).toList := by
  simpa [inlineText, escape] using escapeCharacters_unbroken (passageTitle_unbroken text)

theorem headerLine_unbroken (title : String) : Text.Unbroken (headerLine title).toList := by
  simpa [headerLine, String.toList_append, Text.isLineBreak] using inlineText_unbroken title

theorem targetTitle_unbroken (scenes : List Scene) (choice : Choice) :
    Text.Unbroken (targetTitle scenes choice).toList := by
  unfold targetTitle titleOf
  split
  · decide
  · split
    · exact passageTitle_unbroken _
    · decide

theorem linkLine_unbroken (scenes : List Scene) (choice : Choice) :
    Text.Unbroken (linkLine scenes choice).toList := by
  have target := escapeCharacters_unbroken (targetTitle_unbroken scenes choice)
  simpa [linkLine, escape, String.toList_append, Text.isLineBreak] using
    ⟨inlineText_unbroken choice.text, target⟩

theorem guardLine_unbroken {line : String} (unbroken : Text.Unbroken line.toList) :
    Text.Unbroken (guardLine line).toList := by
  unfold guardLine
  split
  · simpa [String.toList_append, Text.isLineBreak] using unbroken
  · exact unbroken

theorem sceneLines_unbroken (scenes : List Scene) (scene : Scene) :
    ∀ line ∈ sceneLines scenes scene, Text.Unbroken line.toList := by
  intro line member
  simp only [sceneLines, List.cons_append, List.mem_cons, List.mem_append, List.mem_map] at member
  rcases member with rfl | ⟨described, inLines, rfl⟩ | ⟨choice, _, rfl⟩
  · exact headerLine_unbroken scene.title
  · exact guardLine_unbroken (Text.lines_unbroken scene.description described inLines)
  · exact linkLine_unbroken scenes choice

/-- No line of a script holds a break. -/
theorem passageLines_unbroken (project : Project) :
    ∀ passage ∈ passageLines project, ∀ line ∈ passage, Text.Unbroken line.toList := by
  intro passage member
  rcases List.mem_append.mp member with ofScene | ofEnding
  · obtain ⟨scene, _, rfl⟩ := List.mem_map.mp ofScene
    exact sceneLines_unbroken project.scenes scene
  · split at ofEnding
    · rw [List.mem_singleton.mp ofEnding]
      simpa using ⟨headerLine_unbroken Validation.endTitle, by decide⟩
    · exact absurd ofEnding List.not_mem_nil

theorem passageLines_ne_nil (project : Project) : ∀ passage ∈ passageLines project, passage ≠ [] := by
  intro passage member
  rcases List.mem_append.mp member with ofScene | ofEnding
  · obtain ⟨scene, _, rfl⟩ := List.mem_map.mp ofScene
    simp [sceneLines]
  · split at ofEnding
    · simp [List.mem_singleton.mp ofEnding]
    · exact absurd ofEnding List.not_mem_nil

/-- Lines with feeds between them and one at the end have a feed after each. -/
theorem toList_intercalate_feed {lines : List String} (some : lines ≠ []) :
    (String.intercalate "\n" lines ++ "\n").toList = lines.flatMap (·.toList ++ ['\n']) := by
  induction lines with
  | nil => exact absurd rfl some
  | cons line others inductionHypothesis =>
    cases others with
    | nil => simp [String.toList_append]
    | cons next others =>
      have later := inductionHypothesis (List.cons_ne_nil next others)
      rw [List.flatMap_cons, ← later, String.intercalate_cons_cons]
      simp [String.toList_append]

/-- Groups of lines with an empty line between neighbours, as one text. -/
theorem toList_intercalate_groups {groups : List (List String)} (some : groups ≠ [])
    (each : ∀ group ∈ groups, group ≠ []) :
    (String.intercalate "\n\n" (groups.map (String.intercalate "\n")) ++ "\n").toList =
      (List.intercalate [""] groups).flatMap (·.toList ++ ['\n']) := by
  induction groups with
  | nil => exact absurd rfl some
  | cons group others inductionHypothesis =>
    obtain ⟨here, there⟩ := List.forall_mem_cons.mp each
    cases others with
    | nil => simpa using toList_intercalate_feed here
    | cons next others =>
      have later := inductionHypothesis (List.cons_ne_nil next others) there
      have first := toList_intercalate_feed here
      rw [List.intercalate_cons_cons, List.flatMap_append, List.flatMap_append, ← later, ← first,
        List.map_cons, List.map_cons, String.intercalate_cons_cons]
      simp [String.toList_append]

/-- The lines of a script are those of its passages with an empty line between neighbours. -/
theorem lines_document {project : Project} (some : project.scenes ≠ []) :
    Text.lines (document project) = List.intercalate [""] (passageLines project) := by
  refine Text.lines_of_toList (fun line member => ?_) ?_
  · rcases Text.mem_intercalate member with empty | ⟨passage, inPassages, inLines⟩
    · rw [List.mem_singleton.mp empty]
      decide
    · exact passageLines_unbroken project passage inPassages line inLines
  · exact toList_intercalate_groups (by simp [passageLines, some]) (passageLines_ne_nil project)

/-! ## Reading a script -/

/-- The link of a choice. -/
def choiceLink (scenes : List Scene) (choice : Choice) : Link :=
  ⟨Validation.passageTitle choice.text, targetTitle scenes choice⟩

/-- The passage that a scene is read back as: the links of its description come first, and
then those of its choices in order. -/
def scenePassage (scenes : List Scene) (scene : Scene) : Passage where
  title := Validation.passageTitle scene.title
  body := String.intercalate "\n" (dropBlankEnd
    (((Text.lines scene.description).filter (lineLink? · |>.isNone)).map unguarded))
  links := (Text.lines scene.description).filterMap lineLink? ++
    scene.choices.map (choiceLink scenes)

/-- The generated ending passage. -/
def endingPassage : Passage := ⟨"End", "The End.", []⟩

/-- What the lines after the header of a scene are. -/
def sceneContent (scenes : List Scene) (scene : Scene) : List LineKind :=
  ((Text.lines scene.description).map fun line => classify (guardLine line)) ++
    scene.choices.map fun choice => .link (choiceLink scenes choice)

theorem sceneContent_noHeader (scenes : List Scene) (scene : Scene) :
    ∀ kind ∈ sceneContent scenes scene, ¬ kind.IsHeader := by
  intro kind member
  rcases List.mem_append.mp member with described | chosen
  · obtain ⟨line, _, rfl⟩ := List.mem_map.mp described
    rw [classify_guardLine]
    cases lineLink? line <;> exact id
  · obtain ⟨choice, _, rfl⟩ := List.mem_map.mp chosen
    exact id

theorem passageOf_sceneContent (scenes : List Scene) (scene : Scene) :
    passageOf (Validation.passageTitle scene.title) (sceneContent scenes scene) =
      scenePassage scenes scene := by
  have linkOf : (fun line => (classify (guardLine line)).link?) = lineLink? := by
    funext line
    rw [classify_guardLine]
    cases lineLink? line <;> rfl
  have bodies (lines : List String) :
      (lines.map fun line => classify (guardLine line)).filterMap LineKind.body? =
        (lines.filter (lineLink? · |>.isNone)).map unguarded := by
    induction lines with
    | nil => rfl
    | cons line others inductionHypothesis =>
      rw [List.map_cons, List.filterMap_cons, inductionHypothesis, List.filter_cons,
        classify_guardLine]
      cases lineLink? line <;> simp
  have chosen : (scene.choices.map fun choice => LineKind.link (choiceLink scenes choice)).filterMap
      LineKind.body? = [] :=
    List.filterMap_eq_nil_iff.mpr fun kind member => by
      obtain ⟨choice, _, rfl⟩ := List.mem_map.mp member
      rfl
  simp [passageOf, scenePassage, sceneContent, linkOf, bodies, chosen, List.filterMap_map,
    Function.comp_def]

/-- The sections of a script: the scenes, and the ending when some choice ends the story. -/
def sections (project : Project) : List (String × List LineKind) :=
  (project.scenes.map fun scene =>
    (Validation.passageTitle scene.title, sceneContent project.scenes scene)) ++
  if hasEnding project then [("End", [.body "The End."])] else []

theorem classify_passageLines (project : Project) :
    (passageLines project).map (List.map classify) =
      (sections project).map fun (title, content) => .header title :: content := by
  have ending : List.map classify [headerLine Validation.endTitle, endText] =
      [.header "End", .body "The End."] := by decide
  have scene (scene : Scene) : (sceneLines project.scenes scene).map classify =
      .header (Validation.passageTitle scene.title) :: sceneContent project.scenes scene := by
    simp [sceneLines, sceneContent, classify_headerLine, classify_linkLine, choiceLink,
      Function.comp_def]
  simp only [passageLines, sections, List.map_append, List.map_map, Function.comp_def, scene]
  split <;> simp [ending]

/-- A script is read back as one passage for each scene, and the ending after them. -/
theorem read_document {project : Project} (some : project.scenes ≠ []) :
    read (document project) = project.scenes.map (scenePassage project.scenes) ++
      if hasEnding project then [endingPassage] else [] := by
  have kinds : (Text.lines (document project)).map classify =
      sectionKinds (sections project) := by
    rw [lines_document some, Text.map_intercalate, classify_passageLines]
    rfl
  rw [read, kinds, readLines_sectionKinds]
  · simp only [sections, List.map_append, List.map_map, Function.comp_def, passageOf_sceneContent]
    split <;> rfl
  · intro part member
    rcases List.mem_append.mp member with ofScene | ofEnding
    · obtain ⟨scene, _, rfl⟩ := List.mem_map.mp ofScene
      exact sceneContent_noHeader project.scenes scene
    · split at ofEnding
      · rw [List.mem_singleton.mp ofEnding]
        simp [LineKind.IsHeader]
      · exact absurd ofEnding List.not_mem_nil

/-! ## Where links lead -/

/-- The place among passages that the link of a choice leads to: that of its target scene,
or the place after all scenes when it ends the story. Only the passage there has the title
that the link names. -/
structure LeadsTo (project : Project) (passages : List Passage) (choice : Choice)
    (place : Nat) : Prop where
  scene : choice.isTerminal = false → ∃ target, project.scenes[place]? = some target ∧
    target.id = choice.target ∧
    (choiceLink project.scenes choice).target = Validation.passageTitle target.title
  ending : choice.isTerminal = true →
    place = project.scenes.length ∧ (choiceLink project.scenes choice).target = "End"
  found : ∃ passage, passages[place]? = some passage ∧
    passage.title = (choiceLink project.scenes choice).target
  only : ∀ other passage, passages[other]? = some passage →
    passage.title = (choiceLink project.scenes choice).target → other = place

/-- What reading a script gives: a passage for each scene in order and the ending after them
exactly when some choice ends the story. Links before those of the choices stand in the
description in full shape, and each choice leads to its target. -/
structure ReadsBack (project : Project) (passages : List Passage) : Prop where
  inOrder : passages = project.scenes.map (scenePassage project.scenes) ++
    if hasEnding project then [endingPassage] else []
  ends : hasEnding project = true ↔
    ∃ scene ∈ project.scenes, ∃ choice ∈ scene.choices, choice.isTerminal = true
  described : ∀ line link, lineLink? line = some link ↔ ∃ text target, Escaped text ∧
    Escaped target ∧ line.toList = linkCharacters text target ∧ link = Link.ofLabels text target
  leads : ∀ scene ∈ project.scenes, ∀ choice ∈ scene.choices,
    ∃ place, LeadsTo project passages choice place

theorem hasEnding_iff (project : Project) : hasEnding project = true ↔
    ∃ scene ∈ project.scenes, ∃ choice ∈ scene.choices, choice.isTerminal = true := by
  simp [hasEnding]

/-- In a list of passages with different titles, at most one place has a given title. -/
theorem place_unique {passages : List Passage} (distinct : (passages.map (·.title)).Nodup)
    {place other : Nat} {passage found : Passage} (here : passages[place]? = some passage)
    (there : passages[other]? = some found) (same : found.title = passage.title) :
    other = place := by
  have inside : other < (passages.map (·.title)).length := by
    rw [List.length_map]
    exact (List.getElem?_eq_some_iff.mp there).1
  refine (List.getElem?_inj inside distinct).mp ?_
  rw [List.getElem?_map, List.getElem?_map, here, there, Option.map_some, Option.map_some, same]

theorem titles_distinct {project : Project}
    (distinct : (project.scenes.map fun scene => Validation.passageTitle scene.title).Nodup)
    (notEnd : ∀ scene ∈ project.scenes, Validation.passageTitle scene.title ≠ Validation.endTitle) :
    ((project.scenes.map (scenePassage project.scenes) ++
      if hasEnding project then [endingPassage] else []).map (·.title)).Nodup := by
  rw [List.map_append, List.map_map]
  refine List.nodup_append.mpr ⟨distinct, by split <;> simp, fun title ofScene other ofEnding => ?_⟩
  obtain ⟨scene, member, rfl⟩ := List.mem_map.mp ofScene
  split at ofEnding
  · rw [List.mem_singleton.mp ofEnding]
    exact notEnd scene member
  · exact absurd ofEnding List.not_mem_nil

/-- A choice that goes on leads to the place of its target. -/
theorem leads_to_scene {project : Project} (structured : Validation.Structured project)
    {passages : List Passage} (titles : (passages.map (·.title)).Nodup)
    (inOrder : passages = project.scenes.map (scenePassage project.scenes) ++
      if hasEnding project then [endingPassage] else [])
    {choice : Choice} (goesOn : choice.isTerminal = false)
    (hasTarget : Validation.hasTarget project choice = true) :
    ∃ place, LeadsTo project passages choice place := by
  have listed : choice.target ∈ project.sceneIds := by
    simpa [Validation.hasTarget, goesOn] using hasTarget
  obtain ⟨target, inProject, named⟩ := List.mem_map.mp listed
  obtain ⟨place, atPlace⟩ := List.mem_iff_getElem?.mp inProject
  have inside : place < project.scenes.length := (List.getElem?_eq_some_iff.mp atPlace).1
  have linked : (choiceLink project.scenes choice).target =
      Validation.passageTitle target.title := by
    have found := find?_key_of_mem Scene.id structured.sceneIds inProject
    simp only [named] at found
    simp [choiceLink, targetTitle, goesOn, titleOf, found]
  have here : passages[place]? = some (scenePassage project.scenes target) := by
    rw [inOrder, List.getElem?_append_left (by simpa using inside), List.getElem?_map, atPlace]
    rfl
  exact ⟨place, fun _ => ⟨target, atPlace, named, linked⟩, fun ends => by simp [goesOn] at ends,
    ⟨_, here, linked.symm⟩,
    fun other passage there same => place_unique titles here there (same.trans linked)⟩

/-- A choice that ends the story leads to the ending after all scenes. -/
theorem leads_to_ending {project : Project} {passages : List Passage}
    (titles : (passages.map (·.title)).Nodup)
    (inOrder : passages = project.scenes.map (scenePassage project.scenes) ++
      if hasEnding project then [endingPassage] else [])
    {scene : Scene} (inProject : scene ∈ project.scenes) {choice : Choice}
    (inScene : choice ∈ scene.choices) (ends : choice.isTerminal = true) :
    LeadsTo project passages choice project.scenes.length := by
  have linked : (choiceLink project.scenes choice).target = "End" := by
    simp [choiceLink, targetTitle, ends, Validation.endTitle]
  have hasOne : hasEnding project = true :=
    (hasEnding_iff project).mpr ⟨scene, inProject, choice, inScene, ends⟩
  have here : passages[project.scenes.length]? = some endingPassage := by
    rw [inOrder, List.getElem?_append_right (by simp), hasOne]
    simp
  exact ⟨fun goesOn => by simp [ends] at goesOn, fun _ => ⟨rfl, linked⟩,
    ⟨_, here, linked.symm⟩,
    fun other passage there same => place_unique titles here there (same.trans linked)⟩

/-- Only a project that its report admits is written, as the document. -/
theorem document_of_written {project : Project} {text : String}
    (written : Export.script project = .ok text) :
    (Validation.scriptReport project).isValid = true ∧ text = document project := by
  simp only [Export.script, Validation.Report.require] at written
  grind

/-- A script that is written is read back passage by passage, whatever the author wrote. -/
theorem script_reads_back {project : Project} {text : String}
    (written : Export.script project = .ok text) : ReadsBack project (read text) := by
  obtain ⟨isValid, rfl⟩ := document_of_written written
  obtain ⟨structured, distinct, notEnd⟩ := (Validation.scriptReport_isValid_iff project).mp isValid
  have inOrder := read_document structured.scenes
  have titles := titles_distinct distinct notEnd
  rw [← inOrder] at titles
  refine ⟨inOrder, hasEnding_iff project, lineLink?_eq_some_iff,
    fun scene inProject choice inScene => ?_⟩
  cases ends : choice.isTerminal with
  | false =>
    exact leads_to_scene structured titles inOrder ends
      (structured.targets scene inProject choice inScene)
  | true => exact ⟨_, leads_to_ending titles inOrder inProject inScene ends⟩

/-- The hall with its bracketed title, its guarded line and the bar in a choice, and the
cellar whose choice ends the story, are read back as three passages. -/
theorem lamp_script_reads_back : Export.script lampStory = .ok (document lampStory) ∧
    ReadsBack lampStory (read (document lampStory)) ∧
    (read (document lampStory)).map (·.title) = ["The [Hall]", "Cellar", "End"] := by
  have valid : (Validation.scriptReport lampStory).isValid = true :=
    (Validation.scriptReport_isValid_iff lampStory).mpr
      ⟨Validation.lampStory_structured, by decide, by decide⟩
  have written : Export.script lampStory = .ok (document lampStory) := by
    simp [Export.script, Validation.Report.require, valid]
  have back := script_reads_back written
  refine ⟨written, back, ?_⟩
  rw [back.inOrder]
  decide

end Gamebook.Script
