import Gamebook.Proofs.Export.Label

/-!
# Reading passages back

Each line that a script writes is read back as what it was written for: a header gives
its title, the line of a choice gives one link, and a line of a description is a link
where it has the shape of one and else body text. No line of a description is read as a
header. Sections with an empty line between neighbours are therefore read back one by
one, and the empty lines add nothing to a body.
-/

namespace Gamebook.Script

/-! ## What lines are -/

/-- The link of two labels. -/
def Link.ofLabels (text target : List Char) : Link :=
  ⟨String.ofList (unescapeCharacters text), String.ofList (unescapeCharacters target)⟩

theorem Link.ofLabels_escapeCharacters (text target : String) :
    Link.ofLabels (escapeCharacters text.toList) (escapeCharacters target.toList) =
      ⟨text, target⟩ := by
  simp [Link.ofLabels, unescapeCharacters_escapeCharacters]

/-- A line without the guard of a header. -/
def unguarded (line : String) : String :=
  match line.toList with
  | '\\' :: ':' :: ':' :: rest => String.ofList (':' :: ':' :: rest)
  | _ => line

/-- The link that a line of a description is, if it has the shape of one. -/
def lineLink? (line : String) : Option Link :=
  (linkLabels? line.toList).map fun (text, target) => Link.ofLabels text target

/-- A line of a description gives a link exactly when it has the full shape of one. -/
theorem lineLink?_eq_some_iff (line : String) (link : Link) :
    lineLink? line = some link ↔ ∃ text target, Escaped text ∧ Escaped target ∧
      line.toList = linkCharacters text target ∧ link = Link.ofLabels text target := by
  simp only [lineLink?, Option.map_eq_some_iff, Prod.exists, linkLabels?_eq_some_iff]
  constructor
  · rintro ⟨text, target, ⟨textEscaped, targetEscaped, shaped⟩, rfl⟩
    exact ⟨text, target, textEscaped, targetEscaped, shaped, rfl⟩
  · rintro ⟨text, target, textEscaped, targetEscaped, shaped, rfl⟩
    exact ⟨text, target, ⟨textEscaped, targetEscaped, shaped⟩, rfl⟩

/-- A header gives its title, whatever characters the title has. -/
theorem classify_headerLine (title : String) :
    classify (headerLine title) = .header (Validation.passageTitle title) := by
  simp [classify, headerLine, inlineText, escape, String.toList_append,
    unescapeCharacters_escapeCharacters]

/-- A line in the shape of a link is that link. -/
theorem classify_of_shape {line : String} {text target : List Char} (textEscaped : Escaped text)
    (targetEscaped : Escaped target) (shaped : line.toList = linkCharacters text target) :
    classify line = .link (Link.ofLabels text target) := by
  have labels : linkLabels? line.toList = some (text, target) :=
    (linkLabels?_eq_some_iff _ _ _).mpr ⟨textEscaped, targetEscaped, shaped⟩
  rw [shaped] at labels
  simp only [classify, shaped]
  split
  next isHeader => simp [linkCharacters] at isHeader
  next => simp [labels, Link.ofLabels]

/-- The line of a link between two texts, both escaped. -/
def escapedLink (text target : String) : String :=
  "[[" ++ escape text ++ "|" ++ escape target ++ "]]"

theorem toList_escape (text : String) : (escape text).toList = escapeCharacters text.toList :=
  String.toList_ofList

theorem toList_escapedLink (text target : String) :
    (escapedLink text target).toList =
      linkCharacters (escape text).toList (escape target).toList := by
  simp [escapedLink, linkCharacters, String.toList_append]

/-- Escaping is undone, and no text disturbs the marks around it. Two escaped texts between the
marks are what a reader of links takes, they are the only two labels in which the line has the
shape of a link, and the link is that of the texts. -/
theorem escapedLink_splits (text target : String) :
    unescape (escape text) = text ∧ unescape (escape target) = target ∧
      linkLabels? (escapedLink text target).toList =
        some ((escape text).toList, (escape target).toList) ∧
      (∀ front back, Escaped front ∧ Escaped back ∧
        (escapedLink text target).toList = linkCharacters front back ↔
          front = (escape text).toList ∧ back = (escape target).toList) ∧
      classify (escapedLink text target) = .link ⟨text, target⟩ := by
  have reversed (s : String) : unescape (escape s) = s := by
    rw [unescape, toList_escape, unescapeCharacters_escapeCharacters, String.ofList_toList]
  have escaped (s : String) : Escaped (escape s).toList := by
    rw [toList_escape]
    exact escapeCharacters_escaped s.toList
  have shaped := toList_escapedLink text target
  have taken : linkLabels? (escapedLink text target).toList =
      some ((escape text).toList, (escape target).toList) :=
    (linkLabels?_eq_some_iff _ _ _).mpr ⟨escaped text, escaped target, shaped⟩
  refine ⟨reversed text, reversed target, taken, fun front back => ?_, ?_⟩
  · rw [← linkLabels?_eq_some_iff, taken, Option.some.injEq, Prod.mk.injEq]
    exact and_congr eq_comm eq_comm
  · rw [classify_of_shape (escaped text) (escaped target) shaped, toList_escape, toList_escape,
      Link.ofLabels_escapeCharacters]

example : classify (escapedLink "a\\" "|]]") = .link ⟨"a\\", "|]]"⟩ := by decide

/-- The line of a choice gives its text and the title it leads to. -/
theorem classify_linkLine (scenes : List Scene) (choice : Choice) :
    classify (linkLine scenes choice) =
      .link ⟨Validation.passageTitle choice.text, targetTitle scenes choice⟩ := by
  have shaped : (linkLine scenes choice).toList =
      linkCharacters (escapeCharacters (Validation.passageTitle choice.text).toList)
        (escapeCharacters (targetTitle scenes choice).toList) := by
    simp [linkLine, linkCharacters, inlineText, escape, String.toList_append]
  rw [classify_of_shape (escapeCharacters_escaped _) (escapeCharacters_escaped _) shaped,
    Link.ofLabels_escapeCharacters]

theorem body_unguarded (line : String) :
    LineKind.body (unguarded line) =
      match line.toList with
      | '\\' :: ':' :: ':' :: rest => .body (String.ofList (':' :: ':' :: rest))
      | _ => .body line := by
  unfold unguarded
  grind

/-- A line of a description is a link or body text, and never a header. -/
theorem classify_guardLine (line : String) :
    classify (guardLine line) =
      match lineLink? line with
      | some link => .link link
      | none => .body (unguarded line) := by
  unfold guardLine
  split
  next rest starts =>
    have guarded : ("\\" ++ line).toList = '\\' :: ':' :: ':' :: rest := by
      simp [String.toList_append, starts]
    have whole : String.ofList (':' :: ':' :: rest) = line := by
      rw [← starts, String.ofList_toList]
    simp [classify, guarded, linkLabels?, lineLink?, unguarded, starts, whole]
  next noStart =>
    unfold classify
    split
    next title isHeader => exact absurd isHeader (noStart _)
    next =>
      cases labels : linkLabels? line.toList with
      | some pair => simp [lineLink?, labels, Link.ofLabels]
      | none =>
        simp only [lineLink?, labels, Option.map_none]
        exact (body_unguarded line).symm

/-! ## Sections -/

/-- The link that a line is, if it is one. -/
def LineKind.link? : LineKind → Option Link
  | .link found => some found
  | _ => none

/-- The body text that a line is, if it is some. -/
def LineKind.body? : LineKind → Option String
  | .body line => some line
  | _ => none

@[simp] theorem LineKind.link?_link (found : Link) : (LineKind.link found).link? = some found := rfl

@[simp] theorem LineKind.link?_body (line : String) : (LineKind.body line).link? = none := rfl

@[simp] theorem LineKind.body?_link (found : Link) : (LineKind.link found).body? = none := rfl

@[simp] theorem LineKind.body?_body (line : String) : (LineKind.body line).body? = some line := rfl

/-- Whether a line starts a passage. -/
def LineKind.IsHeader : LineKind → Prop
  | .header _ => True
  | _ => False

/-- The passage of a title and of the lines that follow it. -/
def passageOf (title : String) (content : List LineKind) : Passage :=
  ⟨title, String.intercalate "\n" (dropBlankEnd (content.filterMap LineKind.body?)),
    content.filterMap LineKind.link?⟩

/-- A draft with the lines of a content taken in. -/
def Draft.absorb (draft : Draft) (content : List LineKind) : Draft :=
  ⟨draft.title, draft.body ++ content.filterMap LineKind.body?,
    draft.links ++ content.filterMap LineKind.link?⟩

/-- Lines that start no passage are taken into the draft. -/
theorem readAfter_append (draft : Draft) {content : List LineKind}
    (noHeader : ∀ kind ∈ content, ¬ kind.IsHeader) (rest : List LineKind) :
    readAfter draft (content ++ rest) = readAfter (draft.absorb content) rest := by
  induction content generalizing draft with
  | nil => simp [Draft.absorb]
  | cons kind others inductionHypothesis =>
    obtain ⟨here, there⟩ := List.forall_mem_cons.mp noHeader
    cases kind with
    | header title => exact absurd trivial here
    | link link =>
      simp [readAfter, inductionHypothesis _ there, Draft.absorb, List.filterMap_cons]
    | body line =>
      simp [readAfter, inductionHypothesis _ there, Draft.absorb, List.filterMap_cons]

/-- An empty line at the end adds nothing to a body. -/
theorem dropBlankEnd_append_empty (lines : List String) :
    dropBlankEnd (lines ++ [""]) = dropBlankEnd lines := by
  simp [dropBlankEnd, Text.isAllBlank]

/-- The lines of sections, each a title and the lines after it, with an empty line between
neighbours. -/
def sectionKinds (sections : List (String × List LineKind)) : List LineKind :=
  List.intercalate [.body ""] (sections.map fun (title, content) => .header title :: content)

/-- Sections are read back one by one. -/
theorem readLines_sectionKinds {sections : List (String × List LineKind)}
    (noHeader : ∀ part ∈ sections, ∀ kind ∈ part.2, ¬ kind.IsHeader) :
    readLines (sectionKinds sections) =
      sections.map fun (title, content) => passageOf title content := by
  induction sections with
  | nil => rfl
  | cons part others inductionHypothesis =>
    obtain ⟨here, there⟩ := List.forall_mem_cons.mp noHeader
    obtain ⟨title, content⟩ := part
    cases others with
    | nil =>
      have read := readAfter_append { title := title } here []
      simpa [sectionKinds, readLines, readAfter, Draft.absorb, Draft.finish, passageOf] using read
    | cons next others =>
      have split : sectionKinds ((title, content) :: next :: others) =
          .header title :: (content ++ .body "" :: sectionKinds (next :: others)) := by
        simp [sectionKinds, List.intercalate_cons_cons]
      have after : ∃ rest, sectionKinds (next :: others) = .header next.1 :: rest := by
        cases others <;> simp [sectionKinds, List.intercalate_cons_cons]
      obtain ⟨rest, starts⟩ := after
      have later := inductionHypothesis there
      rw [starts, readLines] at later
      rw [split, readLines, readAfter_append _ here, readAfter, starts, readAfter, later]
      simp [Draft.absorb, Draft.finish, passageOf, dropBlankEnd_append_empty]

end Gamebook.Script
