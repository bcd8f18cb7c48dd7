import Gamebook.Proofs.Reply.Listing
import Gamebook.Proofs.Text.Letter
import Gamebook.Reply.Lines

/-!
# Lines that offer a choice

A line offers a choice behind a choice label or else as the item that it lists. The label is looked
for on the line without its marks, the item on the line as it stands. What is offered counts as a
choice when it is not blank, and only then its own marks are dropped.
-/

namespace Gamebook.Reply

/-! ## Choice labels -/

/-- The words of choice labels. -/
def choiceWords : List String := ["choice", "option"]

/-- A line labels a choice: perhaps blanks, one of the words in any letter case, perhaps a number
with blanks around it, a mark, and the choice from its first character that is no blank. -/
inductive LabelsChoice : List Char → List Char → Prop
  | mk {before word gap digits space behind text : List Char} {name : String} {mark : Char}
    (blankBefore : ∀ c ∈ before, Text.isBlank c = true) (isWord : name ∈ choiceWords)
    (spelled : List.Forall₂ (fun letter c => isLetter letter c = true) name.toList word)
    (blankGap : ∀ c ∈ gap, Text.isBlank c = true) (number : ∀ d ∈ digits, Text.isDigit d = true)
    (blankSpace : ∀ c ∈ space, Text.isBlank c = true) (isMark : isChoiceMark mark = true)
    (blankBehind : ∀ c ∈ behind, Text.isBlank c = true)
    (begins : ∀ c ∈ text.head?, Text.isBlank c = false) :
    LabelsChoice (before ++ (word ++ (gap ++ (digits ++ (space ++ mark :: (behind ++ text)))))) text

/-- What follows a word in any letter case follows characters that are its letters. -/
theorem afterWord?_eq_some_iff {letters cs rest : List Char} :
    afterWord? letters cs = some rest ↔
      ∃ word, List.Forall₂ (fun letter c => isLetter letter c = true) letters word ∧
        cs = word ++ rest := by
  induction letters generalizing cs with
  | nil =>
    rw [afterWord?, Option.some.injEq]
    constructor
    · rintro rfl
      exact ⟨[], .nil, rfl⟩
    · rintro ⟨word, spelled, rfl⟩
      cases spelled
      rfl
  | cons letter letters inductionHypothesis =>
    cases cs with
    | nil =>
      refine iff_of_false (Option.some_ne_none rest).symm ?_
      rintro ⟨word, spelled, nothing⟩
      cases spelled
      cases nothing
    | cons c cs =>
      rw [afterWord?]
      constructor
      · intro found
        split at found
        next isLetter =>
          obtain ⟨word, spelled, rfl⟩ := inductionHypothesis.mp found
          exact ⟨c :: word, .cons isLetter spelled, rfl⟩
        next => cases found
      · rintro ⟨word, spelled, split⟩
        cases spelled with
        | cons isLetter others =>
          obtain ⟨rfl, rfl⟩ := List.cons.inj split
          rw [if_pos isLetter]
          exact inductionHypothesis.mpr ⟨_, others, rfl⟩

/-- The first letters of the words have no other forms than their two cases. -/
theorem toLower_of_isLetter {letter c : Char} (isFirst : letter = 'c' ∨ letter = 'o')
    (isLetter : isLetter letter c = true) : c.toLower = letter := by
  rcases isFirst with rfl | rfl <;> simpa [Reply.isLetter] using isLetter

/-- The words of choice labels begin with letters that tell them apart. -/
theorem exists_of_spelled {name : String} {word : List Char} (isWord : name ∈ choiceWords)
    (spelled : List.Forall₂ (fun letter c => isLetter letter c = true) name.toList word) :
    ∃ c letters, word = c :: letters ∧ c.isAlpha = true ∧
      (name = "choice" ∧ c.toLower = 'c' ∨ name = "option" ∧ c.toLower = 'o') := by
  have begins : ∃ letter others, name.toList = letter :: others ∧
      (name = "choice" ∧ letter = 'c' ∨ name = "option" ∧ letter = 'o') := by
    rcases List.mem_pair.mp isWord with rfl | rfl
    · exact ⟨_, _, rfl, .inl ⟨rfl, rfl⟩⟩
    · exact ⟨_, _, rfl, .inr ⟨rfl, rfl⟩⟩
  obtain ⟨letter, others, first, isFirst⟩ := begins
  rw [first] at spelled
  cases spelled with
  | cons isLetter _ =>
    have lowered := toLower_of_isLetter (isFirst.imp And.right And.right) isLetter
    refine ⟨_, _, rfl, Text.isAlpha_of_toLower ?_, lowered ▸ isFirst⟩
    rw [lowered]
    rcases isFirst with ⟨-, rfl⟩ | ⟨-, rfl⟩ <;> decide

theorem afterChoiceWord_eq_some_iff {body rest : List Char} :
    (afterWord? "choice".toList body <|> afterWord? "option".toList body) = some rest ↔
      ∃ name ∈ choiceWords, ∃ word,
        List.Forall₂ (fun letter c => isLetter letter c = true) name.toList word ∧
        body = word ++ rest := by
  rw [Option.orElse_eq_some]
  constructor
  · rintro (found | ⟨-, found⟩)
    · exact ⟨"choice", List.mem_cons_self, afterWord?_eq_some_iff.mp found⟩
    · exact ⟨"option", by decide, afterWord?_eq_some_iff.mp found⟩
  · rintro ⟨name, isWord, word, spelled, rfl⟩
    have found : afterWord? name.toList (word ++ rest) = some rest :=
      afterWord?_eq_some_iff.mpr ⟨word, spelled, rfl⟩
    obtain ⟨c, letters, rfl, -, ⟨rfl, -⟩ | ⟨rfl, lowered⟩⟩ := exists_of_spelled isWord spelled
    · exact .inl found
    · refine .inr ⟨Option.eq_none_iff_forall_ne_some.mpr fun other also => ?_, found⟩
      obtain ⟨word, asChoice, same⟩ := afterWord?_eq_some_iff.mp also
      have isChoice : "choice" ∈ choiceWords := List.mem_cons_self
      obtain ⟨d, others, rfl, -, ⟨-, alsoLowered⟩ | ⟨impossible, -⟩⟩ :=
        exists_of_spelled isChoice asChoice
      · obtain ⟨rfl, -⟩ := List.cons.inj same
        cases lowered.symm.trans alsoLowered
      · exact absurd impossible (by decide)

theorem isChoiceMark_cases {c : Char} (isMark : isChoiceMark c = true) :
    c = ':' ∨ c = '.' ∨ c = ')' ∨ c = '-' := by
  simpa [isChoiceMark, or_assoc] using isMark

/-- A number in front of a mark is passed over, with the blanks around it. -/
theorem dropNumber_eq {gap digits space : List Char} {mark : Char}
    (blankGap : ∀ c ∈ gap, Text.isBlank c = true) (number : ∀ d ∈ digits, Text.isDigit d = true)
    (blankSpace : ∀ c ∈ space, Text.isBlank c = true) (isMark : isChoiceMark mark = true)
    (rest : List Char) :
    Text.dropBlanks ((Text.dropBlanks (gap ++ (digits ++ (space ++ mark :: rest)))).dropWhile
      Text.isDigit) = mark :: rest := by
  have noBlank : Text.isBlank mark = false := by
    rcases isChoiceMark_cases isMark with rfl | rfl | rfl | rfl <;> decide
  have noDigit : Text.isDigit mark = false := by
    rcases isChoiceMark_cases isMark with rfl | rfl | rfl | rfl <;> decide
  have atMark : Text.dropBlanks (mark :: rest) = mark :: rest :=
    Text.dropBlanks_of_head (by rintro _ ⟨⟩; exact noBlank)
  rw [Text.dropBlanks_blanks blankGap]
  cases digits with
  | nil =>
    rw [List.nil_append, Text.dropBlanks_blanks blankSpace, atMark,
      List.dropWhile_cons_of_neg (by simp [noDigit]), atMark]
  | cons d digits =>
    have first : Text.isBlank d = false := isBlank_of_isDigit (number d List.mem_cons_self)
    have behind : (space ++ mark :: rest).dropWhile Text.isDigit = space ++ mark :: rest := by
      cases space with
      | nil => exact List.dropWhile_cons_of_neg (by simp [noDigit])
      | cons c space =>
        refine List.dropWhile_cons_of_neg fun digit => ?_
        cases (isBlank_of_isDigit digit).symm.trans (blankSpace c List.mem_cons_self)
    have atNumber : Text.dropBlanks (d :: digits ++ (space ++ mark :: rest)) =
        d :: digits ++ (space ++ mark :: rest) :=
      List.dropWhile_cons_of_neg (by simp [first])
    rw [atNumber, List.dropWhile_append_of_pos number, behind, Text.dropBlanks_blanks blankSpace,
      atMark]

/-- The text behind a choice label is the choice that its line labels. -/
theorem choiceLabel?_eq_some_iff {line text : List Char} :
    choiceLabel? line = some text ↔ LabelsChoice line text := by
  constructor
  · intro found
    unfold choiceLabel? at found
    dsimp only at found
    split at found
    next => cases found
    next rest worded =>
      split at found
      next c tail left =>
        split at found
        next isMark =>
          obtain rfl := Option.some.inj found
          obtain ⟨name, isWord, word, spelled, body⟩ := afterChoiceWord_eq_some_iff.mp worded
          obtain ⟨before, blankBefore, whole⟩ := Text.exists_blanks line
          obtain ⟨gap, blankGap, afterGap⟩ := Text.exists_blanks rest
          obtain ⟨space, blankSpace, afterSpace⟩ :=
            Text.exists_blanks ((Text.dropBlanks rest).dropWhile Text.isDigit)
          obtain ⟨behind, blankBehind, afterMark⟩ := Text.exists_blanks tail
          have number := List.takeWhile_append_dropWhile (p := Text.isDigit)
            (l := Text.dropBlanks rest)
          have shape : line = before ++ (word ++ (gap ++ ((Text.dropBlanks rest).takeWhile
              Text.isDigit ++ (space ++ c :: (behind ++ Text.dropBlanks tail))))) := by
            rw [← afterMark, ← left, ← afterSpace, number, ← afterGap, ← body, ← whole]
          rw [shape]
          exact .mk blankBefore isWord spelled blankGap (fun d => List.mem_takeWhile_imp)
            blankSpace isMark blankBehind (Text.head?_dropBlanks tail)
        next => cases found
      next => cases found
  · rintro (@⟨before, word, gap, digits, space, behind, _, name, mark, blankBefore, isWord, spelled,
      blankGap, number, blankSpace, isMark, blankBehind, begins⟩)
    have worded : ∀ rest, Text.dropBlanks (before ++ (word ++ rest)) = word ++ rest := by
      intro rest
      obtain ⟨c, letters, rfl, alpha, -⟩ := exists_of_spelled isWord spelled
      rw [Text.dropBlanks_blanks blankBefore]
      refine Text.dropBlanks_of_head ?_
      rintro _ ⟨⟩
      exact Text.isBlank_of_isAlpha alpha
    have found (rest : List Char) : (afterWord? "choice".toList (word ++ rest) <|>
        afterWord? "option".toList (word ++ rest)) = some rest :=
      afterChoiceWord_eq_some_iff.mpr ⟨name, isWord, word, spelled, rfl⟩
    unfold choiceLabel?
    simp only [worded, found, dropNumber_eq blankGap number blankSpace isMark]
    rw [if_pos isMark, Text.dropBlanks_blanks blankBehind, Text.dropBlanks_of_head begins]

theorem choiceLabel?_eq_none_iff {line : List Char} :
    choiceLabel? line = none ↔ ∀ text, ¬LabelsChoice line text := by
  simp only [Option.eq_none_iff_forall_ne_some, Ne, choiceLabel?_eq_some_iff]

/-- A line that labels a choice begins with the first letter of one of the words. -/
theorem LabelsChoice.begins {line text : List Char} (labels : LabelsChoice line text) :
    ∃ c ∈ (Text.dropBlanks line).head?, c.toLower = 'c' ∨ c.toLower = 'o' := by
  cases labels with
  | mk blankBefore isWord spelled =>
    obtain ⟨c, letters, rfl, alpha, isFirst⟩ := exists_of_spelled isWord spelled
    refine ⟨c, ?_, isFirst.imp And.right And.right⟩
    rw [Text.dropBlanks_blanks blankBefore, List.cons_append, Text.dropBlanks_of_head]
    · rfl
    · rintro _ ⟨⟩
      exact Text.isBlank_of_isAlpha alpha

/-! ## Offers -/

/-- What a line offers: the choice that it labels or else the item that it lists. -/
inductive Offers (line : String) : List Char → Prop
  | labelled {text : List Char} (labels : LabelsChoice (cleanCharacters line.toList) text) :
    Offers line text
  | listed {text : List Char}
    (unlabelled : ∀ other, ¬LabelsChoice (cleanCharacters line.toList) other)
    (lists : Lists line.toList text) : Offers line text

/-- The choice on a line is what it offers, when that is not blank, without its marks. -/
theorem choiceOnLine?_eq_some_iff {line text : String} :
    choiceOnLine? line = some text ↔
      ∃ offered, Offers line offered ∧ (∃ c ∈ offered, Text.isBlank c = false) ∧
        text = String.ofList (cleanCharacters offered) := by
  have offers_iff (offered : List Char) :
      (choiceLabel? (cleanCharacters line.toList) <|> bullet? line.toList) = some offered ↔
        Offers line offered := by
    rw [Option.orElse_eq_some, choiceLabel?_eq_none_iff, choiceLabel?_eq_some_iff,
      bullet?_eq_some_iff]
    constructor
    · rintro (labels | ⟨unlabelled, lists⟩)
      · exact .labelled labels
      · exact .listed unlabelled lists
    · rintro (labels | ⟨unlabelled, lists⟩)
      · exact .inl labels
      · exact .inr ⟨unlabelled, lists⟩
  simp only [← offers_iff]
  unfold choiceOnLine?
  constructor
  · intro found
    split at found
    next offered offering =>
      split at found
      next => cases found
      next something =>
        exact ⟨offered, offering, by simpa using something, (Option.some.inj found).symm⟩
    next => cases found
  · rintro ⟨offered, offering, something, rfl⟩
    have filled : offered.all Text.isBlank = false := by simpa using something
    simp only [offering, filled]
    rfl

end Gamebook.Reply
