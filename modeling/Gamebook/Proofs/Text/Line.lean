import Gamebook.Text.Blank
import Gamebook.Text.Line

/-!
# Texts made of lines

Characters without a break stay on one line. A text that puts a feed after each of
several such lines therefore has exactly these lines, and every line of any text is
unbroken. Collapsing a text leaves no break in it, since each character that ends a
line is a blank.
-/

namespace Gamebook.Text

/-- Characters none of which ends a line. -/
def Unbroken (cs : List Char) : Prop := ∀ c ∈ cs, isLineBreak c = false

instance (cs : List Char) : Decidable (Unbroken cs) := List.decidableBAll _ cs

@[simp] theorem unbroken_nil : Unbroken [] := by simp [Unbroken]

@[simp] theorem unbroken_cons (c : Char) (cs : List Char) :
    Unbroken (c :: cs) ↔ isLineBreak c = false ∧ Unbroken cs := by simp [Unbroken]

@[simp] theorem unbroken_append (cs ds : List Char) :
    Unbroken (cs ++ ds) ↔ Unbroken cs ∧ Unbroken ds := by
  simp only [Unbroken, List.mem_append]
  grind

/-! ## Pieces with a separator between them -/

variable {α β : Type}

theorem mem_intercalate {separator : List α} {pieces : List (List α)} {item : α}
    (member : item ∈ separator.intercalate pieces) :
    item ∈ separator ∨ ∃ piece ∈ pieces, item ∈ piece := by
  induction pieces with
  | nil => exact absurd member List.not_mem_nil
  | cons piece others inductionHypothesis =>
    cases others with
    | nil => exact .inr ⟨piece, List.mem_cons_self, by simpa using member⟩
    | cons next others =>
      rw [List.intercalate_cons_cons] at member
      rcases List.mem_append.mp member with front | later
      · rcases List.mem_append.mp front with here | between
        · exact .inr ⟨piece, List.mem_cons_self, here⟩
        · exact .inl between
      · rcases inductionHypothesis later with between | ⟨there, inOthers, inThere⟩
        · exact .inl between
        · exact .inr ⟨there, List.mem_cons_of_mem _ inOthers, inThere⟩

theorem mem_intercalate_of_mem (separator : List α) {pieces : List (List α)} {piece : List α}
    (isPiece : piece ∈ pieces) {item : α} (member : item ∈ piece) :
    item ∈ separator.intercalate pieces := by
  induction pieces with
  | nil => exact absurd isPiece List.not_mem_nil
  | cons first others inductionHypothesis =>
    cases others with
    | nil =>
      obtain rfl := List.mem_singleton.mp isPiece
      simpa using member
    | cons next others =>
      rw [List.intercalate_cons_cons]
      rcases List.mem_cons.mp isPiece with rfl | later
      · exact List.mem_append_left _ (List.mem_append_left _ member)
      · exact List.mem_append_right _ (inductionHypothesis later)

theorem map_intercalate (f : α → β) (separator : List α) (pieces : List (List α)) :
    (separator.intercalate pieces).map f =
      (separator.map f).intercalate (pieces.map (List.map f)) := by
  induction pieces with
  | nil => rfl
  | cons piece others inductionHypothesis =>
    cases others with
    | nil => simp
    | cons next others =>
      simp only [List.map_cons] at inductionHypothesis
      simp [List.intercalate_cons_cons, inductionHypothesis]

/-! ## Splitting -/

/-- A character that ends no line stands in front of the first line. -/
theorem splitLines_cons {c : Char} (kept : isLineBreak c = false) (rest : List Char) :
    splitLines (c :: rest) = extendFirst c (splitLines rest) := by
  have notReturn : c ≠ '\r' := by
    rintro rfl
    exact absurd kept (by decide)
  rw [splitLines]
  · simp [kept]
  · exact fun _ isReturn => absurd isReturn notReturn

/-- Unbroken characters with a feed after them are the first line. -/
theorem splitLines_line {line : List Char} (unbroken : Unbroken line) (rest : List Char) :
    splitLines (line ++ '\n' :: rest) = line :: splitLines rest := by
  induction line with
  | nil => simp [splitLines, isLineBreak]
  | cons c cs inductionHypothesis =>
    obtain ⟨kept, others⟩ := (unbroken_cons c cs).mp unbroken
    rw [List.cons_append, splitLines_cons kept, inductionHypothesis others, extendFirst]

/-- Unbroken lines with a feed after each are the lines of the whole. -/
theorem splitLines_flatMap {lines : List (List Char)} (unbroken : ∀ line ∈ lines, Unbroken line) :
    splitLines (lines.flatMap (· ++ ['\n'])) = lines := by
  induction lines with
  | nil => rfl
  | cons line others inductionHypothesis =>
    obtain ⟨here, there⟩ := List.forall_mem_cons.mp unbroken
    rw [List.flatMap_cons, List.append_assoc, List.singleton_append, splitLines_line here,
      inductionHypothesis there]

theorem extendFirst_unbroken {c : Char} (kept : isLineBreak c = false) {lines : List (List Char)}
    (unbroken : ∀ line ∈ lines, Unbroken line) :
    ∀ line ∈ extendFirst c lines, Unbroken line := by
  cases lines with
  | nil => simp [extendFirst, kept]
  | cons first others =>
    obtain ⟨here, there⟩ := List.forall_mem_cons.mp unbroken
    simpa [extendFirst, kept, here] using there

/-- No line of a text holds a break. -/
theorem splitLines_unbroken (cs : List Char) : ∀ line ∈ splitLines cs, Unbroken line := by
  induction cs using splitLines.induct with
  | case1 => simp [splitLines]
  | case2 rest inductionHypothesis => simpa [splitLines] using inductionHypothesis
  | case3 c rest notPair isBreak inductionHypothesis =>
    rw [splitLines, if_pos isBreak]
    · simpa using inductionHypothesis
    · exact notPair
  | case4 c rest notPair noBreak inductionHypothesis =>
    have kept : isLineBreak c = false := by simpa using noBreak
    rw [splitLines_cons kept]
    exact extendFirst_unbroken kept inductionHypothesis

theorem lines_unbroken (text : String) : ∀ line ∈ lines text, Unbroken line.toList := by
  intro line member
  obtain ⟨cs, split, rfl⟩ := List.mem_map.mp member
  rw [String.toList_ofList]
  exact splitLines_unbroken text.toList cs split

/-- A character that ends no line is on a line. -/
theorem exists_line_of_mem {c : Char} (kept : isLineBreak c = false) {cs : List Char}
    (member : c ∈ cs) : ∃ line ∈ splitLines cs, c ∈ line := by
  induction cs using splitLines.induct with
  | case1 => exact absurd member List.not_mem_nil
  | case2 rest inductionHypothesis =>
    rcases List.mem_cons.mp member with rfl | more
    · cases kept
    rcases List.mem_cons.mp more with rfl | later
    · cases kept
    obtain ⟨line, isLine, onLine⟩ := inductionHypothesis later
    exact ⟨line, by simp [splitLines, isLine], onLine⟩
  | case3 d rest notPair isBreak inductionHypothesis =>
    rcases List.mem_cons.mp member with rfl | later
    · exact absurd isBreak (by simp [kept])
    obtain ⟨line, isLine, onLine⟩ := inductionHypothesis later
    refine ⟨line, ?_, onLine⟩
    rw [splitLines, if_pos isBreak]
    · exact List.mem_cons_of_mem _ isLine
    · exact notPair
  | case4 d rest notPair noBreak inductionHypothesis =>
    rw [splitLines_cons (by simpa using noBreak)]
    rcases List.mem_cons.mp member with rfl | later
    · cases splitLines rest with
      | nil => exact ⟨[c], List.mem_singleton.mpr rfl, List.mem_singleton.mpr rfl⟩
      | cons first others => exact ⟨c :: first, List.mem_cons_self, List.mem_cons_self⟩
    obtain ⟨line, isLine, onLine⟩ := inductionHypothesis later
    cases split : splitLines rest with
    | nil => exact absurd (split ▸ isLine) List.not_mem_nil
    | cons first others =>
      rw [split] at isLine
      rcases List.mem_cons.mp isLine with rfl | inOthers
      · exact ⟨d :: line, List.mem_cons_self, List.mem_cons_of_mem _ onLine⟩
      · exact ⟨line, List.mem_cons_of_mem _ inOthers, onLine⟩

theorem lines_of_splitLines {text : String} {given : List String}
    (all : splitLines text.toList = given.map String.toList) : lines text = given := by
  rw [lines, all, List.map_map]
  simp [Function.comp_def]

/-- The lines of a text that puts a feed after each of its unbroken lines. -/
theorem lines_of_toList {text : String} {given : List String}
    (unbroken : ∀ line ∈ given, Unbroken line.toList)
    (made : text.toList = given.flatMap (·.toList ++ ['\n'])) : lines text = given := by
  have each : ∀ line ∈ given.map String.toList, Unbroken line := by simpa using unbroken
  refine lines_of_splitLines ?_
  rw [made, ← splitLines_flatMap each, List.flatMap_map]

/-- An unbroken line with something on it is all there is when no feed follows. -/
theorem splitLines_last {line : List Char} (unbroken : Unbroken line) (something : line ≠ []) :
    splitLines line = [line] := by
  induction line with
  | nil => exact absurd rfl something
  | cons c cs inductionHypothesis =>
    obtain ⟨kept, others⟩ := (unbroken_cons c cs).mp unbroken
    rw [splitLines_cons kept]
    cases cs with
    | nil => rfl
    | cons d cs => rw [inductionHypothesis others (List.cons_ne_nil d cs), extendFirst]

/-- Lines with something on each are the lines of the text that puts a feed between neighbours. -/
theorem lines_intercalate {given : List String} (unbroken : ∀ line ∈ given, Unbroken line.toList)
    (something : ∀ line ∈ given, line ≠ "") : lines (String.intercalate "\n" given) = given := by
  have each : splitLines (List.intercalate ['\n'] (given.map String.toList)) =
      given.map String.toList := by
    induction given with
    | nil => rfl
    | cons line others inductionHypothesis =>
      obtain ⟨lineUnbroken, othersUnbroken⟩ := List.forall_mem_cons.mp unbroken
      obtain ⟨filled, othersFilled⟩ := List.forall_mem_cons.mp something
      have rest := inductionHypothesis othersUnbroken othersFilled
      cases others with
      | nil =>
        have whole : line.toList ≠ [] := fun empty => filled (String.toList_eq_nil_iff.mp empty)
        simpa using splitLines_last lineUnbroken whole
      | cons next others =>
        rw [List.map_cons, List.map_cons, List.intercalate_cons_cons, List.append_assoc,
          List.singleton_append, splitLines_line lineUnbroken, ← List.map_cons, rest]
  refine lines_of_splitLines ?_
  rw [String.toList_intercalate]
  exact each

/-! ## Returns -/

/-- Where there is no return, nothing is read as a feed. -/
theorem unifyReturns_eq {cs : List Char} (noReturn : '\r' ∉ cs) : unifyReturns cs = cs := by
  induction cs with
  | nil => rfl
  | cons c rest inductionHypothesis =>
    rw [List.mem_cons, not_or] at noReturn
    have other : c ≠ '\r' := fun same => noReturn.1 same.symm
    rw [unifyReturns, if_neg other, inductionHypothesis noReturn.2]
    exact fun _ isReturn => absurd isReturn other

/-! ## Collapsed texts -/

/-- Every character that ends a line is a blank. -/
theorem isBlank_of_isLineBreak {c : Char} (isBreak : isLineBreak c = true) : isBlank c = true := by
  simp only [isLineBreak, isBlank] at isBreak ⊢
  generalize c.toNat = n at isBreak ⊢
  grind

theorem unbroken_of_no_blank {cs : List Char} (noBlank : ∀ c ∈ cs, isBlank c = false) :
    Unbroken cs := by
  intro c member
  cases isBreak : isLineBreak c with
  | false => rfl
  | true => exact absurd (isBlank_of_isLineBreak isBreak) (by simp [noBlank c member])

/-- A character that is no blank joins the next word when it touches it. -/
theorem words_cons (c : Char) (rest : List Char) :
    words (c :: rest) =
      if isBlank c then words rest
      else
        match rest, words rest with
        | d :: _, word :: others =>
          if isBlank d then [c] :: word :: others else (c :: word) :: others
        | _, others => [c] :: others := rfl

/-- No word holds a blank. -/
theorem words_no_blank (cs : List Char) : ∀ word ∈ words cs, ∀ c ∈ word, isBlank c = false := by
  induction cs with
  | nil => exact fun _ member => absurd member List.not_mem_nil
  | cons c rest inductionHypothesis =>
    rw [words_cons]
    cases blank : isBlank c with
    | true => simpa using inductionHypothesis
    | false =>
      simp only [Bool.false_eq_true, if_false]
      split
      next d tail word others found =>
        rw [found] at inductionHypothesis
        split <;> grind
      next => grind

theorem intercalate_unbroken {separator : List Char} (between : Unbroken separator)
    {pieces : List (List Char)} (unbroken : ∀ piece ∈ pieces, Unbroken piece) :
    Unbroken (separator.intercalate pieces) := by
  intro c member
  rcases mem_intercalate member with inSeparator | ⟨piece, inPieces, inPiece⟩
  · exact between c inSeparator
  · exact unbroken piece inPieces c inPiece

/-- Collapsing leaves no break. -/
theorem collapse_unbroken (text : String) : Unbroken (collapse text).toList := by
  rw [collapse, String.toList_intercalate]
  refine intercalate_unbroken (by decide) fun word member => ?_
  obtain ⟨_, inWords, rfl⟩ := List.mem_map.mp member
  obtain ⟨cs, found, rfl⟩ := List.mem_map.mp inWords
  rw [String.toList_ofList]
  exact unbroken_of_no_blank (words_no_blank text.toList cs found)

end Gamebook.Text
