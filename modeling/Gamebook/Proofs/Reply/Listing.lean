import Gamebook.Proofs.Number.Numeral
import Gamebook.Reply.Pattern

/-!
# Listed lines

A line lists an item behind a bullet or a number. The suggestions of a reply are what its lines
list, trimmed and without blank items, in the order of the lines. A limit of at least one leaves
the first of them, as many as it allows. The limit is looked at only behind a line, so a limit that
leaves room for none still lets the first line make its suggestion.
-/

namespace Gamebook.Reply

/-! ## Lines that list an item -/

/-- What an item is listed with: a bullet, or digits with a point or a bracket behind them. -/
inductive IsItemMark : List Char → Prop
  | bullet {c : Char} (isMark : isBulletMark c = true) : IsItemMark [c]
  | number {digits : List Char} {c : Char} (some : digits ≠ [])
    (all : ∀ d ∈ digits, Text.isDigit d = true) (isEnd : c = '.' ∨ c = ')') :
    IsItemMark (digits ++ [c])

/-- A line lists an item: perhaps blanks, a mark, at least one blank, and the item from its first
other character to the end of the line. -/
inductive Lists : List Char → List Char → Prop
  | mk {before mark gap item : List Char} (blankBefore : ∀ c ∈ before, Text.isBlank c = true)
    (isMark : IsItemMark mark) (apart : gap ≠ []) (blankGap : ∀ c ∈ gap, Text.isBlank c = true)
    (begins : ∀ c ∈ item.head?, Text.isBlank c = false) :
    Lists (before ++ (mark ++ (gap ++ item))) item

theorem isBulletMark_cases {c : Char} (isMark : isBulletMark c = true) :
    c = '-' ∨ c = '*' ∨ c = Char.ofNat 0x2022 := by
  simpa [isBulletMark, or_assoc, ← Char.toNat_inj] using isMark

theorem isBulletMark_of_isDigit {c : Char} (digit : Text.isDigit c = true) :
    isBulletMark c = false := by
  rw [Bool.eq_false_iff]
  intro isMark
  rcases isBulletMark_cases isMark with rfl | rfl | rfl <;> revert digit <;> decide

theorem isBlank_of_isDigit {c : Char} (digit : Text.isDigit c = true) : Text.isBlank c = false :=
  Text.isBlank_of_looksLikeDigit (Text.looksLikeDigit_of_isDigit digit)

/-- What an item is listed with begins with no blank. -/
theorem IsItemMark.begins {mark : List Char} (isMark : IsItemMark mark) (rest : List Char) :
    ∀ c ∈ (mark ++ rest).head?, Text.isBlank c = false := by
  cases isMark with
  | @bullet c isMark =>
    rintro _ ⟨⟩
    rcases isBulletMark_cases isMark with rfl | rfl | rfl <;> decide
  | @number digits _ some all _ =>
    cases digits with
    | nil => exact absurd rfl some
    | cons d digits =>
      rintro _ ⟨⟩
      exact isBlank_of_isDigit (all d List.mem_cons_self)

theorem afterBullet?_eq_some_iff {cs rest : List Char} :
    afterBullet? cs = some rest ↔ ∃ mark, IsItemMark mark ∧ cs = mark ++ rest := by
  constructor
  · intro found
    cases cs with
    | nil => cases found
    | cons c others =>
      have whole := List.takeWhile_append_dropWhile (p := Text.isDigit) (l := c :: others)
      have digits : ∀ d ∈ (c :: others).takeWhile Text.isDigit, Text.isDigit d = true :=
        fun d member => List.mem_takeWhile_imp member
      rw [afterBullet?] at found
      split at found
      next isMark =>
        obtain rfl := Option.some.inj found
        exact ⟨[c], .bullet isMark, rfl⟩
      next =>
        split at found
        next taken left =>
          obtain rfl := Option.some.inj found
          rw [taken, left] at whole
          exact ⟨_, .number (List.cons_ne_nil _ _) (taken ▸ digits) (.inl rfl), by simp [← whole]⟩
        next taken left =>
          obtain rfl := Option.some.inj found
          rw [taken, left] at whole
          exact ⟨_, .number (List.cons_ne_nil _ _) (taken ▸ digits) (.inr rfl), by simp [← whole]⟩
        next => cases found
  · rintro ⟨mark, isMark, rfl⟩
    cases isMark with
    | bullet isMark => simp [afterBullet?, isMark]
    | @number digits c some all isEnd =>
      cases digits with
      | nil => exact absurd rfl some
      | cons d digits =>
        have noMark := isBulletMark_of_isDigit (all d List.mem_cons_self)
        have noDigit : Text.isDigit c = false := by rcases isEnd with rfl | rfl <;> decide
        have taken : (d :: digits ++ c :: rest).takeWhile Text.isDigit = d :: digits := by
          rw [List.takeWhile_append_of_pos all]
          simp [noDigit]
        have left : (d :: digits ++ c :: rest).dropWhile Text.isDigit = c :: rest := by
          rw [List.dropWhile_append_of_pos all]
          simp [noDigit]
        rw [List.append_assoc, List.singleton_append]
        rw [List.cons_append] at taken left ⊢
        simp only [afterBullet?, noMark, taken, left]
        rcases isEnd with rfl | rfl <;> rfl

/-- The text behind a bullet is the item that its line lists. -/
theorem bullet?_eq_some_iff {line item : List Char} :
    bullet? line = some item ↔ Lists line item := by
  constructor
  · intro found
    unfold bullet? at found
    split at found
    next c rest after =>
      split at found
      next blank =>
        obtain rfl := Option.some.inj found
        obtain ⟨mark, isMark, split⟩ := afterBullet?_eq_some_iff.mp after
        obtain ⟨before, blankBefore, whole⟩ := Text.exists_blanks line
        obtain ⟨gap, blankGap, behind⟩ := Text.exists_blanks rest
        have shape : line = before ++ (mark ++ (c :: gap ++ Text.dropBlanks rest)) := by
          rw [List.cons_append, ← behind, ← split, ← whole]
        rw [shape]
        exact .mk blankBefore isMark (List.cons_ne_nil _ _)
          (List.forall_mem_cons.mpr ⟨blank, blankGap⟩) (Text.head?_dropBlanks rest)
      next => cases found
    next => cases found
  · rintro (@⟨before, mark, gap, _, blankBefore, isMark, apart, blankGap, begins⟩)
    cases gap with
    | nil => exact absurd rfl apart
    | cons c gap =>
      obtain ⟨blank, others⟩ := List.forall_mem_cons.mp blankGap
      have after : afterBullet? (mark ++ c :: (gap ++ item)) = some (c :: (gap ++ item)) :=
        afterBullet?_eq_some_iff.mpr ⟨mark, isMark, rfl⟩
      rw [bullet?, Text.dropBlanks_blanks blankBefore, Text.dropBlanks_of_head (isMark.begins _),
        List.cons_append, after]
      simp only [blank, if_true]
      rw [Text.dropBlanks_blanks others, Text.dropBlanks_of_head begins]

theorem bullet?_eq_none_iff {line : List Char} :
    bullet? line = none ↔ ∀ item, ¬Lists line item := by
  simp only [Option.eq_none_iff_forall_ne_some, Ne, bullet?_eq_some_iff]

/-- A line lists one item at most. -/
theorem Lists.unique {line item other : List Char} (lists : Lists line item)
    (also : Lists line other) : item = other :=
  Option.some.inj ((bullet?_eq_some_iff.mpr lists).symm.trans (bullet?_eq_some_iff.mpr also))

/-! ## Suggestions -/

/-- A line suggests the item that it lists, trimmed, unless nothing is left of it. -/
def Suggests (line text : String) : Prop :=
  ∃ item, Lists line.toList item ∧ text = Text.trim (String.ofList item) ∧ text ≠ ""

theorem suggestion?_eq_some_iff {line text : String} :
    suggestion? line = some text ↔ Suggests line text := by
  unfold suggestion?
  split
  next item found =>
    have lists := bullet?_eq_some_iff.mp found
    have trimmed : Text.trim (String.ofList item) = String.ofList (Text.trimBlanks item) := by
      rw [Text.trim, String.toList_ofList]
    have something : (Text.trimBlanks item).isEmpty = false ↔
        Text.trim (String.ofList item) ≠ "" := by
      simp [trimmed, String.ofList_eq_empty_iff]
    dsimp only
    constructor
    · intro suggested
      split at suggested
      next => cases suggested
      next full =>
        obtain rfl := Option.some.inj suggested
        exact ⟨item, lists, trimmed.symm, trimmed ▸ something.mp (by simpa using full)⟩
    · rintro ⟨other, also, rfl, full⟩
      obtain rfl := lists.unique also
      rw [if_neg (by simpa using something.mpr full), trimmed]
  next missing =>
    refine iff_of_false (Option.some_ne_none text).symm ?_
    rintro ⟨item, lists, -⟩
    exact bullet?_eq_none_iff.mp missing item lists

/-- What some lines suggest in their order. -/
inductive Suggested : List String → List String → Prop
  | nil : Suggested [] []
  | next {line text : String} {lines texts : List String} (suggests : Suggests line text)
    (later : Suggested lines texts) : Suggested (line :: lines) (text :: texts)
  | skip {line : String} {lines texts : List String} (nothing : ∀ text, ¬Suggests line text)
    (later : Suggested lines texts) : Suggested (line :: lines) texts

theorem suggested_filterMap (lines : List String) :
    Suggested lines (lines.filterMap suggestion?) := by
  induction lines with
  | nil => exact .nil
  | cons line lines inductionHypothesis =>
    cases found : suggestion? line with
    | some text =>
      rw [List.filterMap_cons_some found]
      exact .next (suggestion?_eq_some_iff.mp found) inductionHypothesis
    | none =>
      rw [List.filterMap_cons_none found]
      refine .skip (fun text suggests => ?_) inductionHypothesis
      cases found.symm.trans (suggestion?_eq_some_iff.mpr suggests)

/-- While there is room, the suggestions are taken that fill it. -/
theorem takeSuggestions_of_room {limit : Int} {count : Nat} (room : (count : Int) < limit)
    (lines : List String) :
    takeSuggestions limit count lines =
      (lines.filterMap suggestion?).take (limit - count).toNat := by
  induction lines generalizing count with
  | nil => simp [takeSuggestions]
  | cons line lines inductionHypothesis =>
    cases found : suggestion? line with
    | none =>
      have more : ¬limit ≤ count := Int.not_le.mpr room
      rw [List.filterMap_cons_none found, takeSuggestions]
      simp only [found]
      rw [if_neg more, inductionHypothesis room]
    | some text =>
      have left : (limit - count).toNat = (limit - (count + 1 : Nat)).toNat + 1 := by omega
      rw [List.filterMap_cons_some found, left, List.take_succ_cons, takeSuggestions]
      simp only [found]
      by_cases full : limit ≤ count + 1
      · have none : (limit - (count + 1 : Nat)).toNat = 0 := by omega
        rw [if_pos full, none, List.take_zero]
      · rw [if_neg full, inductionHypothesis (by omega)]

/-- Without room, the first line is still looked at. -/
theorem takeSuggestions_of_full {limit : Int} {count : Nat} (full : limit ≤ count)
    (lines : List String) :
    takeSuggestions limit count lines = (lines.take 1).filterMap suggestion? := by
  cases lines with
  | nil => rfl
  | cons line lines =>
    have stops : limit ≤ count + 1 := by omega
    cases found : suggestion? line <;> simp [takeSuggestions, found, full, stops]

/-- A limit of at least one leaves the first of the things that the lines suggest, so many as it
says. Any other limit leaves what the first line suggests. -/
theorem suggestions_within (text : String) :
    ∃ all first, Suggested (Text.lines text) all ∧ Suggested ((Text.lines text).take 1) first ∧
      ∀ limit, suggestions limit text = if 1 ≤ limit then all.take limit.toNat else first := by
  refine ⟨_, _, suggested_filterMap _, suggested_filterMap _, fun limit => ?_⟩
  by_cases room : 1 ≤ limit
  · have empty : ((0 : Nat) : Int) < limit := by omega
    simpa [suggestions, room] using takeSuggestions_of_room empty (Text.lines text)
  · rw [suggestions, if_neg room, takeSuggestions_of_full (by omega)]

/-- Under the limit zero one of two suggestions is left. -/
theorem zero_limit_suggests :
    Suggested (Text.lines "- one\n- two") ["one", "two"] ∧
      suggestions 0 "- one\n- two" ≠ ["one", "two"].take 0 := by
  have lines : Text.lines "- one\n- two" = ["- one", "- two"] := by decide
  have found : ["- one", "- two"].filterMap suggestion? = ["one", "two"] := by decide
  refine ⟨?_, by decide⟩
  rw [lines, ← found]
  exact suggested_filterMap _

end Gamebook.Reply
