import Gamebook.Export.Page
import Gamebook.Proofs.Json.Text

/-!
# Numbering risky characters in texts

In the data of a page every risky character is written by its number, wherever it stands. No
sign of a document and nothing inside an escape is risky, so numbering takes nothing but whole
characters of texts; there a numbered character is read as the character itself, even behind
a first half that waits for a second one. So a text is read as before, and what is left behind
its closing quote is what was left before, with its risky characters numbered.
-/

namespace Gamebook.Page

open Json

/-! ## Numbered characters -/

/-- The characters with every risky one written by its number. -/
def numberRisky (cs : List Char) : List Char := cs.flatMap dataCharacter

/-- The risky characters, one by one. -/
theorem isRisky_cases {c : Char} (risky : isRisky c = true) :
    c = '<' ∨ c = '>' ∨ c = '&' ∨ c = '\u2028' ∨ c = '\u2029' := by
  have character {n : Nat} (same : c.toNat = n) : c = Char.ofNat n := by
    rw [← same, Char.ofNat_toNat]
  simp only [isRisky, Bool.or_eq_true, decide_eq_true_eq] at risky
  rcases risky with (((less | greater) | ampersand) | line) | paragraph
  · exact .inl less
  · exact .inr (.inl greater)
  · exact .inr (.inr (.inl ampersand))
  · exact .inr (.inr (.inr (.inl (character line))))
  · exact .inr (.inr (.inr (.inr (character paragraph))))

/-- A risky character is numbered with four digits, none of which is risky. -/
theorem numbered_plain {c : Char} (risky : isRisky c = true) :
    c.toNat < 0x10000 ∧ (numbered c.toNat).any isRisky = false := by
  rcases isRisky_cases risky with rfl | rfl | rfl | rfl | rfl <;> decide

/-- A character of a class that no risky character is in. -/
theorem isRisky_eq_false (test : Char → Bool)
    (apart : ['<', '>', '&', '\u2028', '\u2029'].any test = false) {c : Char}
    (passes : test c = true) : isRisky c = false := by
  cases risky : isRisky c with
  | false => rfl
  | true => rcases isRisky_cases risky with rfl | rfl | rfl | rfl | rfl <;> simp [passes] at apart

/-- No figure is risky. -/
theorem figure_plain {c : Char} (figure : isFigure c = true) : isRisky c = false :=
  isRisky_eq_false isFigure (by decide) figure

@[simp] theorem numberRisky_nil : numberRisky [] = [] := rfl

theorem numberRisky_append (cs ds : List Char) :
    numberRisky (cs ++ ds) = numberRisky cs ++ numberRisky ds := List.flatMap_append

theorem numberRisky_plain {c : Char} (plain : isRisky c = false) (rest : List Char) :
    numberRisky (c :: rest) = c :: numberRisky rest := by
  simp [numberRisky, dataCharacter, plain]

theorem numberRisky_risky {c : Char} (risky : isRisky c = true) (rest : List Char) :
    numberRisky (c :: rest) = numbered c.toNat ++ numberRisky rest := by
  simp [numberRisky, dataCharacter, risky]

/-- Characters none of which is risky stay as they are. -/
theorem numberRisky_eq {cs : List Char} (plain : ∀ c ∈ cs, isRisky c = false) :
    numberRisky cs = cs := by
  induction cs with
  | nil => rfl
  | cons c rest inductionHypothesis =>
    obtain ⟨here, there⟩ := List.forall_mem_cons.mp plain
    rw [numberRisky_plain here, inductionHypothesis there]

/-- Numbering changes the first character only if it is risky, to a backslash. -/
theorem numberRisky_cons (c : Char) (rest : List Char) :
    ∃ more, numberRisky (c :: rest) = (if isRisky c then '\\' else c) :: more := by
  cases risky : isRisky c with
  | true => exact ⟨_, numberRisky_risky risky rest⟩
  | false => exact ⟨_, numberRisky_plain risky rest⟩

theorem numberRisky_eq_nil_iff (cs : List Char) : numberRisky cs = [] ↔ cs = [] := by
  cases cs with
  | nil => simp
  | cons c rest =>
    obtain ⟨more, first⟩ := numberRisky_cons c rest
    simp [first]

/-- A character that is neither risky nor a backslash comes first exactly where it came first. -/
theorem numberRisky_eq_cons_iff {c : Char} (other : c ≠ '\\') (plain : isRisky c = false)
    (cs rest : List Char) :
    numberRisky cs = c :: rest ↔ ∃ before, cs = c :: before ∧ rest = numberRisky before := by
  constructor
  · intro first
    cases cs with
    | nil => nomatch first
    | cons d before =>
      cases risky : isRisky d with
      | true =>
        rw [numberRisky_risky risky] at first
        exact absurd (List.cons.inj first).1.symm other
      | false =>
        rw [numberRisky_plain risky] at first
        obtain ⟨rfl, rfl⟩ := List.cons.inj first
        exact ⟨before, rfl, rfl⟩
  · rintro ⟨before, rfl, rfl⟩
    exact numberRisky_plain plain before

/-- A sign that does not come first does not come first afterwards. -/
theorem numberRisky_ne_cons {c : Char} (other : c ≠ '\\') (plain : isRisky c = false)
    {cs : List Char} (noSign : ∀ rest, cs ≠ c :: rest) (rest : List Char) :
    numberRisky cs ≠ c :: rest := by
  intro same
  obtain ⟨before, isSign, _⟩ := (numberRisky_eq_cons_iff other plain cs rest).mp same
  exact noSign before isSign

/-- No numbered text has a risky character. -/
theorem numberRisky_free (cs : List Char) : ∀ c ∈ numberRisky cs, isRisky c = false := by
  intro c member
  obtain ⟨d, _, written⟩ := List.mem_flatMap.mp member
  unfold dataCharacter at written
  split at written
  next risky =>
    have free := List.any_eq_false.mp (numbered_plain risky).2 c written
    exact Bool.not_eq_true _ ▸ free
  next plain =>
    obtain rfl := List.mem_singleton.mp written
    exact Bool.not_eq_true _ ▸ plain

/-! ## Classes of characters -/

section Classes

variable {test : Char → Bool} (plain : ∀ {c}, test c = true → isRisky c = false)
  (noBackslash : test '\\' = false)

include plain noBackslash

/-- A run of characters that are not risky ends where it ended before. -/
theorem takeWhile_numberRisky (cs : List Char) :
    (numberRisky cs).takeWhile test = cs.takeWhile test ∧
      (numberRisky cs).dropWhile test = numberRisky (cs.dropWhile test) := by
  induction cs with
  | nil => exact ⟨rfl, rfl⟩
  | cons c rest inductionHypothesis =>
    cases passes : test c with
    | true =>
      rw [numberRisky_plain (plain passes)]
      simp [passes, inductionHypothesis]
    | false =>
      obtain ⟨more, first⟩ := numberRisky_cons c rest
      have stops : test (if isRisky c then '\\' else c) = false := by split <;> assumption
      rw [List.takeWhile_cons_of_neg (by simp [passes]),
        List.dropWhile_cons_of_neg (by simp [passes]), first]
      simp [stops]

end Classes

theorem skipGap_numberRisky (cs : List Char) :
    skipGap (numberRisky cs) = numberRisky (skipGap cs) :=
  (takeWhile_numberRisky (isRisky_eq_false isGap (by decide)) (by decide) cs).2

/-! ## Readings -/

/-- Whatever is read, the same is read where risky characters are numbered, and what is left is
what was left with risky characters numbered. -/
def Survives {α : Type} (reading numbered : Reading α) : Prop :=
  ∀ result rest, reading = .ok (result, rest) → numbered = .ok (result, numberRisky rest)

namespace Survives

theorem fault {α : Type} (fault : Fault) (numbered : Reading α) :
    Survives (.error fault) numbered := nofun

theorem done {α : Type} {result : α} {rest : List Char} {numbered : Reading α}
    (same : numbered = .ok (result, numberRisky rest)) :
    Survives (.ok (result, rest)) numbered := by
  rintro _ _ read
  obtain ⟨rfl, rfl⟩ := Prod.mk.inj (Except.ok.inj read)
  exact same

variable {reading numbered : Reading (List Char)} (survives : Survives reading numbered)

include survives

theorem prepend (c : Char) : Survives (Json.prepend c reading) (Json.prepend c numbered) := by
  rintro result rest done
  cases reading with
  | error fault => nomatch done
  | ok read =>
    obtain ⟨text, left⟩ := read
    obtain ⟨rfl, rfl⟩ := Prod.mk.inj (Except.ok.inj done)
    rw [survives text _ rfl]
    rfl

theorem settle (pending : Option Nat) :
    Survives (Json.settle pending reading) (Json.settle pending numbered) := by
  cases pending with
  | none => exact survives
  | some half => exact survives.prepend _

end Survives

/-! ## Texts -/

theorem numberRisky_fourHex {a b c d : Char} {n : Nat} (four : fourHex? a b c d = some n)
    (rest : List Char) :
    numberRisky ('\\' :: 'u' :: a :: b :: c :: d :: rest) =
      '\\' :: 'u' :: a :: b :: c :: d :: numberRisky rest := by
  have plain {c : Char} {digit : Nat} (spells : hexValue? c = some digit) : isRisky c = false :=
    isRisky_eq_false (fun c => (hexValue? c).isSome) (by decide) (by simp [spells])
  unfold fourHex? at four
  split at four
  next first second third fourth =>
    rw [numberRisky_plain (by decide), numberRisky_plain (by decide),
      numberRisky_plain (plain first), numberRisky_plain (plain second),
      numberRisky_plain (plain third), numberRisky_plain (plain fourth)]
  next => nomatch four

/-- Where no numbered character follows, no half may wait in a project text. -/
theorem alone_of_calm {dialect : Dialect} {pending : Option Nat} {cs : List Char}
    (calm : ¬(dialect = .project && pending.isSome && !beginsNumbered cs) = true)
    (other : ∀ rest, cs ≠ '\\' :: 'u' :: rest) :
    (dialect = .project && pending.isSome) = false := by
  simpa [beginsNumbered_eq_false other] using calm

theorem halfFault_survives {α : Type} (cs : List Char) (numbered : Reading α) :
    Survives (halfFault cs) numbered := by
  unfold halfFault
  split <;> exact Survives.fault _ _

theorem numberedFault_survives {α : Type} (dialect : Dialect) (cs : List Char)
    (numbered : Reading α) : Survives (numberedFault dialect cs) numbered := by
  unfold numberedFault
  split
  · exact Survives.fault _ _
  · split <;> exact Survives.fault _ _

/-- A text that is read is read where its risky characters are numbered, whether a first half
waits or not. -/
theorem readText_numberRisky (dialect : Dialect) (begun other : List Char) (pending : Option Nat)
    (cs : List Char) :
    Survives (readText dialect begun pending cs)
      (readText dialect other pending (numberRisky cs)) := by
  have goesOn {rest : List Char} (more : ¬(dialect = .stored && rest.isEmpty) = true) :
      (dialect = .stored && (numberRisky rest).isEmpty) = false := by
    simpa [numberRisky_eq_nil_iff] using more
  fun_induction readText dialect begun pending cs
  case case1 => exact halfFault_survives _ _
  case case3 calm =>
    rw [numberRisky_plain (by decide), readText, if_neg (by simpa [beginsNumbered] using calm)]
    exact (Survives.done rfl).settle _
  -- A numbered character: a second half, a first half or neither, behind a first half or not.
  case case6 four more _ second _ inductionHypothesis =>
    rw [numberRisky_fourHex four, readText_fourHex dialect other _ four (goesOn more)]
    simp only [second, if_true]
    exact inductionHypothesis.prepend _
  case case8 four more _ notSecond stored first _ inductionHypothesis =>
    rw [numberRisky_fourHex four, readText_fourHex dialect other _ four (goesOn more)]
    simp only [notSecond, stored, first, if_true, if_false]
    exact inductionHypothesis.settle _
  case case9 four more _ notSecond stored notFirst _ inductionHypothesis =>
    rw [numberRisky_fourHex four, readText_fourHex dialect other _ four (goesOn more)]
    simp only [notSecond, stored, notFirst, if_false]
    exact (inductionHypothesis.prepend _).settle _
  case case10 four more first _ inductionHypothesis =>
    rw [numberRisky_fourHex four, readText_fourHex dialect other _ four (goesOn more)]
    simp only [first, if_true]
    exact inductionHypothesis
  case case12 four more notFirst allowed _ inductionHypothesis =>
    rw [numberRisky_fourHex four, readText_fourHex dialect other _ four (goesOn more)]
    simp only [notFirst, allowed]
    exact inductionHypothesis.prepend _
  case case4 | case5 | case13 => exact numberedFault_survives _ _ _
  case case15 c rest _ notNumbered meant means calm inductionHypothesis =>
    have plain : isRisky c = false :=
      isRisky_eq_false (fun c => (escapedCharacter? c).isSome) (by decide)
        (by simp [means])
    have alone := alone_of_calm calm fun _ same => notNumbered (by simp_all)
    rw [numberRisky_plain (by decide), numberRisky_plain plain,
      readText_escaped dialect other alone means]
    exact (inductionHypothesis.prepend _).settle _
  case case18 pending c rest noQuote _ _ backslashEnd backslash noControl calm
      inductionHypothesis =>
    have noBackslash : c ≠ '\\' := by
      rintro rfl
      cases rest with
      | nil => exact backslashEnd rfl rfl
      | cons next rest => exact backslash next rest rfl rfl
    have alone := alone_of_calm calm fun _ same => noBackslash (by simp_all)
    cases risky : isRisky c with
    | false =>
      rw [numberRisky_plain risky,
        readText_character dialect other alone noQuote noBackslash (Nat.not_lt.mp noControl)]
      exact (inductionHypothesis.prepend _).settle _
    | true =>
      rw [numberRisky_risky risky]
      intro text left done
      have more : numberRisky rest ≠ [] := by
        rw [Ne, numberRisky_eq_nil_iff]
        rintro rfl
        cases pending <;> simp [readText, prepend, settle] at done
      rw [readText_numbered_toNat dialect other alone (numbered_plain risky).1 more]
      exact (inductionHypothesis.prepend _).settle _ text left done
  all_goals exact Survives.fault _ _

end Gamebook.Page
