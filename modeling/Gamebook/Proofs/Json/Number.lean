import Mathlib
import Gamebook.Json.Reader

/-!
# Reading the parts of a number

A number is figures, perhaps a point with figures behind it, and perhaps a signed exponent;
needless zeros in front of the whole part are none of it. Whatever follows that cannot
continue a number, the reader takes exactly these parts. Figures spell the number they are
the digits of, and zeros at their end multiply it by ten.
-/

namespace Gamebook.Json

/-! ## Figures -/

theorem isFigure_eq_isDigit (c : Char) : isFigure c = c.isDigit := rfl

/-- The digits of a number are figures. -/
theorem toDigits_figures (n : Nat) : ∀ c ∈ Nat.toDigits 10 n, isFigure c = true := by
  intro c member
  rw [isFigure_eq_isDigit]
  exact Nat.isDigit_of_mem_toDigits (by decide) (by decide) member

theorem figuresValue_eq (cs : List Char) : figuresValue cs = Nat.ofDigitChars 10 cs 0 := rfl

/-- Figures spell the number they are the digits of. -/
theorem figuresValue_toDigits (n : Nat) : figuresValue (Nat.toDigits 10 n) = n :=
  Nat.ofDigitChars_ten_toDigits

/-- Zeros at the end multiply by ten. -/
theorem figuresValue_append_zeros (cs : List Char) (count : Nat) :
    figuresValue (cs ++ List.replicate count '0') = figuresValue cs * 10 ^ count := by
  rw [figuresValue_eq, Nat.ofDigitChars_append, Nat.ofDigitChars_replicate_zero, Nat.mul_comm]
  rfl

/-- The digits of a positive number begin with no zero. -/
theorem toDigits_head {n : Nat} (positive : 0 < n) :
    ∃ c cs, Nat.toDigits 10 n = c :: cs ∧ c ≠ '0' := by
  induction n using Nat.strongRecOn with
  | ind n inductionHypothesis =>
    rw [Nat.toDigits_eq_if (by decide)]
    split
    next small =>
      refine ⟨_, _, rfl, ?_⟩
      interval_cases n <;> decide
    next large =>
      obtain ⟨c, cs, digits, nonzero⟩ := inductionHypothesis (n / 10) (by omega) (by omega)
      exact ⟨c, cs ++ [Nat.digitChar (n % 10)], by rw [digits, List.cons_append], nonzero⟩

/-- The first of some characters is none of the figures. -/
theorem takeWhile_figures {figures rest : List Char} (all : ∀ c ∈ figures, isFigure c = true)
    (stops : ∀ c ∈ rest.head?, isFigure c = false) :
    (figures ++ rest).takeWhile isFigure = figures ∧
      (figures ++ rest).dropWhile isFigure = rest := by
  rw [List.takeWhile_append_of_pos all, List.dropWhile_append_of_pos all]
  cases rest with
  | nil => simp
  | cons c cs => simp [stops c rfl]

/-! ## Parts of numbers -/

/-- Characters that cannot continue a number. -/
def Stops (rest : List Char) : Prop :=
  ∀ c ∈ rest.head?, isFigure c = false ∧ c ≠ '.' ∧ isExponentMark c = false

/-- Some figures. -/
def IsFigures (cs : List Char) : Prop := cs ≠ [] ∧ ∀ c ∈ cs, isFigure c = true

namespace NumberParts

/-- The characters of a point and the figures behind it. -/
def fractionCharacters : Option (List Char) → List Char
  | none => []
  | some figures => '.' :: figures

/-- The characters of an exponent, its sign always written. -/
def exponentCharacters : Option (Bool × List Char) → List Char
  | none => []
  | some (negative, figures) => 'e' :: (if negative then '-' else '+') :: figures

/-- The characters of the parts and of what is left. -/
def characters (parts : NumberParts) : List Char :=
  parts.whole ++ (fractionCharacters parts.fraction ++
    (exponentCharacters parts.exponent ++ parts.rest))

/-- Parts that are there as a whole, in front of characters that cannot continue them. -/
structure WellFormed (parts : NumberParts) : Prop where
  whole : IsFigures parts.whole
  leading : parts.whole.head? = some '0' → parts.whole = ['0']
  fraction : ∀ figures, parts.fraction = some figures → IsFigures figures
  exponent : ∀ negative figures, parts.exponent = some (negative, figures) → IsFigures figures
  rest : Stops parts.rest

end NumberParts

theorem Stops.noFigure {rest : List Char} (stops : Stops rest) :
    ∀ c ∈ rest.head?, isFigure c = false := fun c first => (stops c first).1

/-- Sign and figures of an exponent are taken as they were written. -/
theorem exponentParts_characters {figures rest : List Char} (negative : Bool)
    (all : ∀ c ∈ figures, isFigure c = true) (stops : Stops rest) :
    exponentParts ((if negative then '-' else '+') :: (figures ++ rest)) =
      (negative, figures, rest) := by
  obtain ⟨taken, left⟩ := takeWhile_figures all stops.noFigure
  cases negative <;> simp [exponentParts, taken, left]

/-- Taking an exponent takes the whole of it. -/
theorem takeExponent_characters {parts : NumberParts} (wellFormed : parts.WellFormed) :
    takeExponent ⟨parts.whole, parts.fraction, none,
      NumberParts.exponentCharacters parts.exponent ++ parts.rest⟩ = parts := by
  obtain ⟨whole, fraction, exponent, rest⟩ := parts
  have stops : Stops rest := wellFormed.rest
  cases exponent with
  | none =>
    cases rest with
    | nil => rfl
    | cons c cs =>
      have noMark := (stops c rfl).2.2
      simp [takeExponent, NumberParts.exponentCharacters, noMark]
  | some signed =>
    obtain ⟨negative, figures⟩ := signed
    obtain ⟨some, all⟩ : IsFigures figures := wellFormed.exponent negative figures rfl
    have mark : isExponentMark 'e' = true := rfl
    simp only [takeExponent, NumberParts.exponentCharacters, List.cons_append, mark, if_true,
      exponentParts_characters negative all stops]

/-- The whole part is taken as it was written. -/
theorem wholeFigures_append {whole rest : List Char} (figures : IsFigures whole)
    (leading : whole.head? = some '0' → whole = ['0'])
    (stops : ∀ c ∈ rest.head?, isFigure c = false) : wholeFigures (whole ++ rest) = whole := by
  cases whole with
  | nil => exact absurd rfl figures.1
  | cons c cs =>
    by_cases zero : c = '0'
    · subst zero
      rw [leading rfl]
      rfl
    · have taken := (takeWhile_figures figures.2 stops).1
      rw [List.cons_append] at taken ⊢
      rw [wholeFigures]
      · exact taken
      · exact fun _ same => zero (List.cons.inj same).1

/-- The fraction is taken as it was written. -/
theorem takeFraction_characters (whole : List Char) {rest : List Char} {fraction : Option (List Char)}
    (figures : ∀ places, fraction = some places → IsFigures places)
    (stops : ∀ c ∈ rest.head?, isFigure c = false ∧ c ≠ '.') :
    takeFraction whole (NumberParts.fractionCharacters fraction ++ rest) =
      ⟨whole, fraction, none, rest⟩ := by
  cases fraction with
  | none =>
    rw [NumberParts.fractionCharacters, List.nil_append, takeFraction]
    rintro c more rfl
    exact absurd rfl (stops '.' rfl).2
  | some places =>
    obtain ⟨some, all⟩ := figures places rfl
    cases places with
    | nil => exact absurd rfl some
    | cons c cs =>
      obtain ⟨taken, left⟩ := takeWhile_figures all fun c first => (stops c first).1
      rw [List.cons_append] at taken left
      have first : isFigure c = true := all c List.mem_cons_self
      simp [NumberParts.fractionCharacters, takeFraction, first, taken, left]

/-- The reader takes exactly the parts of a number. -/
theorem takeNumber?_characters {parts : NumberParts} (wellFormed : parts.WellFormed) :
    takeNumber? parts.characters = some parts := by
  have exponentTaken := takeExponent_characters wellFormed
  obtain ⟨whole, fraction, exponent, rest⟩ := parts
  have stops : Stops rest := wellFormed.rest
  have some : whole ≠ [] := wellFormed.whole.1
  have afterFraction : ∀ c ∈ (NumberParts.exponentCharacters exponent ++ rest).head?,
      isFigure c = false ∧ c ≠ '.' := by
    cases exponent with
    | none => exact fun c first => ⟨(stops c first).1, (stops c first).2.1⟩
    | some signed =>
      rintro c first
      obtain rfl := Option.some.inj first
      decide
  have afterWhole : ∀ c ∈ (NumberParts.fractionCharacters fraction ++
      (NumberParts.exponentCharacters exponent ++ rest)).head?, isFigure c = false := by
    cases fraction with
    | none => exact fun c first => (afterFraction c first).1
    | some places =>
      rintro c first
      obtain rfl := Option.some.inj first
      decide
  have wholeTaken := wholeFigures_append wellFormed.whole wellFormed.leading afterWhole
  have fractionTaken := takeFraction_characters whole wellFormed.fraction afterFraction
  dsimp only at wholeTaken fractionTaken exponentTaken
  simp [takeNumber?, NumberParts.characters, wholeTaken, some, fractionTaken, exponentTaken]

/-! ## Reading numbers -/

/-- Nothing that stops a number shows that it goes on wrongly. -/
theorem continuationFault?_eq_none {parts : NumberParts} (stops : Stops parts.rest) :
    continuationFault? parts = none := by
  unfold continuationFault?
  split
  next => rfl
  next c rest isRest =>
    obtain ⟨noFigure, noPoint, noMark⟩ := stops c (by rw [isRest]; rfl)
    simp [noFigure, noPoint, noMark]

/-- A number with few enough figures is read, and what follows it is left. -/
theorem readNumber_characters (dialect : Dialect) (negative : Bool) (begun : List Char)
    {parts : NumberParts} (wellFormed : parts.WellFormed)
    (few : parts.whole.length ≤ digitLimit) :
    readNumber dialect negative begun parts.characters =
      .ok (parts.value negative, parts.rest) := by
  unfold readNumber
  rw [takeNumber?_characters wellFormed]
  cases dialect <;>
    simp [Nat.not_lt.mpr few, continuationFault?_eq_none wellFormed.rest]

/-- The minus sign of a negative number. -/
def signCharacters (negative : Bool) : List Char := if negative then ['-'] else []

theorem readAtom_figure (dialect : Dialect) {c : Char} (figure : isFigure c = true)
    (rest : List Char) :
    readAtom dialect (c :: rest) = readNumber dialect false (c :: rest) (c :: rest) := by
  have other (letter : Char) (noFigure : isFigure letter = false) : c ≠ letter := by
    rintro rfl
    exact absurd figure (by simp [noFigure])
  rw [readAtom, if_pos figure]
  all_goals intros
  all_goals exact absurd ‹c = _› (other _ rfl)

theorem readAtom_minus (dialect : Dialect) {c : Char} (figure : isFigure c = true)
    (rest : List Char) :
    readAtom dialect ('-' :: c :: rest) = readNumber dialect true ('-' :: c :: rest) (c :: rest) := by
  have noLetter : c ≠ 'I' := by
    rintro rfl
    exact absurd figure (by decide)
  rw [readAtom]
  exact fun _ same => noLetter (List.cons.inj same).1

/-- A number with its sign is read, and what follows it is left. -/
theorem readAtom_characters (dialect : Dialect) (negative : Bool) {parts : NumberParts}
    (wellFormed : parts.WellFormed) (few : parts.whole.length ≤ digitLimit) :
    readAtom dialect (signCharacters negative ++ parts.characters) =
      .ok (parts.value negative, parts.rest) := by
  obtain ⟨c, cs, first, figure⟩ : ∃ c cs, parts.characters = c :: cs ∧ isFigure c = true := by
    obtain ⟨some, all⟩ := wellFormed.whole
    obtain ⟨c, cs, isWhole⟩ := List.exists_cons_of_ne_nil some
    rw [isWhole] at all
    exact ⟨c, _, by rw [NumberParts.characters, isWhole, List.cons_append],
      all c List.mem_cons_self⟩
  have read := fun begun => readNumber_characters dialect negative begun wellFormed few
  rw [first] at read ⊢
  cases negative with
  | false => exact (readAtom_figure dialect figure cs).trans (read _)
  | true => exact (readAtom_minus dialect figure cs).trans (read _)

/-! ## Whole numbers -/

/-- The digits of a number are the whole part of a number without further parts. -/
theorem wellFormed_toDigits (n : Nat) {rest : List Char} (stops : Stops rest) :
    (⟨Nat.toDigits 10 n, none, none, rest⟩ : NumberParts).WellFormed where
  whole := ⟨Nat.toDigits_ne_nil, toDigits_figures n⟩
  leading := by
    intro zero
    rcases Nat.eq_zero_or_pos n with rfl | positive
    · rfl
    · obtain ⟨c, cs, digits, nonzero⟩ := toDigits_head positive
      rw [digits] at zero
      exact absurd (Option.some.inj zero) nonzero
  fraction := nofun
  exponent := nofun
  rest := stops

theorem toList_text (n : Int) :
    (Numeral.text n).toList = signCharacters (n < 0) ++ Nat.toDigits 10 n.natAbs := by
  cases n with
  | ofNat k => simp [Numeral.text, signCharacters]
  | negSucc k => simp [Numeral.text, signCharacters, String.toList_append, Int.negSucc_lt_zero]

theorem value_toDigits (n : Int) (rest : List Char) :
    NumberParts.value (n < 0) ⟨Nat.toDigits 10 n.natAbs, none, none, rest⟩ = .int n := by
  simp only [NumberParts.value, figuresValue_toDigits, decide_eq_true_eq]
  congr 1
  omega

theorem length_of_isWritable {n : Int} (writable : Numeral.isWritable n = true) :
    (Nat.toDigits 10 n.natAbs).length ≤ digitLimit := by
  have some : 0 < digitLimit := by decide
  have few : n.natAbs < Nat.pow 10 digitLimit := of_decide_eq_true writable
  generalize digitLimit = limit at some few ⊢
  exact (Nat.length_toDigits_le_iff (by decide) some).mpr few

/-- A whole number with few enough digits is read from its text. -/
theorem readAtom_int (dialect : Dialect) {n : Int} (writable : Numeral.isWritable n = true)
    {rest : List Char} (stops : Stops rest) :
    readAtom dialect ((Numeral.text n).toList ++ rest) = .ok (.int n, rest) := by
  have read := readAtom_characters dialect (n < 0) (wellFormed_toDigits n.natAbs stops)
    (length_of_isWritable writable)
  rw [value_toDigits] at read
  rw [toList_text, List.append_assoc]
  exact read

end Gamebook.Json
