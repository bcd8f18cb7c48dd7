import Gamebook.Proofs.Export.Risky
import Gamebook.Proofs.Json.RoundTrip

/-!
# Documents with numbered risky characters

Numbering the risky characters of a document changes no reading of it: the document is read as
the same value. The proof follows the reader down to texts. Outside texts the reader stops at
a risky character, so there is none behind anything that is read; nothing is asked of the
document but that it is read. Numbering makes it longer and gives the reader more fuel, which
changes no reading either.
-/

namespace Gamebook.Page

open Json

/-! ## Literals and numbers -/

theorem takeWord_eq_inl {letters cs rest : List Char} (taken : takeWord letters cs = .inl rest) :
    cs = letters ++ rest := by
  induction letters generalizing cs with
  | nil => exact Sum.inl.inj taken
  | cons letter letters inductionHypothesis =>
    cases cs with
    | nil => cases taken
    | cons c cs =>
      rw [takeWord] at taken
      split at taken
      next same => rw [same, inductionHypothesis taken, List.cons_append]
      next => cases taken

theorem readLiteral_numberRisky (dialect : Dialect) (letters : String) (value : Value)
    (plain : letters.toList.any isRisky = false) (cs : List Char) :
    Survives (readLiteral dialect letters value cs)
      (readLiteral dialect letters value (numberRisky cs)) := by
  intro result left done
  unfold readLiteral at done
  split at done
  next rest taken =>
    obtain ⟨rfl, rfl⟩ := Prod.mk.inj (Except.ok.inj done)
    have allPlain : ∀ c ∈ letters.toList, isRisky c = false := by simpa using plain
    rw [takeWord_eq_inl taken, numberRisky_append, numberRisky_eq allPlain]
    exact readLiteral_append dialect letters value _
  next => split at done <;> nomatch done

/-- The parts of a number with what is left numbered. -/
def numberRest (parts : NumberParts) : NumberParts := { parts with rest := numberRisky parts.rest }

theorem figures_numberRisky (cs : List Char) :
    (numberRisky cs).takeWhile isFigure = cs.takeWhile isFigure ∧
      (numberRisky cs).dropWhile isFigure = numberRisky (cs.dropWhile isFigure) :=
  takeWhile_numberRisky figure_plain (by decide) cs

theorem drop_takeWhile (test : Char → Bool) (cs : List Char) :
    cs.drop (cs.takeWhile test).length = cs.dropWhile test := by
  have whole : cs.takeWhile test ++ cs.dropWhile test = cs := List.takeWhile_append_dropWhile
  have dropped := congrArg (List.drop (cs.takeWhile test).length) whole
  rw [List.drop_left] at dropped
  exact dropped.symm

theorem wholeFigures_numberRisky (cs : List Char) :
    wholeFigures (numberRisky cs) = wholeFigures cs ∧
      (numberRisky cs).drop (wholeFigures cs).length =
        numberRisky (cs.drop (wholeFigures cs).length) := by
  by_cases zero : ∃ rest, cs = '0' :: rest
  · obtain ⟨rest, rfl⟩ := zero
    rw [numberRisky_plain (by decide)]
    exact ⟨rfl, rfl⟩
  · have whole : wholeFigures cs = cs.takeWhile isFigure := by
      rw [wholeFigures]
      exact fun rest same => zero ⟨rest, same⟩
    have numbered : wholeFigures (numberRisky cs) = (numberRisky cs).takeWhile isFigure := by
      rw [wholeFigures]
      exact numberRisky_ne_cons (by decide) (by decide) fun rest same => zero ⟨rest, same⟩
    obtain ⟨taken, left⟩ := figures_numberRisky cs
    refine ⟨by rw [whole, numbered, taken], ?_⟩
    rw [whole, drop_takeWhile, ← taken, drop_takeWhile, left]

theorem takeFraction_numberRisky (whole cs : List Char) :
    takeFraction whole (numberRisky cs) = numberRest (takeFraction whole cs) := by
  fun_cases takeFraction whole cs
  case case1 c more figure =>
    obtain ⟨taken, left⟩ := figures_numberRisky (c :: more)
    rw [numberRisky_plain (figure_plain figure)] at taken left
    rw [numberRisky_plain (by decide), numberRisky_plain (figure_plain figure), takeFraction,
      if_pos figure, taken, left]
    rfl
  case case2 c more noFigure =>
    obtain ⟨rest, first⟩ := numberRisky_cons c more
    have noFigure : ¬isFigure (if isRisky c then '\\' else c) = true := by
      split
      · decide
      · exact noFigure
    rw [numberRest, numberRisky_plain (by decide), first, takeFraction, if_neg noFigure]
  case case3 noFraction =>
    rw [numberRest, takeFraction]
    intro c more same
    obtain ⟨rest, isPoint, isRest⟩ :=
      (numberRisky_eq_cons_iff (by decide) (by decide) cs _).mp same
    cases rest with
    | nil => cases isRest
    | cons d rest => exact noFraction d rest isPoint

/-- Without a sign the exponent is not negative. -/
theorem exponentParts_unsigned {cs : List Char} (noMinus : ∀ rest, cs ≠ '-' :: rest)
    (noPlus : ∀ rest, cs ≠ '+' :: rest) :
    exponentParts cs = (false, cs.takeWhile isFigure, cs.dropWhile isFigure) := by
  unfold exponentParts
  split
  next negative body sign =>
    split at sign
    next rest => exact absurd rfl (noMinus rest)
    next rest => exact absurd rfl (noPlus rest)
    next =>
      obtain ⟨rfl, rfl⟩ := Prod.mk.inj sign
      rfl

theorem exponentParts_numberRisky (cs : List Char) :
    exponentParts (numberRisky cs) =
      ((exponentParts cs).1, (exponentParts cs).2.1, numberRisky (exponentParts cs).2.2) := by
  have figures (sign : Bool) (body : List Char) :
      (sign, (numberRisky body).takeWhile isFigure, (numberRisky body).dropWhile isFigure) =
        (sign, body.takeWhile isFigure, numberRisky (body.dropWhile isFigure)) := by
    rw [(figures_numberRisky body).1, (figures_numberRisky body).2]
  by_cases minus : ∃ body, cs = '-' :: body
  · obtain ⟨body, rfl⟩ := minus
    rw [numberRisky_plain (by decide)]
    exact figures true body
  by_cases plus : ∃ body, cs = '+' :: body
  · obtain ⟨body, rfl⟩ := plus
    rw [numberRisky_plain (by decide)]
    exact figures false body
  have noMinus : ∀ rest, cs ≠ '-' :: rest := fun rest same => minus ⟨rest, same⟩
  have noPlus : ∀ rest, cs ≠ '+' :: rest := fun rest same => plus ⟨rest, same⟩
  rw [exponentParts_unsigned noMinus noPlus,
    exponentParts_unsigned (numberRisky_ne_cons (by decide) (by decide) noMinus)
      (numberRisky_ne_cons (by decide) (by decide) noPlus)]
  exact figures false cs

theorem takeExponent_numberRest (parts : NumberParts) :
    takeExponent (numberRest parts) = numberRest (takeExponent parts) := by
  have mark_plain {c : Char} (mark : isExponentMark c = true) : isRisky c = false :=
    isRisky_eq_false isExponentMark (by decide) mark
  have shape : (numberRest parts).rest = numberRisky parts.rest := rfl
  fun_cases takeExponent parts
  case case1 none =>
    unfold takeExponent
    rw [shape, none]
    rfl
  case case2 c rest isRest mark sign left exponent =>
    unfold takeExponent
    rw [shape, isRest, numberRisky_plain (mark_plain mark)]
    simp only [mark, if_true, exponentParts_numberRisky, exponent]
  case case3 c rest isRest mark sign figures left some exponent =>
    unfold takeExponent
    rw [shape, isRest, numberRisky_plain (mark_plain mark)]
    simp only [mark, if_true, exponentParts_numberRisky, exponent, numberRest]
  case case4 c rest isRest noMark =>
    obtain ⟨more, first⟩ := numberRisky_cons c rest
    have noMark : ¬isExponentMark (if isRisky c then '\\' else c) = true := by
      split
      · decide
      · exact noMark
    unfold takeExponent
    rw [shape, isRest, first]
    exact if_neg noMark

theorem takeNumber?_numberRisky (cs : List Char) :
    takeNumber? (numberRisky cs) = (takeNumber? cs).map numberRest := by
  obtain ⟨same, left⟩ := wholeFigures_numberRisky cs
  unfold takeNumber?
  simp only [same, left, takeFraction_numberRisky, takeExponent_numberRest]
  split <;> rfl

/-- Whether a number goes on wrongly depends on the first character behind it alone. -/
theorem continuationFault?_eq_none_iff (parts : NumberParts) :
    continuationFault? parts = none ↔ ∀ c ∈ parts.rest.head?,
      ((c == '.' || isFigure c) && parts.fraction.isNone && parts.exponent.isNone) = false ∧
        (isExponentMark c && parts.exponent.isNone) = false := by
  have wrong (cs : List Char) : ∃ fault, (numberFault cs : Except Fault Unit) = .error fault := by
    cases cs <;> exact ⟨_, rfl⟩
  unfold continuationFault?
  cases isRest : parts.rest with
  | nil => simp
  | cons c rest =>
    obtain ⟨first, isFirst⟩ := wrong rest
    obtain ⟨second, isSecond⟩ := wrong (afterExponentSign rest)
    simp only [isFirst, isSecond, List.head?_cons, Option.mem_some_iff, forall_eq']
    grind

theorem continuationFault?_numberRest {parts : NumberParts}
    (ends : continuationFault? parts = none) : continuationFault? (numberRest parts) = none := by
  rw [continuationFault?_eq_none_iff] at ends ⊢
  intro c first
  cases isRest : parts.rest with
  | nil => simp [numberRest, isRest] at first
  | cons d rest =>
    obtain ⟨more, isFirst⟩ := numberRisky_cons d rest
    rw [numberRest, isRest, isFirst] at first
    obtain rfl := Option.some.inj first
    split
    · exact ⟨rfl, rfl⟩
    · exact ends d (by rw [isRest]; rfl)

theorem readNumber_numberRisky (dialect : Dialect) (negative : Bool) (begun other cs : List Char) :
    Survives (readNumber dialect negative begun cs)
      (readNumber dialect negative other (numberRisky cs)) := by
  have taken := takeNumber?_numberRisky cs
  fun_cases readNumber dialect negative begun cs
  case case2 =>
    unfold numberFault
    split <;> exact Survives.fault _ _
  case case4 parts isNumber _ few =>
    apply Survives.done
    rw [isNumber] at taken
    rw [readNumber, taken]
    exact if_neg few
  case case7 parts isNumber _ few ends =>
    apply Survives.done
    rw [isNumber] at taken
    rw [readNumber, taken]
    simp only [Option.map_some, continuationFault?_numberRest ends]
    exact if_neg few
  all_goals exact Survives.fault _ _

theorem readAtom_numberRisky (dialect : Dialect) (cs : List Char) :
    Survives (readAtom dialect cs) (readAtom dialect (numberRisky cs)) := by
  have infinity {rest : List Char} := readLiteral_numberRisky dialect "Infinity"
    (.float (.infinity true)) (by decide) ('I' :: rest)
  fun_cases readAtom dialect cs
  case case2 => exact readLiteral_numberRisky dialect "null" .null (by decide) _
  case case3 => exact readLiteral_numberRisky dialect "true" (.bool true) (by decide) _
  case case4 => exact readLiteral_numberRisky dialect "false" (.bool false) (by decide) _
  case case5 => exact readLiteral_numberRisky dialect "NaN" (.float .nan) (by decide) _
  case case6 =>
    exact readLiteral_numberRisky dialect "Infinity" (.float (.infinity false)) (by decide) _
  case case7 rest reading read =>
    obtain ⟨value, left⟩ := reading
    apply Survives.done
    have read := infinity _ _ read
    rw [numberRisky_plain (by decide)] at read
    rw [numberRisky_plain (by decide), numberRisky_plain (by decide), readAtom, read]
  case case10 rest noLetter =>
    rw [numberRisky_plain (by decide), readAtom]
    · exact readNumber_numberRisky dialect true _ _ rest
    · exact numberRisky_ne_cons (by decide) (by decide) noLetter
  case case11 c rest _ _ _ _ _ _ _ figure =>
    have plain := figure_plain figure
    rw [numberRisky_plain plain, readAtom_figure dialect figure, ← numberRisky_plain plain]
    exact readNumber_numberRisky dialect false _ _ _
  all_goals exact Survives.fault _ _

/-! ## Documents -/

/-- Whether a list or an object is one too many depends on the depth alone. -/
theorem openingFault?_numberRisky {dialect counted : Dialect} {inObject : Bool} {depth : Nat}
    {cs : List Char} (noFault : openingFault? dialect counted inObject depth cs = none) :
    openingFault? dialect counted inObject depth (numberRisky cs) = none := by
  unfold openingFault? at noFault ⊢
  split at noFault
  next => nomatch noFault
  next fits => rw [if_neg fits]

theorem firstMemberFault?_numberRisky {dialect : Dialect} {depth : Nat} {cs : List Char}
    (noFault : firstMemberFault? dialect depth cs = none) :
    firstMemberFault? dialect depth (numberRisky cs) = none := by
  unfold firstMemberFault? at noFault ⊢
  rw [skipGap_numberRisky]
  split at noFault
  next none =>
    rw [none]
    rfl
  next some =>
    split
    next => rfl
    next => exact openingFault?_numberRisky noFault

theorem readName_numberRisky (dialect : Dialect) (cs : List Char) :
    Survives (readName dialect cs) (readName dialect (numberRisky cs)) := by
  fun_cases readName dialect cs
  case case2 name rest read after opened =>
    apply Survives.done
    have opened : skipGap (numberRisky rest) = ':' :: numberRisky after := by
      rw [skipGap_numberRisky, opened, numberRisky_plain (by decide)]
    exact readName_text (readText_numberRisky dialect cs _ none cs _ _ read) opened
  all_goals exact Survives.fault _ _

/-- With so much fuel, everything that is read is read where risky characters are numbered. -/
structure SurvivesWithin (dialect : Dialect) (fuel : Nat) : Prop where
  value : ∀ {more depth : Nat} {cs : List Char}, fuel ≤ more →
    Survives (readValue dialect fuel depth cs) (readValue dialect more depth (numberRisky cs))
  items : ∀ {more depth : Nat} {cs : List Char}, fuel ≤ more →
    Survives (readItems dialect fuel depth cs) (readItems dialect more depth (numberRisky cs))
  members : ∀ {more depth : Nat} {isFirst : Bool} {cs : List Char}, fuel ≤ more →
    Survives (readMembers dialect fuel depth isFirst cs)
      (readMembers dialect more depth isFirst (numberRisky cs))

section Steps

variable {dialect : Dialect} {fuel more depth : Nat} {cs : List Char}

/-- A sign behind blanks that is not risky stays in its place. -/
theorem skipGap_sign {c : Char} {rest : List Char} (plain : isRisky c = false)
    (opened : skipGap cs = c :: rest) : skipGap (numberRisky cs) = c :: numberRisky rest := by
  rw [skipGap_numberRisky, opened, numberRisky_plain plain]

theorem readValue_numberRisky (within : ∀ less < fuel, SurvivesWithin dialect less)
    (enough : fuel ≤ more) :
    Survives (readValue dialect fuel depth cs)
      (readValue dialect more depth (numberRisky cs)) := by
  fun_cases readValue dialect fuel depth cs
  all_goals try exact Survives.fault _ _
  all_goals obtain ⟨more, rfl⟩ : ∃ less, more = less + 1 := ⟨more - 1, by omega⟩
  case case2 rest text left read opened =>
    apply Survives.done
    rw [readValue, skipGap_sign (by decide) opened]
    simp only [readText_numberRisky dialect rest (numberRisky rest) none rest _ _ read]
  case case6 rest left closed noFault opened =>
    apply Survives.done
    rw [readValue, skipGap_sign (by decide) opened]
    simp only [openingFault?_numberRisky noFault, skipGap_sign (by decide) closed]
  case case8 fuel rest items left noEnd noClose noFault noProjectFault read opened =>
    apply Survives.done
    have read := (within fuel fuel.lt_succ_self).items (Nat.le_of_succ_le_succ enough) _ _ read
    rw [readValue, skipGap_sign (by decide) opened]
    simp only [openingFault?_numberRisky noFault]
    rw [skipGap_numberRisky]
    split
    next none => exact absurd ((numberRisky_eq_nil_iff _).mp none) noEnd
    next closed same =>
      exact absurd same (numberRisky_ne_cons (by decide) (by decide) noClose closed)
    next => simp only [openingFault?_numberRisky noProjectFault, read]
  case case12 rest left closed noFault opened =>
    apply Survives.done
    rw [readValue, skipGap_sign (by decide) opened]
    simp only [openingFault?_numberRisky noFault, skipGap_sign (by decide) closed]
  case case13 fuel rest body quoted members left noFault read opened =>
    apply Survives.done
    have read := (within fuel fuel.lt_succ_self).members (Nat.le_of_succ_le_succ enough) _ _ read
    rw [readValue, skipGap_sign (by decide) opened]
    simp only [openingFault?_numberRisky noFault, skipGap_sign (by decide) quoted, read]
  case case16 fuel noQuote noList noObject =>
    intro value left read
    exact readValue_atom (skipGap_numberRisky cs ▸ readAtom_numberRisky dialect _ _ _ read)

theorem readItems_numberRisky (within : ∀ less < fuel, SurvivesWithin dialect less)
    (enough : fuel ≤ more) :
    Survives (readItems dialect fuel depth cs)
      (readItems dialect more depth (numberRisky cs)) := by
  fun_cases readItems dialect fuel depth cs
  all_goals try exact Survives.fault _ _
  all_goals obtain ⟨more, rfl⟩ : ∃ less, more = less + 1 := ⟨more - 1, by omega⟩
  case case4 fuel item rest left closed read =>
    apply Survives.done
    have read := (within fuel fuel.lt_succ_self).value (Nat.le_of_succ_le_succ enough) _ _ read
    exact readItems_last read (skipGap_sign (by decide) closed)
  case case7 fuel item rest after goesOn items left noEnd noClose others read =>
    apply Survives.done
    have read := (within fuel fuel.lt_succ_self).value (Nat.le_of_succ_le_succ enough) _ _ read
    have others := (within fuel fuel.lt_succ_self).items (Nat.le_of_succ_le_succ enough) _ _ others
    refine readItems_next read (skipGap_sign (by decide) goesOn) ?_ ?_ ?_
    all_goals rw [skipGap_numberRisky]
    · exact fun none => noEnd ((numberRisky_eq_nil_iff _).mp none)
    · exact numberRisky_ne_cons (by decide) (by decide) noClose
    · exact others

theorem readMembers_numberRisky {isFirst : Bool}
    (within : ∀ less < fuel, SurvivesWithin dialect less) (enough : fuel ≤ more) :
    Survives (readMembers dialect fuel depth isFirst cs)
      (readMembers dialect more depth isFirst (numberRisky cs)) := by
  have fits {rest : List Char}
      (noFault : (if isFirst then firstMemberFault? dialect (depth - 1) rest else none) = none) :
      (if isFirst then firstMemberFault? dialect (depth - 1) (numberRisky rest) else none) =
        none := by
    cases isFirst with
    | false => rfl
    | true => exact firstMemberFault?_numberRisky noFault
  fun_cases readMembers dialect fuel depth isFirst cs
  all_goals try exact Survives.fault _ _
  all_goals obtain ⟨more, rfl⟩ : ∃ less, more = less + 1 := ⟨more - 1, by omega⟩
  case case6 fuel name rest item after left closed read noFault named =>
    apply Survives.done
    have read := (within fuel fuel.lt_succ_self).value (Nat.le_of_succ_le_succ enough) _ _ read
    rw [readMembers, readName_numberRisky dialect cs _ _ named]
    simp only [fits noFault, read, skipGap_sign (by decide) closed]
  case case8 fuel name rest item after next goesOn body quoted members left read others noFault
      named =>
    apply Survives.done
    have inside := within fuel fuel.lt_succ_self
    have read := inside.value (Nat.le_of_succ_le_succ enough) _ _ read
    have others := inside.members (Nat.le_of_succ_le_succ enough) _ _ others
    rw [readMembers, readName_numberRisky dialect cs _ _ named]
    simp only [fits noFault, read, skipGap_sign (by decide) goesOn, skipGap_sign (by decide) quoted,
      others]

end Steps

/-- Fuel is spent on what is inside, so there is always less of it. -/
theorem survivesWithin (dialect : Dialect) (fuel : Nat) : SurvivesWithin dialect fuel := by
  induction fuel using Nat.strongRecOn with
  | _ fuel inductionHypothesis =>
    exact ⟨readValue_numberRisky inductionHypothesis, readItems_numberRisky inductionHypothesis,
      readMembers_numberRisky inductionHypothesis⟩

theorem length_le_numberRisky (cs : List Char) : cs.length ≤ (numberRisky cs).length := by
  induction cs with
  | nil => exact Nat.le_refl 0
  | cons c rest inductionHypothesis =>
    cases risky : isRisky c with
    | true =>
      rw [numberRisky_risky risky, List.length_append, numbered, List.length_cons, List.length_cons]
      omega
    | false =>
      rw [numberRisky_plain risky, List.length_cons, List.length_cons]
      omega

/-- Whatever document is read, the same is read where its risky characters are numbered. -/
theorem readCharacters_numberRisky {dialect : Dialect} {cs : List Char} {value : Value}
    (done : readCharacters dialect cs = .ok value) :
    readCharacters dialect (numberRisky cs) = .ok value := by
  have longer := length_le_numberRisky cs
  have survives : Survives (readValue dialect (2 * cs.length + 2) 0 cs)
      (readValue dialect (2 * (numberRisky cs).length + 2) 0 (numberRisky cs)) :=
    (survivesWithin dialect _).value (by omega)
  unfold readCharacters at done ⊢
  split at done
  next => nomatch done
  next noMark =>
    rw [if_neg]
    · split at done
      next => nomatch done
      next result rest read =>
        split at done
        next ends =>
          obtain rfl := Except.ok.inj done
          simp only [survives _ _ read, skipGap_numberRisky, ends, numberRisky_nil]
        next => nomatch done
    · intro marked
      obtain ⟨stored, isMark⟩ := (Bool.and_eq_true _ _).mp marked
      obtain ⟨rest, first⟩ := List.head?_eq_some_iff.mp (eq_of_beq isMark)
      obtain ⟨before, isFirst, _⟩ :=
        (numberRisky_eq_cons_iff (by decide) (by decide) cs rest).mp first
      exact noMark ((Bool.and_eq_true _ _).mpr ⟨stored, by rw [isFirst]; rfl⟩)

end Gamebook.Page
