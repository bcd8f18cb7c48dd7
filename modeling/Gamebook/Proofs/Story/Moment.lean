import Gamebook.Proofs.Story.Schema
import Gamebook.Proofs.Text.Half
import Gamebook.Story.Document

/-!
# Moments read back

The text of a moment has its date, its time of day and its distance in digits of fixed
width, and is read as the same moment. Microseconds stand in the text only when there are
any, and an unknown distance leaves nothing behind the time of day.
-/

namespace Gamebook.Moment

open Text (Whole whole_nil whole_cons whole_append whole_digits)

/-! ## Digits of fixed width -/

/-- A digit is a figure with its value. -/
theorem figure_digitChar (n : Nat) :
    isFigure (Nat.digitChar (n % 10)) = true ∧ (Nat.digitChar (n % 10)).toNat - 48 = n % 10 := by
  have small : n % 10 < 10 := Nat.mod_lt n (by decide)
  revert small
  generalize n % 10 = digit
  revert digit
  decide

theorem paddedDigits_figures (width n : Nat) : ∀ c ∈ paddedDigits width n, isFigure c = true := by
  induction width generalizing n with
  | zero => exact nofun
  | succ width inductionHypothesis =>
    intro c member
    rcases List.mem_append.mp member with earlier | last
    · exact inductionHypothesis (n / 10) c earlier
    · rw [List.mem_singleton.mp last]
      exact (figure_digitChar n).1

theorem length_paddedDigits (width n : Nat) : (paddedDigits width n).length = width := by
  induction width generalizing n with
  | zero => rfl
  | succ width inductionHypothesis => simp [paddedDigits, inductionHypothesis]

/-- Digits of fixed width spell the number, if it has no more digits. -/
theorem figures?_paddedDigits (width : Nat) {n : Nat} (small : n < Nat.pow 10 width) :
    figures? (paddedDigits width n) = some n := by
  have spelled (width n : Nat) (small : n < Nat.pow 10 width) :
      (paddedDigits width n).foldl (fun n c => 10 * n + (c.toNat - 48)) 0 = n := by
    induction width generalizing n with
    | zero => exact (Nat.lt_one_iff.mp small).symm
    | succ width inductionHypothesis =>
      have fewer : n / 10 < Nat.pow 10 width := Nat.div_lt_of_lt_mul (by
        rw [Nat.mul_comm]
        exact small)
      rw [paddedDigits, List.foldl_append, inductionHypothesis _ fewer, List.foldl_cons,
        List.foldl_nil, (figure_digitChar n).2]
      omega
  rw [figures?, if_pos (List.all_eq_true.mpr (paddedDigits_figures width n)),
    spelled width n small]

/-- Two digits are read as a number below the bound. -/
theorem readPair?_paddedDigits {n : Nat} (bound : Nat) (below : n < bound) (two : bound ≤ 100)
    (rest : List Char) : readPair? bound (paddedDigits 2 n ++ rest) = some (n, rest) := by
  have spelled := figures?_paddedDigits 2 (Nat.lt_of_lt_of_le below two)
  change figures? [Nat.digitChar (n / 10 % 10), Nat.digitChar (n % 10)] = some n at spelled
  change readPair? bound (Nat.digitChar (n / 10 % 10) :: Nat.digitChar (n % 10) :: rest) = _
  rw [readPair?, spelled]
  exact if_pos below

/-! ## Dates -/

/-- Months have two digits, and so have their days. -/
theorem daysInMonth?_bounds {year month last : Nat} (found : daysInMonth? year month = some last) :
    month < 100 ∧ last < 100 := by
  have listed {months : List Nat} (all : months.all (· < 100) = true)
      (member : months.contains month = true) : month < 100 :=
    of_decide_eq_true (List.all_eq_true.mp all month (List.contains_iff_mem.mp member))
  unfold daysInMonth? at found
  split at found
  next long =>
    cases found
    exact ⟨listed rfl long, by decide⟩
  split at found
  next short =>
    cases found
    exact ⟨listed rfl short, by decide⟩
  split at found
  next february =>
    cases found
    refine ⟨by omega, ?_⟩
    split <;> decide
  next => cases found

/-- The characters of a date. -/
def dateCharacters (m : Moment) : List Char :=
  paddedDigits 4 m.year ++ '-' :: (paddedDigits 2 m.month ++ '-' :: paddedDigits 2 m.day)

/-- A date of the calendar is read from its characters. -/
theorem readDate_dateCharacters {m : Moment} (calendar : m.OfCalendar) (rest : List Char) :
    readDate (dateCharacters m ++ rest) = .ok (⟨m.year, m.month, m.day, 0, 0, 0, 0, none⟩, rest) := by
  obtain ⟨last, found, first, atMost⟩ := calendar.day
  obtain ⟨monthBound, lastBound⟩ := daysInMonth?_bounds found
  have year := figures?_paddedDigits 4 (Nat.lt_of_le_of_lt calendar.year.2 (by decide))
  have month := figures?_paddedDigits 2 monthBound
  have day := figures?_paddedDigits 2 (Nat.lt_of_le_of_lt atMost lastBound)
  simp only [paddedDigits, List.nil_append, List.cons_append] at year month day
  simp only [dateCharacters, paddedDigits, List.nil_append, List.cons_append, readDate, year,
    month, day, found]
  simp
  omega

/-! ## Times of day -/

/-- Characters that follow the seconds: the distance or nothing. -/
def EndsTime (rest : List Char) : Prop :=
  ∀ c ∈ rest.head?, isFigure c = false ∧ c ≠ '.' ∧ c ≠ ','

/-- The characters of the seconds of a time of day. -/
def secondCharacters (m : Moment) : List Char :=
  ':' :: (paddedDigits 2 m.second ++
    if m.microsecond = 0 then [] else '.' :: paddedDigits 6 m.microsecond)

theorem readFraction?_paddedDigits {microsecond : Nat} (small : microsecond < 1000000)
    {rest : List Char} (ends : EndsTime rest) :
    readFraction? (paddedDigits 6 microsecond ++ rest) = some (microsecond, rest) := by
  have taken : (paddedDigits 6 microsecond ++ rest).takeWhile isFigure =
      paddedDigits 6 microsecond := by
    rw [List.takeWhile_append_of_pos (paddedDigits_figures 6 microsecond)]
    cases rest with
    | nil => simp
    | cons c cs => simp [(ends c rfl).1]
  have length := length_paddedDigits 6 microsecond
  have six : (paddedDigits 6 microsecond ++ List.replicate 6 '0').take 6 =
      paddedDigits 6 microsecond := List.take_left' length
  have left : (paddedDigits 6 microsecond ++ rest).drop 6 = rest := List.drop_left' length
  unfold readFraction?
  rw [taken]
  dsimp only
  rw [six, figures?_paddedDigits 6 small, length, left]
  rfl

theorem readSeconds?_secondCharacters {m : Moment} (second : m.second < 60)
    (microsecond : m.microsecond < 1000000) {rest : List Char} (ends : EndsTime rest) :
    readSeconds? (secondCharacters m ++ rest) = some (m.second, m.microsecond, rest) := by
  unfold secondCharacters
  split
  next zero =>
    rw [List.append_nil, List.cons_append, readSeconds?,
      readPair?_paddedDigits 60 second (by decide)]
    cases rest with
    | nil => simp [zero]
    | cons c cs =>
      obtain ⟨-, noPoint, noComma⟩ := ends c rfl
      simp [noPoint, noComma, zero]
  next some =>
    rw [List.cons_append, List.append_assoc, readSeconds?,
      readPair?_paddedDigits 60 second (by decide)]
    simp [readFraction?_paddedDigits microsecond ends]

/-- The characters of a distance from universal time. -/
def offsetCharacters : Option Int → List Char
  | none => []
  | some 0 => ['Z']
  | some minutes =>
    (if minutes < 0 then '-' else '+') ::
      (paddedDigits 2 (minutes.natAbs / 60) ++ ':' :: paddedDigits 2 (minutes.natAbs % 60))

theorem endsTime_offsetCharacters (offset : Option Int) : EndsTime (offsetCharacters offset) := by
  unfold offsetCharacters
  intro c first
  split at first
  next => cases first
  next =>
    obtain rfl := Option.some.inj first
    decide
  next =>
    obtain rfl := Option.some.inj first
    split <;> decide

theorem readOffset?_minus {cs rest : List Char} {n : Nat}
    (distance : readDistance? cs = some (n, rest)) :
    readOffset? ('-' :: cs) = some (some (-(n : Int)), rest) := by
  change (readDistance? cs).map _ = _
  rw [distance]
  rfl

theorem readOffset?_plus {cs rest : List Char} {n : Nat}
    (distance : readDistance? cs = some (n, rest)) :
    readOffset? ('+' :: cs) = some (some (n : Int), rest) := by
  change (readDistance? cs).map _ = _
  rw [distance]
  rfl

/-- A distance of less than a day is read from its characters. -/
theorem readOffset?_offsetCharacters {offset : Option Int}
    (near : ∀ minutes, offset = some minutes → minutes.natAbs < 1440) :
    readOffset? (offsetCharacters offset) = some (offset, []) := by
  unfold offsetCharacters
  split
  next => rfl
  next => rfl
  next minutes nonzero =>
    have bound := near minutes rfl
    have hours := readPair?_paddedDigits (n := minutes.natAbs / 60) 24 (by omega)
      (by decide) (':' :: paddedDigits 2 (minutes.natAbs % 60))
    have rest := readPair?_paddedDigits (n := minutes.natAbs % 60) 60 (by omega)
      (by decide) []
    have distance : readDistance? (paddedDigits 2 (minutes.natAbs / 60) ++
        ':' :: paddedDigits 2 (minutes.natAbs % 60)) = some (minutes.natAbs, []) := by
      rw [List.append_nil] at rest
      unfold readDistance?
      rw [hours]
      simp only [rest, Option.map_some]
      congr 2
      omega
    by_cases negative : minutes < 0
    · have size : -(minutes.natAbs : Int) = minutes := by omega
      rw [if_pos negative, readOffset?_minus distance, size]
    · have size : (minutes.natAbs : Int) = minutes := by omega
      rw [if_neg negative, readOffset?_plus distance, size]

/-! ## Texts -/

theorem toList_localText (m : Moment) :
    m.localText.toList = dateCharacters m ++ 'T' :: (paddedDigits 2 m.hour ++ ':' ::
      (paddedDigits 2 m.minute ++ secondCharacters m)) := by
  by_cases zero : m.microsecond = 0 <;>
    simp [localText, dateCharacters, secondCharacters, padded, zero]

theorem toList_offsetText (minutes : Int) :
    (offsetText minutes).toList = (if minutes < 0 then '-' else '+') ::
      (paddedDigits 2 (minutes.natAbs / 60) ++ ':' :: paddedDigits 2 (minutes.natAbs % 60)) := by
  by_cases negative : minutes < 0 <;> simp [offsetText, padded, negative]

theorem toList_text (m : Moment) :
    m.text.toList = m.localText.toList ++ offsetCharacters m.offset := by
  unfold text
  rw [String.toList_append]
  congr 1
  split
  next unknown =>
    rw [unknown]
    rfl
  next zero =>
    rw [zero]
    rfl
  next minutes nonzero known =>
    rw [known, toList_offsetText, offsetCharacters]
    exact nonzero

/-- A moment of the calendar is read from its text. -/
theorem read_text {m : Moment} (calendar : m.OfCalendar) : read m.text = .ok m := by
  obtain ⟨hour, minute, second, microsecond⟩ := calendar.time
  have date := readDate_dateCharacters calendar ('T' :: (paddedDigits 2 m.hour ++ ':' ::
    (paddedDigits 2 m.minute ++ (secondCharacters m ++ offsetCharacters m.offset))))
  have characters : m.text.toList = dateCharacters m ++ 'T' :: (paddedDigits 2 m.hour ++ ':' ::
      (paddedDigits 2 m.minute ++ (secondCharacters m ++ offsetCharacters m.offset))) := by
    rw [toList_text, toList_localText]
    simp only [List.append_assoc, List.cons_append]
  have read : readDateTime? m.text.toList = some m := by
    unfold readDateTime?
    rw [characters, date]
    simp only [readTime?, readPair?_paddedDigits 24 hour (by decide),
      readPair?_paddedDigits 60 minute (by decide),
      readSeconds?_secondCharacters second microsecond (endsTime_offsetCharacters m.offset),
      readOffset?_offsetCharacters calendar.offset]
    rfl
  unfold Moment.read
  dsimp only
  rw [read]

/-! ## Documents -/

theorem whole_paddedDigits (width n : Nat) : Whole (paddedDigits width n) :=
  whole_digits (paddedDigits_figures width n)

theorem whole_localText (m : Moment) : Whole m.localText.toList := by
  have date : Whole (dateCharacters m) :=
    whole_append (whole_paddedDigits 4 _) (whole_cons rfl (whole_append (whole_paddedDigits 2 _)
      (whole_cons rfl (whole_paddedDigits 2 _))))
  have seconds : Whole (secondCharacters m) := by
    refine whole_cons rfl (whole_append (whole_paddedDigits 2 _) ?_)
    split
    · exact whole_nil
    · exact whole_cons rfl (whole_paddedDigits 6 _)
  rw [toList_localText]
  exact whole_append date (whole_cons rfl (whole_append (whole_paddedDigits 2 _)
    (whole_cons rfl (whole_append (whole_paddedDigits 2 _) seconds))))

theorem whole_offsetText (minutes : Int) : Whole (offsetText minutes).toList := by
  rw [toList_offsetText]
  refine whole_cons ?_ (whole_append (whole_paddedDigits 2 _)
    (whole_cons rfl (whole_paddedDigits 2 _)))
  split <;> rfl

/-- The text of a moment has no halves. -/
theorem whole_text (m : Moment) : Text.holdsHalf m.text = false := by
  rw [Text.holdsHalf_eq_false_iff, text, String.toList_append]
  refine whole_append (whole_localText m) ?_
  split
  next => exact whole_nil
  next => exact whole_cons rfl whole_nil
  next => exact whole_offsetText _

/-- The text of a moment with every known distance in figures has no halves. -/
theorem whole_offsetStyleText (m : Moment) : Text.holdsHalf m.offsetStyleText = false := by
  rw [Text.holdsHalf_eq_false_iff, offsetStyleText, String.toList_append]
  refine whole_append (whole_localText m) ?_
  split
  next => exact whole_nil
  next => exact whole_offsetText _

/-- A moment of the calendar is read from its document. -/
theorem ofValue_text {m : Moment} (calendar : m.OfCalendar) :
    Moment.ofValue (.text m.text) = .ok m := by
  have year : m.year ≠ 0 := Nat.ne_of_gt calendar.year.1
  simp [Moment.ofValue, Schema.wholeText, whole_text, read_text calendar, Moment.ofReading,
    Except.bind, Moment.numbered, year]

end Gamebook.Moment
