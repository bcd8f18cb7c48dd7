import Gamebook.Json.Fault
import Gamebook.Number.Scalar

/-!
# Moments of the calendar

A moment is a date and a time of day, exact to the microsecond, with the distance
of its clock from universal time when that is known. Its text has the date, a `T`,
the time, microseconds only when there are any, and the distance. Reading accepts a
date alone, a date with a time, or a count of seconds since the start of 1970;
counts beyond twenty thousand million are milliseconds. Counts reach from the year
zero to the year 9999.
-/

namespace Gamebook

/-- A date, a time of day and the distance from universal time in minutes, if known. -/
structure Moment where
  year : Nat
  month : Nat
  day : Nat
  hour : Nat := 0
  minute : Nat := 0
  second : Nat := 0
  microsecond : Nat := 0
  offset : Option Int := none
  deriving DecidableEq, Repr

namespace Moment

/-- The last digits of a number, as many as asked for. -/
def paddedDigits : Nat → Nat → List Char
  | 0, _ => []
  | width + 1, n => paddedDigits width (n / 10) ++ [Nat.digitChar (n % 10)]

/-- A number in a fixed number of digits. -/
def padded (width n : Nat) : String := String.ofList (paddedDigits width n)

/-- The date and the time of day, without the distance. -/
def localText (m : Moment) : String :=
  padded 4 m.year ++ "-" ++ padded 2 m.month ++ "-" ++ padded 2 m.day ++ "T" ++
    padded 2 m.hour ++ ":" ++ padded 2 m.minute ++ ":" ++ padded 2 m.second ++
    (if m.microsecond = 0 then "" else "." ++ padded 6 m.microsecond)

/-- A distance from universal time with its sign. -/
def offsetText (minutes : Int) : String :=
  (if minutes < 0 then "-" else "+") ++ padded 2 (minutes.natAbs / 60) ++ ":" ++
    padded 2 (minutes.natAbs % 60)

/-- The text of a moment in documents: no distance is written as `Z`. -/
def text (m : Moment) : String :=
  m.localText ++
    match m.offset with
    | none => ""
    | some 0 => "Z"
    | some minutes => offsetText minutes

/-- The text of a moment with every known distance in figures. -/
def offsetStyleText (m : Moment) : String :=
  m.localText ++
    match m.offset with
    | none => ""
    | some minutes => offsetText minutes

/-! ## Reading -/

/-- Why a text or a number is no moment. -/
inductive Fault
  | tooShort
  | badYear
  | badDateSeparator
  | badMonth
  | badDay
  | monthRange
  | dayRange
  | extraCharacters
  | tooEarly
  | tooLate
  | undefined
  | yearZero
  deriving DecidableEq, Repr

/-- The fault in words. -/
def Fault.text : Fault → String
  | .tooShort => "input is too short"
  | .badYear => "invalid character in year"
  | .badDateSeparator => "invalid date separator, expected `-`"
  | .badMonth => "invalid character in month"
  | .badDay => "invalid character in day"
  | .monthRange => "month value is outside expected range of 1-12"
  | .dayRange => "day value is outside expected range"
  | .extraCharacters => "unexpected extra characters at the end of the input"
  | .tooEarly => "dates before 0000 are not supported as unix timestamps"
  | .tooLate => "dates after 9999 are not supported as unix timestamps"
  | .undefined => "NaN values not permitted"
  | .yearZero => "year 0 is out of range"

/-- The figures of dates and counts. -/
def isFigure (c : Char) : Bool := '0' ≤ c && c ≤ '9'

/-- The number that figures spell, if all of them are figures. -/
def figures? (cs : List Char) : Option Nat :=
  if cs.all isFigure then some (cs.foldl (fun n c => 10 * n + (c.toNat - 48)) 0) else none

/-- Whether a year has a twenty-ninth of February. -/
def isLeapYear (year : Nat) : Bool := year % 4 = 0 && (year % 100 != 0 || year % 400 = 0)

/-- The number of days of a month; none for a month that is not there. -/
def daysInMonth? (year month : Nat) : Option Nat :=
  if [1, 3, 5, 7, 8, 10, 12].contains month then some 31
  else if [4, 6, 9, 11].contains month then some 30
  else if month = 2 then some (if isLeapYear year then 29 else 28)
  else none

/-- The fault of a date of less than ten characters that has ten bytes: its first character
beyond the first 128 stands in the place of the year, of a separator, of the month or of the
day, unless something before it is wrong already. -/
def shortFault (cs : List Char) : Fault :=
  if !(cs.take 4).all isFigure || cs.length < 4 then .badYear
  else
    match cs.drop 4 with
    | '-' :: rest =>
      if !(rest.take 2).all isFigure || rest.length < 2 then .badMonth
      else
        match rest.drop 2 with
        | '-' :: _ => .badDay
        | _ => .badDateSeparator
    | _ => .badDateSeparator

/-- Reads a date from the front of a text, with what is left. -/
def readDate : List Char → Except Fault (Moment × List Char)
  | y₁ :: y₂ :: y₃ :: y₄ :: s₁ :: m₁ :: m₂ :: s₂ :: d₁ :: d₂ :: rest =>
    match figures? [y₁, y₂, y₃, y₄] with
    | none => .error .badYear
    | some year =>
      if s₁ != '-' then .error .badDateSeparator
      else
        match figures? [m₁, m₂] with
        | none => .error .badMonth
        | some month =>
          if s₂ != '-' then .error .badDateSeparator
          else
            match figures? [d₁, d₂] with
            | none => .error .badDay
            | some day =>
              match daysInMonth? year month with
              | none => .error .monthRange
              | some last =>
                if day < 1 || last < day then .error .dayRange
                else .ok (⟨year, month, day, 0, 0, 0, 0, none⟩, rest)
  | short => .error (if Json.byteCount short < 10 then .tooShort else shortFault short)

/-- Reads two figures of a part of the time of day that stays below a bound. -/
def readPair? (bound : Nat) : List Char → Option (Nat × List Char)
  | a :: b :: rest =>
    match figures? [a, b] with
    | some n => if n < bound then some (n, rest) else none
    | none => none
  | _ => none

/-- Reads the fraction of a second, cut after six figures. -/
def readFraction? (cs : List Char) : Option (Nat × List Char) :=
  let figures := cs.takeWhile isFigure
  if figures.isEmpty then none
  else
    (figures? ((figures ++ List.replicate 6 '0').take 6)).map (·, cs.drop figures.length)

/-- Reads the seconds of a time of day, which may be left out. -/
def readSeconds? : List Char → Option (Nat × Nat × List Char)
  | ':' :: rest =>
    match readPair? 60 rest with
    | none => none
    | some (second, '.' :: rest) | some (second, ',' :: rest) =>
      (readFraction? rest).map fun (microsecond, rest) => (second, microsecond, rest)
    | some (second, rest) => some (second, 0, rest)
  | rest => some (0, 0, rest)

/-- Reads hours and minutes of a distance, with or without a colon between them. -/
def readDistance? (cs : List Char) : Option (Nat × List Char) :=
  match readPair? 24 cs with
  | none => none
  | some (hours, rest) =>
    let rest :=
      match rest with
      | ':' :: rest => rest
      | rest => rest
    (readPair? 60 rest).map fun (minutes, rest) => (60 * hours + minutes, rest)

/-- Reads the distance from universal time, which may be left out. -/
def readOffset? : List Char → Option (Option Int × List Char)
  | [] => some (none, [])
  | c :: rest =>
    if c = 'Z' || c = 'z' then some (some 0, rest)
    else if c = '+' then (readDistance? rest).map fun (n, rest) => (some (n : Int), rest)
    else if c = '-' || c.toNat = 0x2212 then
      (readDistance? rest).map fun (n, rest) => (some (-(n : Int)), rest)
    else none

/-- Reads a time of day with its distance, to the end of the text. -/
def readTime? (date : Moment) (cs : List Char) : Option Moment :=
  match readPair? 24 cs with
  | some (hour, ':' :: rest) =>
    match readPair? 60 rest with
    | none => none
    | some (minute, rest) =>
      match readSeconds? rest with
      | none => none
      | some (second, microsecond, rest) =>
        match readOffset? rest with
        | some (offset, []) =>
          some { date with
            hour := hour, minute := minute, second := second
            microsecond := microsecond, offset := offset }
        | _ => none
  | _ => none

/-- Reads a date and a time of day between which stands a `T`, an underscore or a space. -/
def readDateTime? (cs : List Char) : Option Moment :=
  match readDate cs with
  | .ok (date, c :: rest) => if ['T', 't', '_', ' '].contains c then readTime? date rest else none
  | _ => none

/-- Reads a date that is the whole text. -/
def readDateOnly (cs : List Char) : Except Fault Moment :=
  match readDate cs with
  | .ok (date, []) => .ok date
  | .ok _ => .error .extraCharacters
  | .error fault => .error fault

/-- The date of a day counted from the start of 1970. Whole cycles of 400 years are taken
first, then the year begins in March so that the leap day comes last. -/
def ofDays (days : Int) : Moment :=
  let shifted := days + 719468
  let era := shifted.fdiv 146097
  let dayOfEra := (shifted - era * 146097).toNat
  let yearOfEra := (dayOfEra - dayOfEra / 1460 + dayOfEra / 36524 - dayOfEra / 146096) / 365
  let dayOfYear := dayOfEra - (365 * yearOfEra + yearOfEra / 4 - yearOfEra / 100)
  let shiftedMonth := (5 * dayOfYear + 2) / 153
  let day := dayOfYear - (153 * shiftedMonth + 2) / 5 + 1
  let month := if shiftedMonth < 10 then shiftedMonth + 3 else shiftedMonth - 9
  let year := (yearOfEra + era * 400 + (if month ≤ 2 then 1 else 0)).toNat
  ⟨year, month, day, 0, 0, 0, 0, some 0⟩

/-- The moment a number of seconds and microseconds after the start of 1970. -/
def ofSeconds (seconds : Int) (microseconds : Nat) : Except Fault Moment :=
  let total := seconds + (microseconds / 1000000 : Nat)
  if total < -62167219200 then .error .tooEarly
  else if 253402300799 < total then .error .tooLate
  else
    let time := (total.fmod 86400).toNat
    .ok { ofDays (total.fdiv 86400) with
      hour := time / 3600, minute := time / 60 % 60, second := time % 60
      microsecond := microseconds % 1000000 }

/-- The moment a number of milliseconds and microseconds after the start of 1970. -/
def ofMillis (millis : Int) (microseconds : Nat) : Except Fault Moment :=
  ofSeconds (millis.fdiv 1000) ((millis.fmod 1000).toNat * 1000 + microseconds)

/-- The greatest count that is one of seconds. -/
def secondsLimit : Nat := 20000000000

/-- The moment a whole count stands for: seconds, or milliseconds when it is large. -/
def ofCount (count : Int) : Except Fault Moment :=
  if secondsLimit < count.natAbs then ofMillis count 0 else ofSeconds count 0

/-- The moment a floating-point count stands for. The part above the whole number below it
gives the microseconds. -/
def ofFloat : Binary64 → Except Fault Moment
  | .nan => .error .undefined
  | .infinity negative => .error (if negative then .tooEarly else .tooLate)
  | .finite negative units _ =>
    let count := Binary64.signed negative units
    let whole := count.fdiv Binary64.one
    let part := roundUnits (count.fmod Binary64.one).toNat 1
    let microseconds (scale : Nat) : Nat :=
      (2 * roundUnits (part * scale) 1 + Binary64.one) / (2 * Binary64.one)
    if secondsLimit * Binary64.one < units then ofMillis whole (microseconds 1000)
    else ofSeconds whole (microseconds 1000000)

/-- Whether a whole count fits into 64 bits with a sign. -/
def isNarrow (count : Int) : Bool := -(Int.pow 2 63) ≤ count && count < Int.pow 2 63

/-- The power of ten behind the places of a count: nothing, or a letter and signed figures. -/
def readPower? : List Char → Option Int
  | [] => some 0
  | c :: rest =>
    let (negative, body) := Numeral.splitSign rest
    if (c = 'e' || c = 'E') && !body.isEmpty then
      (figures? body).map fun n => if negative then -(n : Int) else n
    else none

/-- Reads a count with a point behind its whole figures. Figures may be missing on one side. -/
def readPlaces? (negative : Bool) (whole rest : List Char) : Option Binary64 :=
  let places := rest.takeWhile isFigure
  let digits := (whole ++ places).dropWhile (· == '0')
  if whole.isEmpty && places.isEmpty then none
  else
    match readPower? (rest.dropWhile isFigure), figures? digits with
    | some power, some n =>
      some (Binary64.ofDecimal negative n digits.length (power - places.length))
    | _, _ => none

/-- Reads a text as a count: figures with a sign, and perhaps places behind a point. Whole
figures beyond 63 bits are none. -/
def readCount? (cs : List Char) : Option (Except Fault Moment) :=
  let (negative, body) := Numeral.splitSign cs
  let whole := body.takeWhile isFigure
  match figures? whole, body.dropWhile isFigure with
  | some n, rest =>
    if Nat.pow 2 63 ≤ n then none
    else
      match rest with
      | [] => if whole.isEmpty then none else some (ofCount (if negative then -(n : Int) else n))
      | '.' :: rest => (readPlaces? negative whole rest).map ofFloat
      | _ => none
  | none, _ => none

/-- Reads a text: a date and a time, a count, or a date alone. The fault is that of the date. -/
def read (source : String) : Except Fault Moment :=
  let cs := source.toList
  match readDateTime? cs with
  | some m => .ok m
  | none =>
    match readCount? cs with
    | some (.ok m) => .ok m
    | some (.error fault) => if cs.contains '.' then readDateOnly cs else .error fault
    | none => readDateOnly cs

end Moment

end Gamebook
