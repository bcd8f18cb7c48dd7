import Gamebook.Number.Binary64
import Gamebook.Number.Numeral

/-!
# Decimal texts of floating-point numbers

The text of a number has the fewest significant digits that read back as that
number, and of those the nearest to it. For one digit, two digits and so on, the
two neighbours of the number on that decimal grid are read back; the first grid
with a hit wins. Powers of ten from -4 up to 15 are written positionally, others
with an exponent of at least two digits. A fixed number of places is the nearest
such decimal, a tie going to the even digit.
-/

namespace Gamebook.Decimal

open Binary64 (one)

/-- Ten to a power that may be negative, as a quotient. -/
def powerOfTen (exponent : Int) : Nat × Nat :=
  if 0 ≤ exponent then (Nat.pow 10 exponent.toNat, 1) else (1, Nat.pow 10 (-exponent).toNat)

/-- The power of ten of the leading digit of a positive magnitude. -/
def leadingPower (units : Nat) : Int :=
  ((Nat.toDigits 10 (units * Nat.pow 10 330 / one)).length : Int) - 331

/-- Whether a multiple of a power of ten is read as the given magnitude. -/
def readsBack (units multiple : Nat) (exponent : Int) : Bool :=
  roundUnits (multiple * (powerOfTen exponent).1 * one) (powerOfTen exponent).2 == units

/-- The better neighbour of a magnitude on the grid of a power of ten, if one reads back. -/
def neighbour? (units : Nat) (exponent : Int) : Option Nat :=
  let scaled := units * (powerOfTen exponent).2
  let grid := one * (powerOfTen exponent).1
  let below := scaled / grid
  let above := below + 1
  if readsBack units below exponent then
    some (if readsBack units above exponent then roundQuotient scaled grid else below)
  else if readsBack units above exponent then some above
  else none

/-- The better neighbour on the grid with so many significant digits, and its power of ten. -/
def onGrid (units : Nat) (leading : Int) (digits : Nat) : Nat × Int :=
  ((neighbour? units (leading - digits + 1)).getD 0, leading - digits + 1)

/-- Tries ever finer grids: first the given number of digits, then one more at a time. -/
def shortestFrom (units : Nat) (leading : Int) : Nat → Nat → Nat × Int
  | digits, 0 => onGrid units leading digits
  | digits, more + 1 =>
    if (neighbour? units (leading - digits + 1)).isSome then onGrid units leading digits
    else shortestFrom units leading (digits + 1) more

/-- The shortest multiple of a power of ten that reads back as a positive magnitude. -/
def shortest (units : Nat) : Nat × Int := shortestFrom units (leadingPower units) 1 16

/-- A row of digits without the zeros at its end. -/
def dropTrailingZeros (digits : List Char) : List Char :=
  (digits.reverse.dropWhile (· == '0')).reverse

/-- The text of digits whose first one has the given power of ten. -/
def layout (digits : List Char) (leading : Int) : String :=
  let count : Int := digits.length
  if -4 ≤ leading && leading < 16 then
    if leading < 0 then
      "0." ++ String.ofList (List.replicate (-leading - 1).toNat '0' ++ digits)
    else if count ≤ leading + 1 then
      String.ofList (digits ++ List.replicate (leading + 1 - count).toNat '0') ++ ".0"
    else
      String.ofList (digits.take (leading + 1).toNat) ++ "." ++
        String.ofList (digits.drop (leading + 1).toNat)
  else
    let fraction := if count ≤ 1 then "" else "." ++ String.ofList (digits.drop 1)
    let size := Nat.repr leading.natAbs
    String.ofList (digits.take 1) ++ fraction ++ "e" ++ (if leading < 0 then "-" else "+") ++
      (if size.length < 2 then "0" ++ size else size)

/-- The text of a magnitude. -/
def magnitudeText (units : Nat) : String :=
  if units = 0 then "0.0"
  else
    let (multiple, exponent) := shortest units
    let digits := Nat.toDigits 10 multiple
    layout (dropTrailingZeros digits) (exponent + digits.length - 1)

/-- The shortest text that reads back as the number. -/
def text : Binary64 → String
  | .nan => "nan"
  | .infinity negative => if negative then "-inf" else "inf"
  | .finite negative units _ => (if negative then "-" else "") ++ magnitudeText units

/-- The nearest whole number of hundredths. -/
def hundredths (units : Nat) : Nat := roundQuotient (units * 100) one

/-- A finite number rounded to two places; other numbers stay. -/
def roundToHundredths : Binary64 → Binary64
  | .finite negative units _ => Binary64.ofQuotient negative (hundredths units * one) 100
  | other => other

/-- A number with exactly two places. -/
def twoPlaces : Binary64 → String
  | .finite negative units _ =>
    let n := hundredths units
    (if negative then "-" else "") ++ Nat.repr (n / 100) ++ "." ++
      String.ofList [Nat.digitChar (n / 10 % 10), Nat.digitChar (n % 10)]
  | other => text other

end Gamebook.Decimal
