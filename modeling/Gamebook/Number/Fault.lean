import Gamebook.Text.Quoted

/-!
# Faults of arithmetic and of numerals

The ways a calculation on numbers, or the passage between a whole number and its
decimal text, can fail. Whole numbers are unbounded, but their decimal texts stop
at 4300 digits in both directions.
-/

namespace Gamebook

/-- Why a number could not be computed, read or written. -/
inductive NumberFault
  /-- A whole number lies beyond every floating-point number. -/
  | beyondFloat
  /-- An infinity has no whole part. -/
  | infiniteWhole
  /-- The undefined number has no whole part. -/
  | undefinedWhole
  /-- A power of finite numbers lies beyond every floating-point number. -/
  | powerRange
  /-- A whole number has more digits than may be written. -/
  | digitsToWrite
  /-- A numeral has more digits than may be read. -/
  | digitsToRead (count : Nat)
  /-- A text spells no whole number. -/
  | notNumeral (text : String)
  deriving DecidableEq, Repr

/-- The most digits a decimal text of a whole number may have. -/
def digitLimit : Nat := 4300

/-- The most characters of a text that a sentence quotes. -/
def quoteLimit : Nat := 200

/-- The fault as a sentence. -/
def NumberFault.message : NumberFault → String
  | .beyondFloat => "int too large to convert to float"
  | .infiniteWhole => "cannot convert float infinity to integer"
  | .undefinedWhole => "cannot convert float NaN to integer"
  | .powerRange => "(34, 'Numerical result out of range')"
  | .digitsToWrite =>
    "Exceeds the limit (4300 digits) for integer string conversion; " ++
      "use sys.set_int_max_str_digits() to increase the limit"
  | .digitsToRead count =>
    "Exceeds the limit (4300 digits) for integer string conversion: value has " ++
      Nat.repr count ++ " digits; use sys.set_int_max_str_digits() to increase the limit"
  | .notNumeral text =>
    "invalid literal for int() with base 10: " ++
      String.ofList ((Text.quoted text).toList.take quoteLimit)

end Gamebook
