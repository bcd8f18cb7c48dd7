import Gamebook.Number.Fault
import Gamebook.Text.Blank
import Gamebook.Text.Digit

/-!
# Decimal numerals of whole numbers

Writing gives the shortest decimal text, with a minus sign for a negative number.
Reading accepts outer blanks, one sign, digits of any script, and single
underscores between digits. Both refuse more digits than the limit.
-/

namespace Gamebook.Numeral

/-- The decimal text of a whole number of any length. -/
def text : Int → String
  | .ofNat n => Nat.repr n
  | .negSucc n => "-" ++ Nat.repr (n + 1)

/-- Whether a whole number has few enough digits to be written. -/
def isWritable (n : Int) : Bool := n.natAbs < Nat.pow 10 digitLimit

/-- The decimal text of a whole number that has few enough digits. -/
def write (n : Int) : Except NumberFault String :=
  if isWritable n then .ok (text n) else .error .digitsToWrite

/-- The number that a row of digit values spells, first digit first. -/
def ofDigits (digits : List Nat) : Nat := digits.foldl (fun n digit => 10 * n + digit) 0

/-- The digit values at the front of a numeral body, with at most one underscore between
neighbours, and what is left behind them; none when an underscore stands elsewhere. -/
def takeDigits? : List Char → Option (List Nat × List Char)
  | [] => some ([], [])
  | '_' :: _ => none
  | c :: rest =>
    match Text.digitValue? c, rest with
    | none, rest => some ([], c :: rest)
    | some digit, '_' :: d :: rest =>
      if (Text.digitValue? d).isSome then
        (takeDigits? (d :: rest)).map fun (digits, left) => (digit :: digits, left)
      else none
    | some _, ['_'] => none
    | some digit, rest => (takeDigits? rest).map fun (digits, left) => (digit :: digits, left)

/-- The sign and the body of a numeral. -/
def splitSign : List Char → Bool × List Char
  | '-' :: body => (true, body)
  | '+' :: body => (false, body)
  | body => (false, body)

/-- The whole number that a text spells. Too many digits at the front are a fault whatever
follows them. -/
def read (source : String) : Except NumberFault Int :=
  let (negative, body) := splitSign (Text.trimBlanks source.toList)
  match takeDigits? body with
  | none | some ([], _) => .error (.notNumeral source)
  | some (digits, rest) =>
    if digitLimit < digits.length then .error (.digitsToRead digits.length)
    else if !rest.isEmpty then .error (.notNumeral source)
    else if negative then .ok (-(ofDigits digits : Int))
    else .ok (ofDigits digits)

end Gamebook.Numeral
