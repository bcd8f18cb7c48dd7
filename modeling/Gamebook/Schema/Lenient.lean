import Gamebook.Schema.Checked

/-!
# Lenient whole numbers and switches

Some fields accept more than their own type. A whole number may be written as a
truth value, as a floating-point number without a fraction, or as a text of
figures, with a sign, single underscores and a fraction of zeros. A switch may be
written as the number zero or one, or as one of the words for on and off.
-/

namespace Gamebook.Schema

/-- The blanks that are dropped around figures: every blank but the information separators. -/
def isFigureBlank (c : Char) : Bool := Text.isBlank c && !(28 ≤ c.toNat && c.toNat ≤ 31)

/-- Figures without the blanks around them. -/
def trimFigures (cs : List Char) : List Char :=
  ((cs.dropWhile isFigureBlank).reverse.dropWhile isFigureBlank).reverse

/-- Figures of the first 128 characters. -/
def isPlainDigit (c : Char) : Bool := '0' ≤ c && c ≤ '9'

/-- Drops zeros and underscores in front, after a first zero, and keeps the last of them when
nothing but them is there or a point follows. A minus sign may stand behind them. -/
def dropLeadingZeros (last : Char) : List Char → Option (List Char)
  | [] => some [last]
  | c :: rest =>
    if c = '0' || c = '_' then dropLeadingZeros c rest
    else if isPlainDigit c || c = '-' then some (c :: rest)
    else if c = '.' then some (last :: '.' :: rest)
    else none

/-- Figures, which begin with a digit, without needless zeros in front. -/
def withoutLeadingZeros : List Char → Option (List Char)
  | '0' :: rest => dropLeadingZeros '0' rest
  | c :: rest => if isPlainDigit c then some (c :: rest) else none
  | [] => none

/-- Figures without a fraction of zeros. -/
def withoutZeroFraction (cs : List Char) : List Char :=
  match cs.dropWhile (· != '.') with
  | '.' :: places =>
    if !places.isEmpty && places.all (· == '0') then cs.takeWhile (· != '.') else cs
  | _ => cs

/-- Whether two underscores stand side by side. -/
def hasDoubleUnderscore : List Char → Bool
  | '_' :: '_' :: _ => true
  | _ :: rest => hasDoubleUnderscore rest
  | [] => false

/-- Figures without single underscores between them. -/
def withoutUnderscores (cs : List Char) : List Char :=
  if cs.head? == some '_' || cs.getLast? == some '_' || hasDoubleUnderscore cs then cs
  else cs.filter (· != '_')

/-- The value of figures without needless zeros. -/
def figuresNumber? : List Char → Option Nat
  | [] => none
  | ['0'] => some 0
  | '0' :: _ => none
  | cs =>
    if cs.all isPlainDigit then some (cs.foldl (fun n c => 10 * n + (c.toNat - 48)) 0) else none

/-- The whole number that plain figures with a minus sign spell. -/
def signedNumber? : List Char → Option Int
  | '-' :: cs => (figuresNumber? cs).map fun n => -(n : Int)
  | cs => (figuresNumber? cs).map fun n => (n : Int)

/-- The figures of a text without a plus sign and needless zeros. -/
def signedFigures : List Char → Option (List Char)
  | '+' :: rest => withoutLeadingZeros rest
  | '-' :: rest => (withoutLeadingZeros rest).map ('-' :: ·)
  | rest => withoutLeadingZeros rest

/-- The figures of a text after every allowance. -/
def cleanFigures (cs : List Char) : Option (List Char) :=
  (signedFigures cs).map fun cs => withoutUnderscores (withoutZeroFraction cs)

/-- Whether a number with more digits than may be read stands in front, behind a minus sign or
none. -/
def isTooLong (cs : List Char) : Bool :=
  let body := match cs with
    | '-' :: rest => rest
    | rest => rest
  body.head? != some '0' && digitLimit < (body.takeWhile isPlainDigit).length

/-- The whole number that a text spells. -/
def wholeOfText (source : String) : Checked Int :=
  let trimmed := trimFigures source.toList
  let figures := (cleanFigures trimmed).getD trimmed
  if isTooLong figures then Checked.fail .hugeWhole
  else
    match signedNumber? figures with
    | some n => .ok n
    | none => Checked.fail .unreadableWhole

/-- The whole number that a floating-point number is. -/
def wholeOfFloat : Binary64 → Checked Int
  | .finite negative units _ =>
    if units % Binary64.one != 0 then Checked.fail .fractional
    else
      let n := units / Binary64.one
      if n < Nat.pow 2 63 then .ok (Binary64.signed negative n) else Checked.fail .hugeWhole
  | _ => Checked.fail .notFinite

/-- A whole number, leniently. -/
def whole : Value → Checked Int
  | .int n => .ok n
  | .bool b => .ok (Scalar.countOf b)
  | .float x => wholeOfFloat x
  | .text s => wholeText s wholeOfText
  | _ => Checked.fail .notWhole

/-- The words for off and on. -/
def switchWords : List (String × Bool) :=
  [("0", false), ("off", false), ("f", false), ("false", false), ("n", false), ("no", false),
    ("1", true), ("on", true), ("t", true), ("true", true), ("y", true), ("yes", true)]

/-- A switch that a whole number stands for. -/
def switchOfWhole (n : Int) : Checked Bool :=
  if n = 0 then .ok false else if n = 1 then .ok true else Checked.fail .unreadableBool

/-- A switch, leniently. A whole number beyond 64 bits with a sign is none. -/
def switch : Value → Checked Bool
  | .bool b => .ok b
  | .int n => if n < -(Int.pow 2 63) || Int.pow 2 63 ≤ n then Checked.fail .notBool else switchOfWhole n
  | .float x =>
    match wholeOfFloat x with
    | .ok n => switchOfWhole n
    | .error _ => Checked.fail .notBool
  | .text s =>
    wholeText s fun s =>
      match Entries.get? switchWords s.toLower with
      | some b => .ok b
      | none => Checked.fail .unreadableBool
  | _ => Checked.fail .notBool

end Gamebook.Schema
