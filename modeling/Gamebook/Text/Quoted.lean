import Gamebook.Text.Half
import Gamebook.Text.Printable

/-!
# Quoted texts

A message that names an arbitrary text quotes it so that its ends and its
invisible characters can be seen. Single quotes stand around it unless the text
holds a single quote and no double quote. The quote in use and the backslash are
escaped, the three common controls have letters, and any other character that
would not show is written by its number in two, four or eight hexadecimal digits,
as is half a character.
-/

namespace Gamebook.Text

/-- The last hexadecimal digits of a number, as many as asked for, lower case. -/
def hexDigits (width n : Nat) : List Char :=
  match width with
  | 0 => []
  | width + 1 => hexDigits width (n / 16) ++ [Nat.digitChar (n % 16)]

/-- One character inside quotes of the given kind. -/
def quotedCharacter (quote c : Char) : List Char :=
  if c = quote || c = '\\' then ['\\', c]
  else if c = '\n' then ['\\', 'n']
  else if c = '\r' then ['\\', 'r']
  else if c = '\t' then ['\\', 't']
  else if isPrintable c then [c]
  else
    let n := (half? c).getD c.toNat
    if n < 0x100 then '\\' :: 'x' :: hexDigits 2 n
    else if n < 0x10000 then '\\' :: 'u' :: hexDigits 4 n
    else '\\' :: 'U' :: hexDigits 8 n

/-- The quote that a text gets: double only when that saves escaping. -/
def quoteFor (cs : List Char) : Char :=
  if cs.contains '\'' && !cs.contains '"' then '"' else '\''

/-- A text between quotes with everything inside visible. -/
def quoted (text : String) : String :=
  let cs := text.toList
  let quote := quoteFor cs
  String.ofList (quote :: cs.flatMap (quotedCharacter quote) ++ [quote])

end Gamebook.Text
