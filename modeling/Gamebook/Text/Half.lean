/-!
# Half characters

A document can name a character beyond the first 65536 by a pair of numbers, and a
number of such a pair may stand alone. A half is no character: it is in no alphabet
and has no encoding. A text carries it by a character of the last private plane,
which stands for nothing else, so counting and comparing texts needs no rule for
halves, while showing and encoding them does.
-/

namespace Gamebook.Text

/-- The first halves of pairs. -/
def isFirstHalf (n : Nat) : Bool := 0xD800 ≤ n && n < 0xDC00

/-- The second halves of pairs. -/
def isSecondHalf (n : Nat) : Bool := 0xDC00 ≤ n && n < 0xE000

/-- The number of the character of a pair of halves. -/
def pairNumber (first second : Nat) : Nat := 0x10000 + (first - 0xD800) * 0x400 + (second - 0xDC00)

/-- The number of the character that carries the first half; the others follow it. -/
def halfPlace : Nat := 0x10F000

/-- The character with a number, or the one that carries the half with it. -/
def numbered (n : Nat) : Char :=
  if isFirstHalf n || isSecondHalf n then Char.ofNat (halfPlace + (n - 0xD800)) else Char.ofNat n

/-- The number of the half that a character carries. -/
def half? (c : Char) : Option Nat :=
  if halfPlace ≤ c.toNat && c.toNat < halfPlace + 0x800 then some (c.toNat - halfPlace + 0xD800)
  else none

/-- Whether a character carries a half. -/
def isHalf (c : Char) : Bool := (half? c).isSome

/-- The number of a character, or that of the half it carries. -/
def number (c : Char) : Nat := (half? c).getD c.toNat

/-- Whether a character carries one of the halves that stand for a byte without a character in
the name of a file. -/
def isByteHalf (c : Char) : Bool := (half? c).any fun n => 0xDC80 ≤ n && n < 0xDD00

/-- Whether a text carries a half. -/
def holdsHalf (text : String) : Bool := text.toList.any isHalf

/-- A text in which three replacement characters, one for each byte that an encoding would
take, stand for every half. -/
def withoutHalves (text : String) : String :=
  String.ofList (text.toList.flatMap fun c =>
    if isHalf c then List.replicate 3 '\ufffd' else [c])

end Gamebook.Text
