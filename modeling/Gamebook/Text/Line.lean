/-!
# Lines

A line ends at a line feed, a carriage return, the two together, or one of the
eight other characters that break lines; the break belongs to no line. A text
that ends in a break has no empty line after it, and the empty text has no lines.
-/

namespace Gamebook.Text

/-- Exactly the characters that end a line. -/
def isLineBreak (c : Char) : Bool :=
  let n := c.toNat
  (10 ≤ n && n ≤ 13) || (28 ≤ n && n ≤ 30) || n == 0x85 || n == 0x2028 || n == 0x2029

/-- Puts a character in front of the first line, which is new when there is none. -/
def extendFirst (c : Char) : List (List Char) → List (List Char)
  | [] => [[c]]
  | line :: others => (c :: line) :: others

/-- The lines of a text in order; a return followed by a feed is one break. -/
def splitLines : List Char → List (List Char)
  | [] => []
  | '\r' :: '\n' :: rest => [] :: splitLines rest
  | c :: rest => if isLineBreak c then [] :: splitLines rest else extendFirst c (splitLines rest)

/-- The lines of a text. -/
def lines (text : String) : List String := (splitLines text.toList).map String.ofList

/-- Reads every return, with or without a feed after it, as a feed. -/
def unifyReturns : List Char → List Char
  | [] => []
  | '\r' :: '\n' :: rest => '\n' :: unifyReturns rest
  | c :: rest => (if c = '\r' then '\n' else c) :: unifyReturns rest

end Gamebook.Text
