/-!
# Blanks and trimming

A blank is a character that leaves no mark: the controls that move the carriage,
the four information separators, and every space of the character standard.
Trimming drops blanks from both ends and nothing else. The words of a text are
its longest runs without a blank, in order, so joining them again with one space
each is the collapsed form of the text.
-/

namespace Gamebook.Text

/-- Exactly the blank characters. -/
def isBlank (c : Char) : Bool :=
  let n := c.toNat
  (9 ≤ n && n ≤ 13) || (28 ≤ n && n ≤ 32) || n == 0x85 || n == 0xA0 || n == 0x1680 ||
    (0x2000 ≤ n && n ≤ 0x200A) || n == 0x2028 || n == 0x2029 || n == 0x202F ||
    n == 0x205F || n == 0x3000

/-- Drops the longest blank run at the front. -/
def dropBlanks (cs : List Char) : List Char := cs.dropWhile isBlank

/-- Drops the longest blank run at the end. -/
def dropTrailingBlanks (cs : List Char) : List Char := (dropBlanks cs.reverse).reverse

/-- Drops the blank runs at both ends; blanks inside stay. -/
def trimBlanks (cs : List Char) : List Char := dropTrailingBlanks (dropBlanks cs)

/-- A text without its outer blanks. -/
def trim (text : String) : String := String.ofList (trimBlanks text.toList)

/-- Whether a text has no character but blanks. -/
def isAllBlank (text : String) : Bool := text.toList.all isBlank

/-- The longest runs without a blank, in order. A blank ends the run before it. -/
def words : List Char → List (List Char)
  | [] => []
  | c :: rest =>
    if isBlank c then words rest
    else
      match rest, words rest with
      | d :: _, word :: others => if isBlank d then [c] :: word :: others else (c :: word) :: others
      | _, others => [c] :: others

/-- The words of a text with one space between neighbours. -/
def collapse (text : String) : String :=
  String.intercalate " " ((words text.toList).map String.ofList)

end Gamebook.Text
