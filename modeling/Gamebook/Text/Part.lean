/-!
# Parts between marks

A text falls into the parts between the occurrences of one character. Empty parts
count, so there is always one part more than there are marks, and the parts with
the mark between neighbours give the text again.
-/

namespace Gamebook.Text

/-- The parts between the marks, empty ones included. -/
def parts (mark : Char) : List Char → List (List Char)
  | [] => [[]]
  | c :: rest =>
    if c = mark then [] :: parts mark rest
    else
      match parts mark rest with
      | [] => [[c]]
      | part :: others => (c :: part) :: others

/-- The parts of a text between the marks, empty ones included. -/
def split (mark : Char) (text : String) : List String :=
  (parts mark text.toList).map String.ofList

end Gamebook.Text
