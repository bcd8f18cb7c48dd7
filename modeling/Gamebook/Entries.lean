import Gamebook.Text.Half

/-!
# Entries in order of first writing

A finite map from texts to values that remembers the order in which keys were
first written. Writing a key again keeps its place, erasing closes the gap, and a
lookup finds the first entry of its key.
-/

namespace Gamebook

/-- Pairs of a key and a value in order of first writing. -/
abbrev Entries (α : Type) := List (String × α)

namespace Entries

variable {α β : Type}

/-- The value of a key. -/
def get? : Entries α → String → Option α
  | [], _ => none
  | (k, v) :: rest, key => if k = key then some v else get? rest key

/-- The value that was written last among pairs in which a key may come more than once. -/
def last? (pairs : Entries α) (key : String) : Option α := get? pairs.reverse key

/-- Whether a key has a value. -/
def has (entries : Entries α) (key : String) : Bool := (entries.get? key).isSome

/-- Gives a key a value: in its place when it has one already, otherwise at the end. -/
def put (key : String) (value : α) : Entries α → Entries α
  | [] => [(key, value)]
  | (k, v) :: rest => if k = key then (k, value) :: rest else (k, v) :: put key value rest

/-- The entries without a key. -/
def erase (entries : Entries α) (key : String) : Entries α :=
  entries.filter fun (k, _) => k != key

/-- The keys in order. -/
def keys (entries : Entries α) : List String := entries.map (·.1)

/-- The entries that writing pairs one after the other gives. -/
def ofPairs (pairs : List (String × α)) : Entries α :=
  pairs.foldl (fun entries (key, value) => entries.put key value) []

end Entries

/-- Whether one text stands before or at another in the order of character numbers. -/
def textAtMost (a b : String) : Bool :=
  !decide (b.toList.map Text.number < a.toList.map Text.number)

/-- A list of texts in the order of character numbers. -/
def sortTexts (texts : List String) : List String := texts.mergeSort textAtMost

/-- The different texts of a list in the order of character numbers. -/
def sortedSet (texts : List String) : List String := sortTexts texts.eraseDups

end Gamebook
