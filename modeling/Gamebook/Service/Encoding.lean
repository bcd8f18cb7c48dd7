import Gamebook.Text.Half

/-!
# Encodings of bodies

A document begins with two plain characters, unless it is a single one, so the zero
bytes among the first four tell whether it is written in units of one, two or four
bytes and which byte of a unit comes first. A body in units of one byte is the text
it came as, without a byte order mark. In wider units a half is read as itself; a
unit that is not complete or no character makes the body unreadable.
-/

namespace Gamebook.Service

/-- How the characters of a body are written. -/
inductive Encoding
  | bytes
  /-- Units of two bytes, a pair of units for a character that needs it. -/
  | pairs (isHighFirst : Bool)
  /-- Units of four bytes. -/
  | quads (isHighFirst : Bool)
  deriving DecidableEq, Repr

/-- The encoding that the first bytes of a body show. -/
def encodingOf : List UInt8 → Encoding
  | a :: b :: c :: d :: _ =>
    if a = 0 then (if b = 0 then .quads true else .pairs true)
    else if b = 0 then (if c = 0 && d = 0 then .quads false else .pairs false)
    else .bytes
  | [a, b] => if a = 0 then .pairs true else if b = 0 then .pairs false else .bytes
  | _ => .bytes

/-- The number that the bytes of a unit spell. -/
def unitNumber (isHighFirst : Bool) (unit : List UInt8) : Nat :=
  (if isHighFirst then unit else unit.reverse).foldl (fun n byte => 256 * n + byte.toNat) 0

/-- The units of two bytes; none when a byte is left. -/
def pairUnits (isHighFirst : Bool) : List UInt8 → Option (List Nat)
  | [] => some []
  | a :: b :: rest => (pairUnits isHighFirst rest).map (unitNumber isHighFirst [a, b] :: ·)
  | _ => none

/-- The units of four bytes; none when bytes are left. -/
def quadUnits (isHighFirst : Bool) : List UInt8 → Option (List Nat)
  | [] => some []
  | a :: b :: c :: d :: rest =>
    (quadUnits isHighFirst rest).map (unitNumber isHighFirst [a, b, c, d] :: ·)
  | _ => none

/-- The characters of units of two bytes. Two halves that belong together are one character. -/
def joinPairs : List Nat → List Char
  | [] => []
  | [n] => [Text.numbered n]
  | first :: second :: rest =>
    if Text.isFirstHalf first && Text.isSecondHalf second then
      Char.ofNat (Text.pairNumber first second) :: joinPairs rest
    else Text.numbered first :: joinPairs (second :: rest)

/-- The character of a unit of four bytes, if it has one. -/
def quadCharacter? (n : Nat) : Option Char :=
  if n < 0x110000 then some (Text.numbered n) else none

/-- The characters that bytes in wider units are. -/
def decodeUnits (bytes : List UInt8) : Encoding → Option (List Char)
  | .bytes => none
  | .pairs isHighFirst => (pairUnits isHighFirst bytes).map joinPairs
  | .quads isHighFirst => (quadUnits isHighFirst bytes).bind (·.mapM quadCharacter?)

/-- The characters of a text without a byte order mark. -/
def withoutMark : List Char → List Char
  | [] => []
  | c :: rest => if c.toNat = 0xFEFF then rest else c :: rest

/-- The characters of a body. -/
def bodyCharacters? (body : String) : Option (List Char) :=
  let bytes := body.toUTF8.toList
  match encodingOf bytes with
  | .bytes => some (withoutMark body.toList)
  | wide => decodeUnits bytes wide

end Gamebook.Service
