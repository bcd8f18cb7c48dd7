import Gamebook.Text.Quoted

/-!
# Texts as bytes

Bytes are text when they are a sequence of well-formed encodings, each in its
shortest form and none of half a character. Where they are not, the fault names the
longest run of bytes that begins a well-formed encoding without completing it,
or the single byte that can begin none. A text has an encoding unless it carries a
half; the fault names the first run of them.
-/

namespace Gamebook.Text

/-! ## Reading -/

/-- Why a run of bytes is no encoding. -/
inductive EncodingDefect
  | startByte
  | continuationByte
  | endOfData
  deriving DecidableEq, Repr

/-- The first run of bytes that is no encoding: where it begins, its bytes, and why. -/
structure EncodingFault where
  position : Nat
  bytes : List UInt8
  defect : EncodingDefect
  deriving DecidableEq, Repr

/-- What is wrong with the run, in words. -/
def EncodingDefect.text : EncodingDefect → String
  | .startByte => "invalid start byte"
  | .continuationByte => "invalid continuation byte"
  | .endOfData => "unexpected end of data"

/-- The fault as a sentence. One byte is shown with its value, several by their places. -/
def EncodingFault.message (fault : EncodingFault) : String :=
  let place :=
    match fault.bytes with
    | [byte] => "byte 0x" ++ String.ofList (hexDigits 2 byte.toNat) ++ " in position " ++
        Nat.repr fault.position
    | bytes => "bytes in position " ++ Nat.repr fault.position ++ "-" ++
        Nat.repr (fault.position + bytes.length - 1)
  "'utf-8' codec can't decode " ++ place ++ ": " ++ fault.defect.text

/-- The bounds of each byte that may follow a first byte, in order, and the bits that
the first byte contributes; none for a byte that begins no encoding. -/
def continuationBounds (byte : UInt8) : Option (Nat × List (Nat × Nat)) :=
  let n := byte.toNat
  if n < 0x80 then some (n, [])
  else if n < 0xC2 then none
  else if n < 0xE0 then some (n - 0xC0, [(0x80, 0xBF)])
  else if n = 0xE0 then some (0, [(0xA0, 0xBF), (0x80, 0xBF)])
  else if n = 0xED then some (0xD, [(0x80, 0x9F), (0x80, 0xBF)])
  else if n < 0xF0 then some (n - 0xE0, [(0x80, 0xBF), (0x80, 0xBF)])
  else if n = 0xF0 then some (0, [(0x90, 0xBF), (0x80, 0xBF), (0x80, 0xBF)])
  else if n < 0xF4 then some (n - 0xF0, [(0x80, 0xBF), (0x80, 0xBF), (0x80, 0xBF)])
  else if n = 0xF4 then some (4, [(0x80, 0x8F), (0x80, 0xBF), (0x80, 0xBF)])
  else none

/-- Takes the bytes that the bounds ask for. Gives the value so far and the bytes taken,
with the defect that stopped it, if any. -/
def takeContinuation (value : Nat) :
    List (Nat × Nat) → List UInt8 → Nat × List UInt8 × Option EncodingDefect
  | [], _ => (value, [], none)
  | _ :: _, [] => (value, [], some .endOfData)
  | (low, high) :: bounds, byte :: rest =>
    if low ≤ byte.toNat && byte.toNat ≤ high then
      let (total, taken, defect) := takeContinuation (value * 64 + byte.toNat % 64) bounds rest
      (total, byte :: taken, defect)
    else (value, [], some .continuationByte)

/-- Decodes from a position on. Bytes that the previous character used are skipped. -/
def decodeFrom (position skip : Nat) : List UInt8 → Except EncodingFault (List Char)
  | [] => .ok []
  | byte :: rest =>
    match skip with
    | skip + 1 => decodeFrom (position + 1) skip rest
    | 0 =>
      match continuationBounds byte with
      | none => .error ⟨position, [byte], .startByte⟩
      | some (bits, bounds) =>
        match takeContinuation bits bounds rest with
        | (_, taken, some defect) => .error ⟨position, byte :: taken, defect⟩
        | (value, taken, none) =>
          (decodeFrom (position + 1) taken.length rest).map (Char.ofNat value :: ·)

/-- Decodes all bytes, with what is given in place of every run that is no encoding. Bytes
that the previous character used are skipped. -/
def replaceFrom (instead : List UInt8 → List Char) (skip : Nat) : List UInt8 → List Char
  | [] => []
  | byte :: rest =>
    match skip with
    | skip + 1 => replaceFrom instead skip rest
    | 0 =>
      match continuationBounds byte with
      | none => instead [byte] ++ replaceFrom instead 0 rest
      | some (bits, bounds) =>
        match takeContinuation bits bounds rest with
        | (_, taken, some _) =>
          instead (byte :: taken) ++ replaceFrom instead taken.length rest
        | (value, taken, none) => Char.ofNat value :: replaceFrom instead taken.length rest

/-- The characters that bytes encode as far as they do, with the replacement character for
every run that is no encoding. -/
def decodeLossy (bytes : List UInt8) : List Char := replaceFrom (fun _ => ['\ufffd']) 0 bytes

/-- The text that bytes encode. Sound bytes are read by the standard decoder; the
other branch finds the fault. -/
def decodeUtf8 (bytes : ByteArray) : Except EncodingFault String :=
  match String.fromUTF8? bytes with
  | some text => .ok text
  | none => (decodeFrom 0 0 bytes.toList).map String.ofList

/-! ## Writing -/

/-- The first run of halves in a text: its place, its first half and its length. -/
structure HalfFault where
  position : Nat
  first : Nat
  count : Nat
  deriving DecidableEq, Repr

/-- The fault as a sentence. One half is shown with its number, several by their places. -/
def HalfFault.message (fault : HalfFault) : String :=
  let place :=
    if fault.count = 1 then
      "character '\\u" ++ String.ofList (hexDigits 4 fault.first) ++ "' in position " ++
        Nat.repr fault.position
    else
      "characters in position " ++ Nat.repr fault.position ++ "-" ++
        Nat.repr (fault.position + fault.count - 1)
  "'utf-8' codec can't encode " ++ place ++ ": surrogates not allowed"

/-- The first run of halves among characters that begins with one of a kind. -/
def halfFaultAt? (isKind : Char → Bool) (cs : List Char) : Option HalfFault :=
  let before := cs.takeWhile fun c => !isKind c
  let run := (cs.drop before.length).takeWhile isHalf
  run.head?.map fun c => ⟨before.length, (half? c).getD 0, run.length⟩

/-- The first run of halves among characters. -/
def halfFault? (cs : List Char) : Option HalfFault := halfFaultAt? isHalf cs

/-- The first run of halves in a path that begins with one that stands for no byte. -/
def pathFault? (cs : List Char) : Option HalfFault :=
  halfFaultAt? (fun c => isHalf c && !isByteHalf c) cs

/-- The number of bytes of a name, in which halves may stand for bytes. -/
def nameSize (name : String) : Nat :=
  (name.toList.map fun c => if isByteHalf c then 1 else c.utf8Size).foldl (· + ·) 0

/-- The bytes of a name. -/
def nameBytes (name : String) : List UInt8 :=
  name.toList.flatMap fun c =>
    if isByteHalf c then [UInt8.ofNat (number c - 0xDC00)] else String.utf8EncodeChar c

/-- A name as its directory lists it: halves that stand for the bytes of a character are that
character. -/
def listedName (name : String) : String :=
  if name.toList.any isByteHalf then
    String.ofList (replaceFrom (·.map fun byte => numbered (0xDC00 + byte.toNat)) 0 (nameBytes name))
  else name

/-- The bytes of a text. -/
def encodeUtf8 (text : String) : Except HalfFault ByteArray :=
  match halfFault? text.toList with
  | some fault => .error fault
  | none => .ok text.toUTF8

end Gamebook.Text
