import Gamebook.Json.Printer
import Gamebook.Json.Reader
import Gamebook.Text.Part
import Gamebook.Text.Utf8

/-!
# Targets of requests

The target of a request is a path, perhaps with a query or a fragment behind it
and a host in front that play no part. It begins at the root, with or without a
slash to say so. Steps to the same place and to the place above are resolved first;
then numbered bytes become characters, so a numbered slash divides names like any
other. The sender does this and so does the receiver, so a numbered percent sign
can number a byte in its turn.
-/

namespace Gamebook.Service

/-- The path of a target without its query and its fragment. -/
def pathOf (target : List Char) : List Char :=
  target.takeWhile fun c => c != '?' && c != '#'

/-- What stands behind a host, which two slashes announce. -/
def afterHost : List Char → List Char
  | '/' :: '/' :: rest => rest.dropWhile (· != '/')
  | path => path

/-- Takes one name of a path; the names so far come last name first. -/
def takeName (names : List (List Char)) (name : List Char) : List (List Char) :=
  if name == ['.'] then names
  else if name == ['.', '.'] then
    match names with
    | [] => []
    | [[]] => [[]]
    | _ :: before => before
  else name :: names

/-- The names of a path with steps to the same place and to the place above resolved. -/
def resolve (names : List (List Char)) : List (List Char) :=
  (names.foldl takeName []).reverse

/-- The bytes of a path, where a percent sign and two digits number one byte. -/
def pathBytes : List Char → List UInt8
  | [] => []
  | '%' :: a :: b :: rest =>
    match Json.hexValue? a, Json.hexValue? b with
    | some high, some low => UInt8.ofNat (16 * high + low) :: pathBytes rest
    | _, _ => '%'.toUInt8 :: pathBytes (a :: b :: rest)
  | c :: rest => (String.singleton c).toUTF8.toList ++ pathBytes rest

/-- A path with characters in place of its numbered bytes. -/
def decodePath (path : List Char) : List Char := Text.decodeLossy (pathBytes path)

/-- The names between the slashes of a target. -/
def names (target : String) : List String :=
  let given := Text.parts '/' ((afterHost (pathOf target.toList)).dropWhile (· == '/'))
  let path := List.intercalate ['/'] (resolve ([] :: given))
  ((Text.parts '/' (decodePath (decodePath path))).drop 1).map String.ofList

end Gamebook.Service
