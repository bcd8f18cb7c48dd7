import Gamebook.Entries
import Gamebook.Number.Scalar

/-!
# Document values

The values that documents, save slots and generator replies are made of. Objects
keep their members in order of first writing; only an object of a document that is
still to be judged may have two members with one name. A foreign value stands for
anything that no document can hold.
-/

namespace Gamebook

/-- A value of a document. -/
inductive Value
  | null
  | bool (value : Bool)
  | int (value : Int)
  | float (value : Binary64)
  | text (value : String)
  | list (items : List Value)
  | object (members : List (String × Value))
  | foreign
  deriving Repr

namespace Value

/-- A scalar as a document value. -/
def ofScalar : Scalar → Value
  | .bool b => .bool b
  | .int n => .int n
  | .float x => .float x

/-- The scalar that a value is, if it is one. -/
def scalar? : Value → Option Scalar
  | .bool b => some (.bool b)
  | .int n => some (.int n)
  | .float x => some (.float x)
  | _ => none

/-- The text that a value is, if it is one. -/
def text? : Value → Option String
  | .text s => some s
  | _ => none

/-- The list that a value is, if it is one. -/
def list? : Value → Option (List Value)
  | .list items => some items
  | _ => none

/-- The members of an object. -/
def object? : Value → Option (Entries Value)
  | .object members => some members
  | _ => none

/-- The member of an object with a given name. -/
def member? (value : Value) (name : String) : Option Value :=
  value.object?.bind (·.get? name)

/-- Whether a value counts as true: anything but nothing, false, zero and what is empty. -/
def isTrue : Value → Bool
  | .null => false
  | .bool b => b
  | .int n => n != 0
  | .float x => x.isNonzero
  | .text s => !s.isEmpty
  | .list items => !items.isEmpty
  | .object members => !members.isEmpty
  | .foreign => true

/-- A list of texts. -/
def ofTexts (texts : List String) : Value := .list (texts.map .text)

/-- A text or nothing. -/
def ofText? : Option String → Value
  | some s => .text s
  | none => .null

mutual

/-- Whether two values are equal. A number equals no truth value, and an undefined number
equals nothing. -/
def same : Value → Value → Bool
  | .null, .null => true
  | .bool a, .bool b => a == b
  | .int m, .int n => m == n
  | .float x, .float y => Binary64.order? x y == some .eq
  | .text s, .text t => s == t
  | .list xs, .list ys => sameItems xs ys
  | .object xs, .object ys => sameMembers xs ys
  | _, _ => false

/-- Whether two lists have equal items in the same order. -/
def sameItems : List Value → List Value → Bool
  | [], [] => true
  | x :: xs, y :: ys => same x y && sameItems xs ys
  | _, _ => false

/-- Whether two member lists have equal members in the same order. -/
def sameMembers : List (String × Value) → List (String × Value) → Bool
  | [], [] => true
  | (k, x) :: xs, (l, y) :: ys => k == l && same x y && sameMembers xs ys
  | _, _ => false

end

mutual

/-- Whether a test holds of a part of a value that has no parts itself, the names of members
taken as texts. -/
def anyPart (test : Value → Bool) : Value → Bool
  | .list items => anyItem test items
  | .object members => anyMember test members
  | atom => test atom

/-- Whether a test holds of a part of some items. -/
def anyItem (test : Value → Bool) : List Value → Bool
  | [] => false
  | item :: rest => anyPart test item || anyItem test rest

/-- Whether a test holds of a name or a part of some members. -/
def anyMember (test : Value → Bool) : List (String × Value) → Bool
  | [] => false
  | (key, value) :: rest => test (.text key) || anyPart test value || anyMember test rest

end

/-- Whether a text in a value carries half a character. -/
def holdsHalf (value : Value) : Bool :=
  value.anyPart fun
    | .text s => Text.holdsHalf s
    | _ => false

/-- Whether every text in a value can be encoded and every number is finite. -/
def isSendable (value : Value) : Bool :=
  !value.anyPart fun
    | .text s => Text.holdsHalf s
    | .float x => !x.isFinite
    | _ => false

mutual

/-- The value in which no object has two members with one name: the later value counts, in the
place of the earlier one. -/
def merged : Value → Value
  | .list items => .list (mergedItems items)
  | .object members => .object (Entries.ofPairs (mergedMembers members))
  | other => other

/-- The items, each merged. -/
def mergedItems : List Value → List Value
  | [] => []
  | item :: rest => merged item :: mergedItems rest

/-- The members with each value merged. -/
def mergedMembers : List (String × Value) → List (String × Value)
  | [] => []
  | (key, value) :: rest => (key, merged value) :: mergedMembers rest

end

mutual

/-- The value with every infinite or undefined number replaced by nothing. -/
def finiteOnly : Value → Value
  | .float x => if x.isFinite then .float x else .null
  | .list items => .list (finiteItems items)
  | .object members => .object (finiteMembers members)
  | other => other

/-- The items with every infinite or undefined number replaced by nothing. -/
def finiteItems : List Value → List Value
  | [] => []
  | item :: rest => finiteOnly item :: finiteItems rest

/-- The members with every infinite or undefined number replaced by nothing. -/
def finiteMembers : List (String × Value) → List (String × Value)
  | [] => []
  | (key, value) :: rest => (key, finiteOnly value) :: finiteMembers rest

end

mutual

/-- A value as a message shows it: texts quoted, numbers in full. -/
def shown : Value → Except NumberFault String
  | .null => .ok "None"
  | .bool b => .ok (if b then "True" else "False")
  | .int n => Numeral.write n
  | .float x => .ok (Decimal.text x)
  | .text s => .ok (Text.quoted s)
  | .list items => do
    let texts ← shownItems items
    .ok ("[" ++ String.intercalate ", " texts ++ "]")
  | .object members => do
    let texts ← shownMembers members
    .ok ("\x7b" ++ String.intercalate ", " texts ++ "\x7d")
  | .foreign => .ok "Opaque()"

/-- The items of a list as a message shows them. -/
def shownItems : List Value → Except NumberFault (List String)
  | [] => .ok []
  | item :: rest => do
    let first ← shown item
    let others ← shownItems rest
    .ok (first :: others)

/-- The members of an object as a message shows them. -/
def shownMembers : List (String × Value) → Except NumberFault (List String)
  | [] => .ok []
  | (key, value) :: rest => do
    let first ← shown value
    let others ← shownMembers rest
    .ok ((Text.quoted key ++ ": " ++ first) :: others)

end

/-- What kind of value this is, in the words of messages. -/
def kindName : Value → String
  | .null => "NoneType"
  | .bool _ => "bool"
  | .int _ => "int"
  | .float _ => "float"
  | .text _ => "str"
  | .list _ => "list"
  | .object _ => "dict"
  | .foreign => "Opaque"

/-- The kind of a value in full: a foreign one comes from the main program. -/
def fullKindName : Value → String
  | .foreign => "__main__." ++ kindName .foreign
  | value => value.kindName

end Value

end Gamebook
