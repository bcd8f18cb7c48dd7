import Gamebook.Json.Reader
import Gamebook.Proofs.Json.Distinct

/-!
# Names of documents that were read

The text of a stored document may spell an object with two members of one name; the value that
it is read as has no such object, at any depth. Nothing is asked of the text but that it is read.
-/

namespace Gamebook

/-- Writing members one after the other gives an object with distinct names. -/
theorem Value.distinct_ofPairs {members : List (String × Value)}
    (distinct : DistinctMembers members) : Distinct (.object (Entries.ofPairs members)) := by
  rw [distinctMembers_iff] at distinct
  refine ⟨Entries.keys_ofPairs_nodup members, (distinctMembers_iff _).mpr fun member isMember => ?_⟩
  exact distinct member (Entries.ofPairs_subset members isMember)

namespace Json

/-- What a reader gives, if it gives something, has a property. -/
def Yields {α : Type} (property : α → Prop) (reading : Reading α) : Prop :=
  ∀ result rest, reading = .ok (result, rest) → property result

namespace Yields

variable {α : Type} {property : α → Prop}

theorem fault (fault : Fault) : Yields property (.error fault) := nofun

theorem done {result : α} (holds : property result) (rest : List Char) :
    Yields property (.ok (result, rest)) := by
  intro other left same
  obtain ⟨rfl, _⟩ := Prod.mk.inj (Except.ok.inj same)
  exact holds

end Yields

variable {dialect : Dialect}

/-! ## Values without parts -/

theorem yields_readLiteral {literal : Value} (distinct : literal.Distinct) (letters : String)
    (cs : List Char) : Yields Value.Distinct (readLiteral dialect letters literal cs) := by
  fun_cases readLiteral dialect letters literal cs
  case case1 rest taken => exact .done distinct rest
  all_goals exact .fault _

theorem distinct_value (parts : NumberParts) (negative : Bool) :
    (parts.value negative).Distinct := by
  unfold NumberParts.value
  split <;> trivial

theorem yields_readNumber (negative : Bool) (begun cs : List Char) :
    Yields Value.Distinct (readNumber dialect negative begun cs) := by
  fun_cases readNumber dialect negative begun cs
  case case2 => cases cs <;> exact .fault _
  case case4 parts _ _ _ => exact .done (distinct_value parts negative) parts.rest
  case case7 parts _ _ _ _ => exact .done (distinct_value parts negative) parts.rest
  all_goals exact .fault _

theorem yields_readAtom (cs : List Char) : Yields Value.Distinct (readAtom dialect cs) := by
  have literal (value : Value) (distinct : value.Distinct) (letters : String) (cs : List Char) :
      Yields Value.Distinct (readLiteral dialect letters value cs) :=
    yields_readLiteral distinct letters cs
  have infinity := literal (.float (.infinity true)) trivial "Infinity"
  unfold readAtom
  split
  next => exact .fault _
  next => exact literal .null trivial _ _
  next => exact literal (.bool true) trivial _ _
  next => exact literal (.bool false) trivial _ _
  next => exact literal (.float .nan) trivial _ _
  next => exact literal (.float (.infinity false)) trivial _ _
  next rest =>
    split
    next reading read => exact fun value left same => infinity _ value left (read.trans same)
    next => split <;> exact .fault _
  next rest noLetter => exact yields_readNumber true _ rest
  next c rest _ _ _ _ _ _ _ =>
    split
    next => exact yields_readNumber false _ _
    next => exact .fault _

/-! ## Lists and objects -/

/-- What is read with so much fuel has distinct names inside. -/
structure YieldsDistinct (fuel : Nat) : Prop where
  value : ∀ depth cs, Yields Value.Distinct (readValue .stored fuel depth cs)
  items : ∀ depth cs, Yields Value.DistinctItems (readItems .stored fuel depth cs)
  members : ∀ depth isFirst cs,
    Yields Value.DistinctMembers (readMembers .stored fuel depth isFirst cs)

namespace YieldsDistinct

variable {fuel : Nat} (inside : YieldsDistinct fuel)

include inside

theorem readValue (depth : Nat) (cs : List Char) :
    Yields Value.Distinct (readValue .stored (fuel + 1) depth cs) := by
  unfold Json.readValue
  split
  next rest opened =>
    split
    next text left read => exact .done trivial left
    next => exact .fault _
  next rest opened =>
    split
    next => exact .fault _
    next =>
      split
      next => exact .fault _
      next left closed => exact .done trivial left
      next =>
        split
        next => exact .fault _
        next =>
          split
          next items left read =>
            have distinct : (Value.list items).Distinct := inside.items _ _ items left read
            exact .done distinct left
          next => exact .fault _
  next rest opened =>
    split
    next => exact .fault _
    next =>
      split
      next => exact .fault _
      next left closed => exact .done ⟨List.nodup_nil, trivial⟩ left
      next =>
        split
        next members left read =>
          have distinct := inside.members _ _ _ members left read
          exact .done (Value.distinct_ofPairs distinct) left
        next => exact .fault _
      next => exact .fault _
  next => exact yields_readAtom _

theorem readItems (depth : Nat) (cs : List Char) :
    Yields Value.DistinctItems (readItems .stored (fuel + 1) depth cs) := by
  unfold Json.readItems
  split
  next => exact .fault _
  next item after read =>
    have first : item.Distinct := inside.value _ _ item after read
    split
    next => exact .fault _
    next left closed => exact .done ⟨first, trivial⟩ left
    next =>
      split
      next => exact .fault _
      next => exact .fault _
      next =>
        split
        next items left others => exact .done ⟨first, inside.items _ _ items left others⟩ left
        next => exact .fault _
    next => exact .fault _

theorem readMembers (depth : Nat) (isFirst : Bool) (cs : List Char) :
    Yields Value.DistinctMembers (readMembers .stored (fuel + 1) depth isFirst cs) := by
  unfold Json.readMembers
  split
  next => exact .fault _
  next name after named =>
    split
    next => exact .fault _
    next =>
      split
      next => exact .fault _
      next value after read =>
        have first : value.Distinct := inside.value _ _ value after read
        split
        next => exact .fault _
        next left closed => exact .done ⟨first, trivial⟩ left
        next =>
          split
          next => exact .fault _
          next =>
            split
            next members left others =>
              exact .done ⟨first, inside.members _ _ _ members left others⟩ left
            next => exact .fault _
          next => exact .fault _
          next => exact .fault _
        next => exact .fault _

end YieldsDistinct

/-- Fuel is spent on what is inside, so there is always less of it. -/
theorem yieldsDistinct (fuel : Nat) : YieldsDistinct fuel := by
  induction fuel with
  | zero => exact ⟨fun _ _ => .fault _, fun _ _ => .fault _, fun _ _ _ => .fault _⟩
  | succ fuel inside => exact ⟨inside.readValue, inside.readItems, inside.readMembers⟩

/-- Whatever a stored document is read as has distinct names. -/
theorem distinct_of_readCharacters {cs : List Char} {value : Value}
    (read : readCharacters .stored cs = .ok value) : value.Distinct := by
  unfold readCharacters at read
  split at read
  next => nomatch read
  next =>
    split at read
    next => nomatch read
    next result rest reads =>
      split at read
      next =>
        obtain rfl := Except.ok.inj read
        exact (yieldsDistinct _).value _ _ result rest reads
      next => nomatch read

end Json

end Gamebook
