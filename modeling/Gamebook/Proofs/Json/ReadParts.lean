import Gamebook.Proofs.Json.Number
import Gamebook.Proofs.Json.Parts
import Gamebook.Proofs.Json.ReadNames

/-!
# Parts of documents that were read

A project document is read with limits of its own: a whole number has no more digits than can be
written, nothing foreign can be spelt, and lists and objects stand one in the other only to a
depth. So every value that is read can be written. Opening one more list or object is judged only
when something follows in it, so the innermost ones may stand at the limit itself.
-/

namespace Gamebook.Json

/-! ## Numbers -/

/-- Figures spell less than the power of ten that they have places for. -/
theorem figuresValue_lt {cs : List Char} (figures : ∀ c ∈ cs, isFigure c = true) :
    figuresValue cs < 10 ^ cs.length := by
  have spelt (n : Nat) : cs.foldl (fun n c => 10 * n + (c.toNat - 48)) n <
      (n + 1) * 10 ^ cs.length := by
    induction cs generalizing n with
    | nil => simp
    | cons c rest inductionHypothesis =>
      obtain ⟨figure, others⟩ := List.forall_mem_cons.mp figures
      have digit : c.toNat - 48 ≤ 9 := by
        have bounds : '0' ≤ c ∧ c ≤ '9' := by simpa [isFigure] using figure
        have most : c.toNat ≤ 57 := bounds.2
        omega
      have later := inductionHypothesis others (10 * n + (c.toNat - 48))
      have room : (10 * n + (c.toNat - 48) + 1) * 10 ^ rest.length ≤
          (n + 1) * 10 * 10 ^ rest.length := Nat.mul_le_mul_right _ (by omega)
      rw [List.foldl_cons, List.length_cons, Nat.pow_succ', ← Nat.mul_assoc]
      exact Nat.lt_of_lt_of_le later room
  simpa [figuresValue] using spelt 0

theorem wholeFigures_figures (cs : List Char) : ∀ c ∈ wholeFigures cs, isFigure c = true := by
  unfold wholeFigures
  split
  · simp [isFigure]
  · exact fun c member => List.mem_takeWhile_imp member

theorem takeFraction_whole (whole cs : List Char) : (takeFraction whole cs).whole = whole := by
  unfold takeFraction
  split
  · split <;> rfl
  · rfl

theorem takeExponent_whole (parts : NumberParts) : (takeExponent parts).whole = parts.whole := by
  unfold takeExponent
  cases parts.rest with
  | nil => rfl
  | cons c rest =>
    simp only
    split
    · split <;> rfl
    · rfl

/-- The whole part of a number that is taken is made of figures. -/
theorem takeNumber?_figures {cs : List Char} {parts : NumberParts}
    (taken : takeNumber? cs = some parts) : ∀ c ∈ parts.whole, isFigure c = true := by
  have whole : parts.whole = wholeFigures cs := by
    simp only [takeNumber?] at taken
    split at taken
    · cases taken
    · rw [← Option.some.inj taken, takeExponent_whole, takeFraction_whole]
  rw [whole]
  exact wholeFigures_figures cs

/-- A whole number that few enough figures spell can be written. -/
theorem isWritable_of_figures {cs : List Char} (figures : ∀ c ∈ cs, isFigure c = true)
    (few : cs.length ≤ digitLimit) {n : Int} (spelt : n.natAbs = figuresValue cs) :
    Numeral.isWritable n = true := by
  have small : n.natAbs < 10 ^ digitLimit := by
    rw [spelt]
    exact Nat.lt_of_lt_of_le (figuresValue_lt figures) (Nat.pow_le_pow_right (by decide) few)
  unfold Numeral.isWritable
  generalize digitLimit = limit at small ⊢
  simpa using small

/-- A number whose whole part has few enough figures can be written. -/
theorem printable_value {parts : NumberParts} (figures : ∀ c ∈ parts.whole, isFigure c = true)
    (few : parts.whole.length ≤ digitLimit) (negative : Bool) :
    (parts.value negative).Printable false ∧ (parts.value negative).nesting = 0 := by
  unfold NumberParts.value
  split
  · have writable (n : Int) (spelt : n.natAbs = figuresValue parts.whole) :
        Numeral.isWritable n = true := isWritable_of_figures figures few spelt
    refine ⟨?_, rfl⟩
    cases negative <;>
      simp [Value.Printable, Value.anyPart, Value.isUnprintable, writable]
  · exact ⟨rfl, rfl⟩

/-! ## Values -/

/-- Where halves may stand, an object can be written when its values can. -/
theorem printable_record_iff (members : List (String × Value)) :
    (Value.object members).Printable false ↔ ∀ member ∈ members, member.2.Printable false := by
  simp [Value.printable_object_iff]

/-- A value that can be written and is not nested too deep for where it stands. -/
structure FitsAt (depth : Nat) (value : Value) : Prop where
  printable : value.Printable false
  shallow : value.nesting + depth ≤ Dialect.project.depthLimit + 1

/-- Values without parts fit wherever a value may stand. -/
theorem FitsAt.ofAtom {value : Value} (printable : value.Printable false)
    (atom : value.nesting = 0) {depth : Nat} (room : depth ≤ Dialect.project.depthLimit) :
    FitsAt depth value := ⟨printable, by omega⟩

/-- A list fits where its items fit one level deeper. -/
theorem FitsAt.list {depth : Nat} {items : List Value}
    (each : ∀ item ∈ items, FitsAt (depth + 1) item)
    (room : depth ≤ Dialect.project.depthLimit) : FitsAt depth (.list items) := by
  refine ⟨(Value.printable_list_iff items).mpr fun item member => (each item member).printable, ?_⟩
  have inner := (Value.itemsNesting_le_iff items (Dialect.project.depthLimit - depth)).mpr
    fun item member => by
      have shallow := (each item member).shallow
      omega
  rw [Value.nesting]
  omega

/-- An object fits where its values fit one level deeper. -/
theorem FitsAt.object {depth : Nat} {members : List (String × Value)}
    (each : ∀ member ∈ members, FitsAt (depth + 1) member.2)
    (room : depth ≤ Dialect.project.depthLimit) : FitsAt depth (.object members) := by
  refine ⟨(printable_record_iff members).mpr fun member isMember =>
    (each member isMember).printable, ?_⟩
  have inner := (Value.membersNesting_le_iff members (Dialect.project.depthLimit - depth)).mpr
    fun member isMember => by
      have shallow := (each member isMember).shallow
      omega
  rw [Value.nesting]
  omega

section Atoms

variable {depth : Nat} (room : depth ≤ Dialect.project.depthLimit)
include room

theorem fits_readLiteral {literal : Value} (printable : literal.Printable false)
    (atom : literal.nesting = 0) (letters : String) (cs : List Char) :
    Yields (FitsAt depth) (readLiteral .project letters literal cs) := by
  fun_cases readLiteral .project letters literal cs
  case case1 rest taken => exact .done (.ofAtom printable atom room) rest
  all_goals exact .fault _

theorem fits_readNumber (negative : Bool) (begun cs : List Char) :
    Yields (FitsAt depth) (readNumber .project negative begun cs) := by
  unfold readNumber
  split
  next => cases cs <;> exact .fault _
  next parts taken =>
    simp only
    split
    next => exact .fault _
    next few =>
      split
      next => exact .fault _
      next =>
        obtain ⟨printable, atom⟩ :=
          printable_value (takeNumber?_figures taken) (Nat.not_lt.mp few) negative
        exact .done (.ofAtom printable atom room) parts.rest

theorem fits_readAtom (cs : List Char) : Yields (FitsAt depth) (readAtom .project cs) := by
  have literal (value : Value) (printable : value.Printable false) (atom : value.nesting = 0)
      (letters : String) (cs : List Char) :
      Yields (FitsAt depth) (readLiteral .project letters value cs) :=
    fits_readLiteral room printable atom letters cs
  have infinity := literal (.float (.infinity true)) rfl rfl "Infinity"
  unfold readAtom
  split
  next => exact .fault _
  next => exact literal .null rfl rfl _ _
  next => exact literal (.bool true) rfl rfl _ _
  next => exact literal (.bool false) rfl rfl _ _
  next => exact literal (.float .nan) rfl rfl _ _
  next => exact literal (.float (.infinity false)) rfl rfl _ _
  next rest =>
    split
    next reading read => exact fun value left same => infinity _ value left (read.trans same)
    next => exact .fault _
  next rest noLetter => exact fits_readNumber room true _ rest
  next c rest _ _ _ _ _ _ _ =>
    split
    next => exact fits_readNumber room false _ _
    next => exact .fault _

end Atoms

/-! ## Lists and objects -/

/-- No value begins where nothing follows. -/
theorem readValue_nothing (dialect : Dialect) (fuel depth : Nat) {cs : List Char}
    (nothing : skipGap cs = []) (result : Value × List Char) :
    readValue dialect fuel depth cs ≠ .ok result := by
  cases fuel with
  | zero => simp [readValue, stop]
  | succ fuel => simp [readValue, nothing, readAtom, stop]

/-- Where a list or an object with something in it is opened, there is room for one more. -/
theorem room_of_opened {inObject : Bool} {depth : Nat} {cs : List Char}
    (opened : openingFault? .project .project inObject depth cs = none) :
    depth + 1 ≤ Dialect.project.depthLimit := by
  unfold openingFault? at opened
  split at opened
  next => nomatch opened
  next room =>
    have less : depth < Dialect.project.depthLimit := by simpa using room
    omega

/-- A value that is read behind the first name shows that something follows the name, so the room
was judged there. -/
theorem room_of_firstMember {fuel depth : Nat} {cs : List Char} {result : Value × List Char}
    (noFault : firstMemberFault? .project (depth - 1) cs = none)
    (read : readValue .project fuel depth cs = .ok result) :
    depth ≤ Dialect.project.depthLimit := by
  unfold firstMemberFault? at noFault
  split at noFault
  next nothing => exact absurd read (readValue_nothing _ _ _ nothing _)
  next =>
    have opened := room_of_opened noFault
    omega

/-- What is read with so much fuel fits. The room of an object is judged behind its first name. -/
structure YieldsFitting (fuel : Nat) : Prop where
  value : ∀ depth cs, depth ≤ Dialect.project.depthLimit →
    Yields (FitsAt depth) (readValue .project fuel depth cs)
  items : ∀ depth cs, depth ≤ Dialect.project.depthLimit →
    Yields (∀ item ∈ ·, FitsAt depth item) (readItems .project fuel depth cs)
  members : ∀ depth isFirst cs, depth ≤ Dialect.project.depthLimit + 1 →
    (isFirst = false → depth ≤ Dialect.project.depthLimit) →
    Yields (∀ member ∈ ·, FitsAt depth member.2) (readMembers .project fuel depth isFirst cs)

namespace YieldsFitting

variable {fuel : Nat} (inside : YieldsFitting fuel)

include inside

theorem readValue (depth : Nat) (cs : List Char) (room : depth ≤ Dialect.project.depthLimit) :
    Yields (FitsAt depth) (readValue .project (fuel + 1) depth cs) := by
  unfold Json.readValue
  split
  next rest opened =>
    split
    next text left read =>
      have fits : FitsAt depth (.text (String.ofList text)) := by
        refine .ofAtom ?_ ?_ room <;> rfl
      exact .done fits left
    next => exact .fault _
  next rest opened =>
    split
    next => exact .fault _
    next =>
      split
      next => exact .fault _
      next left closed => exact .done ⟨rfl, by simp [Value.nesting, Value.itemsNesting]; omega⟩ left
      next =>
        split
        next => exact .fault _
        next noFault =>
          split
          next items left read =>
            have fits := inside.items _ _ (room_of_opened noFault) items left read
            exact .done (.list fits room) left
          next => exact .fault _
  next rest opened =>
    split
    next => exact .fault _
    next =>
      split
      next => exact .fault _
      next left closed =>
        exact .done ⟨rfl, by simp [Value.nesting, Value.membersNesting]; omega⟩ left
      next =>
        split
        next members left read =>
          have fits := inside.members _ true _ (Nat.succ_le_succ room) (by simp) members left read
          exact .done (.object fits room) left
        next => exact .fault _
      next => exact .fault _
  next => exact fits_readAtom room _

theorem readItems (depth : Nat) (cs : List Char) (room : depth ≤ Dialect.project.depthLimit) :
    Yields (∀ item ∈ ·, FitsAt depth item) (readItems .project (fuel + 1) depth cs) := by
  unfold Json.readItems
  split
  next => exact .fault _
  next item after read =>
    have first : FitsAt depth item := inside.value _ _ room item after read
    split
    next => exact .fault _
    next left closed => exact .done (List.forall_mem_singleton.mpr first) left
    next =>
      split
      next => exact .fault _
      next => exact .fault _
      next =>
        split
        next items left others =>
          exact .done (List.forall_mem_cons.mpr ⟨first, inside.items _ _ room items left others⟩)
            left
        next => exact .fault _
    next => exact .fault _

theorem readMembers (depth : Nat) (isFirst : Bool) (cs : List Char)
    (most : depth ≤ Dialect.project.depthLimit + 1)
    (room : isFirst = false → depth ≤ Dialect.project.depthLimit) :
    Yields (∀ member ∈ ·, FitsAt depth member.2)
      (readMembers .project (fuel + 1) depth isFirst cs) := by
  unfold Json.readMembers
  split
  next => exact .fault _
  next name after named =>
    split
    next => exact .fault _
    next noFault =>
      split
      next => exact .fault _
      next value left read =>
        have room : depth ≤ Dialect.project.depthLimit := by
          cases isFirst with
          | false => exact room rfl
          | true => exact room_of_firstMember noFault read
        have first : FitsAt depth value := inside.value _ _ room value left read
        split
        next => exact .fault _
        next left closed =>
          have only : ∀ member ∈ [(name, value)], FitsAt depth member.2 := by simpa using first
          exact .done only left
        next =>
          split
          next => exact .fault _
          next =>
            split
            next members left others =>
              have later := inside.members _ false _ most (fun _ => room) members left others
              have all : ∀ member ∈ (name, value) :: members, FitsAt depth member.2 :=
                List.forall_mem_cons.mpr ⟨first, later⟩
              exact .done all left
            next => exact .fault _
          next => exact .fault _
          next => exact .fault _
        next => exact .fault _

end YieldsFitting

/-- Fuel is spent on what is inside, so there is always less of it. -/
theorem yieldsFitting (fuel : Nat) : YieldsFitting fuel := by
  induction fuel with
  | zero => exact ⟨fun _ _ _ => .fault _, fun _ _ _ => .fault _, fun _ _ _ _ _ => .fault _⟩
  | succ fuel inside => exact ⟨inside.readValue, inside.readItems, inside.readMembers⟩

/-- Whatever a project document is read as can be written, and it nests little deeper than the
limit. -/
theorem fits_of_read {source : String} {value : Value} (read : read .project source = .ok value) :
    FitsAt 0 value := by
  unfold Json.read readCharacters at read
  split at read
  next => nomatch read
  next =>
    split at read
    next => nomatch read
    next result rest reads =>
      split at read
      next =>
        obtain rfl := Except.ok.inj read
        exact (yieldsFitting _).value 0 _ (by decide) result rest reads
      next => nomatch read

end Gamebook.Json
