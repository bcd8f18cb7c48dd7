import Gamebook.Proofs.Text.Half
import Gamebook.Text.Utf8

/-!
# Texts that have an encoding

A fault among characters is the first run of halves that begins with one of a given kind, so
there is none exactly where no character is of this kind. A text without halves is encoded,
and its bytes are read as the text again. A name in which no half stands for a byte is listed
as it is, and every name that ends in one of the first 128 characters is listed with that end.
-/

namespace Gamebook.Text

theorem halfFaultAt?_eq_none_iff {isKind : Char → Bool}
    (halves : ∀ c, isKind c = true → isHalf c = true) (cs : List Char) :
    halfFaultAt? isKind cs = none ↔ ∀ c ∈ cs, isKind c = false := by
  induction cs with
  | nil => simp [halfFaultAt?]
  | cons c rest inductionHypothesis =>
    cases kind : isKind c with
    | true => simp [halfFaultAt?, kind, halves c kind]
    | false =>
      rw [List.forall_mem_cons, ← inductionHypothesis]
      simp [halfFaultAt?, kind]

/-- Characters have an encoding exactly when none carries a half. -/
theorem halfFault?_eq_none_iff (cs : List Char) : halfFault? cs = none ↔ Whole cs :=
  halfFaultAt?_eq_none_iff (fun _ isHalf => isHalf) cs

/-- Characters can be a path when every half among them stands for a byte. -/
theorem pathFault?_eq_none_iff (cs : List Char) :
    pathFault? cs = none ↔ ∀ c ∈ cs, (isHalf c && !isByteHalf c) = false :=
  halfFaultAt?_eq_none_iff (fun _ kind => (Bool.and_eq_true_iff.mp kind).1) cs

/-- Exactly the texts without halves are encoded. -/
theorem encodeUtf8_ok_iff (text : String) (bytes : ByteArray) :
    encodeUtf8 text = .ok bytes ↔ Whole text.toList ∧ text.toUTF8 = bytes := by
  rw [← halfFault?_eq_none_iff, encodeUtf8]
  cases halfFault? text.toList <;> simp

/-- The bytes of a text are read as the text. -/
theorem decodeUtf8_toUTF8 (text : String) : decodeUtf8 text.toUTF8 = .ok text := by
  have valid : String.fromUTF8? text.toUTF8 = some text := by
    unfold String.fromUTF8?
    rw [String.toUTF8_eq_toByteArray, dif_pos text.isValidUTF8]
    rfl
  rw [decodeUtf8, valid]

/-- A character that carries no half stands for no byte. -/
theorem isByteHalf_eq_false {c : Char} (whole : isHalf c = false) : isByteHalf c = false := by
  have noHalf : half? c = none := by simpa [isHalf] using whole
  rw [isByteHalf, noHalf]
  rfl

/-- A name in which no half stands for a byte is listed as it is. -/
theorem listedName_eq {name : String} (plain : ∀ c ∈ name.toList, isByteHalf c = false) :
    listedName name = name := by
  have noByte : name.toList.any isByteHalf = false := by
    simpa using plain
  rw [listedName, noByte]
  rfl

/-- A name is at least as long as what it begins with. -/
theorem nameSize_append (front rest : String) : nameSize front ≤ nameSize (front ++ rest) := by
  have more (size : Nat) (sizes : List Nat) : size ≤ sizes.foldl (· + ·) size := by
    induction sizes generalizing size with
    | nil => exact Nat.le_refl size
    | cons first others inductionHypothesis =>
      exact Nat.le_trans (Nat.le_add_right size first) (inductionHypothesis (size + first))
  unfold nameSize
  rw [String.toList_append, List.map_append, List.foldl_append]
  exact more _ _

/-! ## Names as they are listed -/

/-- No byte below 128 continues a character. -/
theorem continuationBounds_above {byte : UInt8} {bits : Nat} {bounds : List (Nat × Nat)}
    (begins : continuationBounds byte = some (bits, bounds)) :
    ∀ bound ∈ bounds, 0x80 ≤ bound.1 := by
  unfold continuationBounds at begins
  dsimp only at begins
  repeat' split at begins
  all_goals simp only [reduceCtorEq, Option.some.injEq, Prod.mk.injEq] at begins
  all_goals
    obtain ⟨-, rfl⟩ := begins
    decide

/-- A byte below 128 at the end of some bytes is not taken into a character. -/
theorem takeContinuation_length_le {last : UInt8} (small : last.toNat < 0x80) (value : Nat)
    {bounds : List (Nat × Nat)} (above : ∀ bound ∈ bounds, 0x80 ≤ bound.1) (bytes : List UInt8) :
    (takeContinuation value bounds (bytes ++ [last])).2.1.length ≤ bytes.length := by
  induction bytes generalizing value bounds with
  | nil =>
    cases bounds with
    | nil => exact Nat.le_refl 0
    | cons bound rest =>
      have least := above bound List.mem_cons_self
      have refused : ¬bound.1 ≤ last.toNat := by omega
      simp [takeContinuation, refused]
  | cons byte bytes inductionHypothesis =>
    cases bounds with
    | nil => exact Nat.zero_le _
    | cons bound rest =>
      have later := inductionHypothesis (value * 64 + byte.toNat % 64)
        (fun other member => above other (List.mem_cons_of_mem bound member))
      rw [List.cons_append, takeContinuation]
      split
      · simpa using later
      · exact Nat.zero_le _

/-- However the bytes before it are read, a byte below 128 at the end is read as its character. -/
theorem replaceFrom_append {last : UInt8} (small : last.toNat < 0x80)
    (instead : List UInt8 → List Char) {skip : Nat} {bytes : List UInt8}
    (within : skip ≤ bytes.length) :
    ∃ front, replaceFrom instead skip (bytes ++ [last]) = front ++ [Char.ofNat last.toNat] := by
  induction bytes generalizing skip with
  | nil =>
    obtain rfl := Nat.le_zero.mp within
    have alone : continuationBounds last = some (last.toNat, []) := by
      simp [continuationBounds, small]
    exact ⟨[], by simp [replaceFrom, alone, takeContinuation]⟩
  | cons byte bytes inductionHypothesis =>
    cases skip with
    | succ skip => exact inductionHypothesis (Nat.le_of_succ_le_succ within)
    | zero =>
      rw [List.cons_append, replaceFrom]
      cases begins : continuationBounds byte with
      | none =>
        obtain ⟨front, read⟩ := inductionHypothesis (Nat.zero_le bytes.length)
        exact ⟨instead [byte] ++ front, by simp [read]⟩
      | some parts =>
        obtain ⟨bits, bounds⟩ := parts
        have short := takeContinuation_length_le small bits (continuationBounds_above begins) bytes
        simp only
        generalize takeContinuation bits bounds (bytes ++ [last]) = run at short
        obtain ⟨value, taken, defect⟩ := run
        obtain ⟨front, read⟩ := inductionHypothesis short
        cases defect with
        | none => exact ⟨Char.ofNat value :: front, by simp [read]⟩
        | some defect => exact ⟨instead (byte :: taken) ++ front, by simp [read]⟩

/-- A name that ends in one of the first 128 characters is listed with this end. -/
theorem getLast?_listedName {name : String} {c : Char} (small : c.toNat < 0x80)
    (last : name.toList.getLast? = some c) : (listedName name).toList.getLast? = some c := by
  unfold listedName
  split
  next =>
    obtain ⟨front, characters⟩ := List.getLast?_eq_some_iff.mp last
    have noByteHalf : isByteHalf c = false :=
      isByteHalf_eq_false (isHalf_of_small (Nat.lt_trans small (by decide)))
    have encoded : String.utf8EncodeChar c = [UInt8.ofNat c.toNat] := by
      simp [String.utf8EncodeChar, Nat.le_of_lt_succ small]
    have byte : (UInt8.ofNat c.toNat).toNat = c.toNat :=
      UInt8.toNat_ofNat_of_lt' (Nat.lt_trans small (by decide))
    have bytes : nameBytes name = nameBytes (String.ofList front) ++ [UInt8.ofNat c.toNat] := by
      simp [nameBytes, characters, noByteHalf, encoded]
    obtain ⟨before, read⟩ := replaceFrom_append (byte.symm ▸ small)
      (·.map fun byte => numbered (0xDC00 + byte.toNat))
      (Nat.zero_le (nameBytes (String.ofList front)).length)
    rw [bytes, read, byte, Char.ofNat_toNat]
    simp
  next => exact last

end Gamebook.Text
