import Gamebook.Json.Printer
import Gamebook.Json.Reader
import Gamebook.Proofs.Text.Half

/-!
# Reading texts

A text is written between quotes with its quotes, backslashes and controls escaped, and
perhaps everything beyond the printable first 128 characters too. Read from behind its opening
quote, it gives its own characters and leaves what follows its closing quote. This holds of
texts without halves; a first half and a second one that stand side by side would be read
as the pair that they name.
-/

namespace Gamebook.Json

/-! ## Steps of the reader -/

theorem beginsNumbered_eq_false {cs : List Char} (other : ∀ rest, cs ≠ '\\' :: 'u' :: rest) :
    beginsNumbered cs = false := by
  unfold beginsNumbered
  split
  next rest => exact absurd rfl (other rest)
  next => rfl

section Steps

variable (dialect : Dialect) (begun : List Char) {rest : List Char}

theorem readText_quote : readText dialect begun none ('"' :: rest) = .ok ([], rest) := by
  rw [readText]
  simp [settle]

section Alone

-- In a project text nothing but a second half may follow a first one, so none is waiting.
variable {pending : Option Nat} (alone : (dialect = .project && pending.isSome) = false)

include alone

theorem readText_character {c : Char} (noQuote : c ≠ '"') (noBackslash : c ≠ '\\')
    (noControl : 0x20 ≤ c.toNat) :
    readText dialect begun pending (c :: rest) =
      settle pending (prepend c (readText dialect begun none rest)) := by
  rw [readText, if_neg (by simp [alone])]
  case x => exact noQuote
  case x_1 => exact fun _ _ _ _ _ backslash _ => noBackslash backslash
  case x_2 => exact fun _ backslash _ => noBackslash backslash
  case x_3 => exact fun backslash _ => noBackslash backslash
  case x_4 => exact fun _ _ backslash _ => noBackslash backslash
  simp only [Nat.not_lt.mpr noControl, if_false]

theorem readText_escaped {c meant : Char} (means : escapedCharacter? c = some meant) :
    readText dialect begun pending ('\\' :: c :: rest) =
      settle pending (prepend meant (readText dialect begun none rest)) := by
  have notNumbered : c ≠ 'u' := by
    rintro rfl
    cases means
  rw [readText, if_neg (by simp [alone])]
  case x => exact fun _ _ _ _ _ mark _ => notNumbered mark
  case x_1 => exact notNumbered
  simp only [means]

end Alone

/-- What a numbered character comes to, whether a first half waits for it or not. -/
theorem readText_fourHex (pending : Option Nat) {a b c d : Char} {n : Nat}
    (four : fourHex? a b c d = some n) (more : (dialect = .stored && rest.isEmpty) = false) :
    readText dialect begun pending ('\\' :: 'u' :: a :: b :: c :: d :: rest) =
      match pending with
      | some first =>
        if Text.isSecondHalf n then
          prepend (Char.ofNat (Text.pairNumber first n)) (readText dialect begun none rest)
        else if dialect = .project then .error ⟨.loneHalf, rest.length + 1⟩
        else if Text.isFirstHalf n then settle pending (readText dialect begun (some n) rest)
        else settle pending (prepend (Text.numbered n) (readText dialect begun none rest))
      | none =>
        if Text.isFirstHalf n then readText dialect begun (some n) rest
        else if dialect = .project && Text.isSecondHalf n then
          .error ⟨.loneHalf, rest.length + 1⟩
        else prepend (Text.numbered n) (readText dialect begun none rest) := by
  rw [readText, if_neg (by simp [beginsNumbered])]
  cases pending <;> simp only [four, more, Bool.false_eq_true, if_false]

theorem readText_firstHalf {a b c d : Char} {n : Nat} (four : fourHex? a b c d = some n)
    (first : Text.isFirstHalf n = true) (more : rest ≠ []) :
    readText dialect begun none ('\\' :: 'u' :: a :: b :: c :: d :: rest) =
      readText dialect begun (some n) rest := by
  rw [readText_fourHex dialect begun none four (by simp [more])]
  simp only [first, if_true]

theorem readText_secondHalf {a b c d : Char} {n waiting : Nat} (four : fourHex? a b c d = some n)
    (second : Text.isSecondHalf n = true) (more : rest ≠ []) :
    readText dialect begun (some waiting) ('\\' :: 'u' :: a :: b :: c :: d :: rest) =
      prepend (Char.ofNat (Text.pairNumber waiting n)) (readText dialect begun none rest) := by
  rw [readText_fourHex dialect begun (some waiting) four (by simp [more])]
  simp only [second, if_true]

end Steps

/-! ## Numbered characters -/

theorem hexValue?_digitChar {n : Nat} (small : n < 16) : hexValue? (Nat.digitChar n) = some n := by
  revert n
  decide

/-- Four hexadecimal digits spell the number they were written for. -/
theorem fourHex?_hexDigits {n : Nat} (small : n < 0x10000) :
    ∃ a b c d, Text.hexDigits 4 n = [a, b, c, d] ∧ fourHex? a b c d = some n := by
  have digit (m : Nat) : hexValue? (Nat.digitChar (m % 16)) = some (m % 16) :=
    hexValue?_digitChar (Nat.mod_lt m (by decide))
  refine ⟨_, _, _, _, rfl, ?_⟩
  simp only [fourHex?, digit]
  congr 1
  omega

/-- A number below 65536 that a character has is none of a half. -/
theorem notHalf_toNat (c : Char) :
    Text.isFirstHalf c.toNat = false ∧ Text.isSecondHalf c.toNat = false := by
  have valid : c.toNat < 0xD800 ∨ 0xDFFF < c.toNat ∧ c.toNat < 0x110000 := c.valid
  simp only [Text.isFirstHalf, Text.isSecondHalf, Bool.and_eq_false_iff, decide_eq_false_iff_not]
  omega

theorem numbered_toNat (c : Char) : Text.numbered c.toNat = c := by
  obtain ⟨notFirst, notSecond⟩ := notHalf_toNat c
  simp [Text.numbered, notFirst, notSecond]

/-- A numbered character is read as the character. -/
theorem readText_numbered_toNat (dialect : Dialect) (begun : List Char) {pending : Option Nat}
    (alone : (dialect = .project && pending.isSome) = false) {c : Char}
    (small : c.toNat < 0x10000) {rest : List Char} (more : rest ≠ []) :
    readText dialect begun pending (numbered c.toNat ++ rest) =
      settle pending (prepend c (readText dialect begun none rest)) := by
  obtain ⟨w, x, y, z, digits, four⟩ := fourHex?_hexDigits small
  obtain ⟨notFirst, notSecond⟩ := notHalf_toNat c
  rw [numbered, digits]
  change readText dialect begun pending ('\\' :: 'u' :: w :: x :: y :: z :: rest) = _
  rw [readText_fourHex dialect begun pending four (by simp [more])]
  cases pending with
  | none => simp [notFirst, notSecond, numbered_toNat, settle]
  | some half =>
    have stored : dialect ≠ .project := by simpa using alone
    simp [notFirst, notSecond, numbered_toNat, stored]

/-- A numbered pair is read as the character of the pair. -/
theorem readText_pair (dialect : Dialect) (begun : List Char) {c : Char}
    (large : 0x10000 ≤ c.toNat) {rest : List Char} (more : rest ≠ []) :
    readText dialect begun none
        (numbered (0xD800 + (c.toNat - 0x10000) / 0x400) ++
          (numbered (0xDC00 + (c.toNat - 0x10000) % 0x400) ++ rest)) =
      prepend c (readText dialect begun none rest) := by
  have valid : c.toNat < 0xD800 ∨ 0xDFFF < c.toNat ∧ c.toNat < 0x110000 := c.valid
  have first : Text.isFirstHalf (0xD800 + (c.toNat - 0x10000) / 0x400) = true := by
    simp only [Text.isFirstHalf, Bool.and_eq_true, decide_eq_true_eq]
    omega
  have second : Text.isSecondHalf (0xDC00 + (c.toNat - 0x10000) % 0x400) = true := by
    simp only [Text.isSecondHalf, Bool.and_eq_true, decide_eq_true_eq]
    omega
  have pair : Text.pairNumber (0xD800 + (c.toNat - 0x10000) / 0x400)
      (0xDC00 + (c.toNat - 0x10000) % 0x400) = c.toNat := by
    unfold Text.pairNumber
    omega
  obtain ⟨a, b, d, e, firstDigits, firstFour⟩ :=
    fourHex?_hexDigits (n := 0xD800 + (c.toNat - 0x10000) / 0x400) (by omega)
  obtain ⟨w, x, y, z, secondDigits, secondFour⟩ :=
    fourHex?_hexDigits (n := 0xDC00 + (c.toNat - 0x10000) % 0x400) (by omega)
  simp only [numbered, firstDigits, secondDigits, List.cons_append, List.nil_append]
  rw [readText_firstHalf dialect begun firstFour first (List.cons_ne_nil _ _),
    readText_secondHalf dialect begun secondFour second more, pair, Char.ofNat_toNat]

/-! ## Texts -/

/-- What is written for a character is read as the character. -/
theorem readText_written (dialect : Dialect) (begun : List Char) (plain : Bool) {c : Char}
    (whole : plain = true → Text.isHalf c = false) {rest : List Char} (more : rest ≠ []) :
    readText dialect begun none (escaped plain c ++ rest) =
      prepend c (readText dialect begun none rest) := by
  have alone : (dialect = .project && (none : Option Nat).isSome) = false := Bool.and_false _
  have control {n : Nat} (same : c.toNat = n) : c = Char.ofNat n := by
    rw [← same, Char.ofNat_toNat]
  unfold escaped
  split
  next quote => exact readText_escaped dialect begun alone (by rw [quote]; rfl)
  next noQuote =>
  split
  next backslash => exact readText_escaped dialect begun alone (by rw [backslash]; rfl)
  next noBackslash =>
  split
  next feed => exact readText_escaped dialect begun alone (by rw [feed]; rfl)
  split
  next back => exact readText_escaped dialect begun alone (by rw [back]; rfl)
  split
  next tab => exact readText_escaped dialect begun alone (by rw [tab]; rfl)
  split
  next backspace => exact readText_escaped dialect begun alone (by rw [control backspace]; rfl)
  split
  next form => exact readText_escaped dialect begun alone (by rw [control form]; rfl)
  split
  next => exact readText_numbered_toNat dialect begun alone (by omega) more
  next noControl =>
  split
  next => exact readText_character dialect begun alone noQuote noBackslash (by omega)
  next notPrinted =>
  split
  next small => exact readText_numbered_toNat dialect begun alone small more
  next large =>
    have isPlain : plain = true := by
      cases plain with
      | true => rfl
      | false => exact absurd rfl notPrinted
    have noHalf : Text.half? c = none := by simpa [Text.isHalf] using whole isPlain
    simp only [noHalf, List.append_assoc]
    exact readText_pair dialect begun (by omega) more

/-- What is written for characters, up to a closing quote, is read as the characters. -/
theorem readText_characters (dialect : Dialect) (begun : List Char) (plain : Bool)
    {cs : List Char} (whole : plain = true → Text.Whole cs) (rest : List Char) :
    readText dialect begun none (cs.flatMap (escaped plain) ++ '"' :: rest) = .ok (cs, rest) := by
  induction cs with
  | nil => exact readText_quote dialect begun
  | cons c cs inductionHypothesis =>
    have read := inductionHypothesis fun isPlain d member =>
      whole isPlain d (List.mem_cons_of_mem c member)
    rw [List.flatMap_cons, List.append_assoc,
      readText_written dialect begun plain (fun isPlain => whole isPlain c List.mem_cons_self)
        (by simp), read]
    rfl

/-- Behind its opening quote a text is read as it was written, if it has no halves or they are
written as they are. -/
theorem readText_writeText (dialect : Dialect) (plain : Bool) {s : String}
    (whole : plain = true → Text.holdsHalf s = false) (rest : List Char) :
    ∃ body, writeText plain s ++ rest = '"' :: body ∧
      ∀ begun, readText dialect begun none body = .ok (s.toList, rest) := by
  refine ⟨s.toList.flatMap (escaped plain) ++ '"' :: rest, by simp [writeText], fun begun => ?_⟩
  exact readText_characters dialect begun plain
    (fun isPlain => (Text.holdsHalf_eq_false_iff s).mp (whole isPlain)) rest

end Gamebook.Json
