import Gamebook.Export.Script
import Gamebook.Proofs.Text.Line

/-!
# Labels of passage scripts

A label is what a reader takes from a link: every bar, closing bracket and backslash in
it has a backslash of its own. Escaping makes a label of any characters, taking the
escapes away gives them back, and a reader takes exactly the label that stands before a
bar or a bracket. A line is a link exactly when it is two labels between double brackets
with a bar between them.
-/

namespace Gamebook.Script

/-- Characters in which a bar, a closing bracket or a backslash follows a backslash. -/
inductive Escaped : List Char → Prop
  | empty : Escaped []
  | pair (c : Char) (rest : List Char) (others : Escaped rest) : Escaped ('\\' :: c :: rest)
  | plain (c : Char) (rest : List Char) (noSlash : c ≠ '\\') (noBar : c ≠ '|') (noClose : c ≠ ']')
      (others : Escaped rest) : Escaped (c :: rest)

/-! ## Escaping -/

@[simp] theorem escapeCharacters_nil : escapeCharacters [] = [] := rfl

@[simp] theorem escapeCharacters_cons (c : Char) (cs : List Char) :
    escapeCharacters (c :: cs) = escapeCharacter c ++ escapeCharacters cs := rfl

/-- A character that is not reserved is no part of the marks of a link. -/
theorem plain_of_not_reserved {c : Char} (free : isReserved c = false) :
    c ≠ '\\' ∧ c ≠ '|' ∧ c ≠ ']' := by
  simp only [isReserved, Bool.or_eq_false_iff, decide_eq_false_iff_not] at free
  exact ⟨free.1.1.1.1, free.2, free.1.1.2⟩

theorem unescapeCharacters_plain {c : Char} (noSlash : c ≠ '\\') (rest : List Char) :
    unescapeCharacters (c :: rest) = c :: unescapeCharacters rest := by
  rw [unescapeCharacters]
  exact fun _ _ isSlash => absurd isSlash noSlash

/-- Taking the escapes away undoes escaping, whatever the characters are. -/
theorem unescapeCharacters_escapeCharacters (cs : List Char) :
    unescapeCharacters (escapeCharacters cs) = cs := by
  induction cs with
  | nil => rfl
  | cons c rest inductionHypothesis =>
    cases reserved : isReserved c with
    | true => simp [escapeCharacter, reserved, unescapeCharacters, inductionHypothesis]
    | false =>
      have noSlash := (plain_of_not_reserved reserved).1
      simp [escapeCharacter, reserved, unescapeCharacters_plain noSlash, inductionHypothesis]

/-- Escaping makes a label. -/
theorem escapeCharacters_escaped (cs : List Char) : Escaped (escapeCharacters cs) := by
  induction cs with
  | nil => exact .empty
  | cons c rest inductionHypothesis =>
    cases reserved : isReserved c with
    | true => simpa [escapeCharacter, reserved] using Escaped.pair c _ inductionHypothesis
    | false =>
      obtain ⟨noSlash, noBar, noClose⟩ := plain_of_not_reserved reserved
      simpa [escapeCharacter, reserved] using
        Escaped.plain c _ noSlash noBar noClose inductionHypothesis

/-- Escaping adds no break. -/
theorem escapeCharacters_unbroken {cs : List Char} (unbroken : Text.Unbroken cs) :
    Text.Unbroken (escapeCharacters cs) := by
  induction cs with
  | nil => simp
  | cons c rest inductionHypothesis =>
    obtain ⟨kept, others⟩ := (Text.unbroken_cons c rest).mp unbroken
    have slash : Text.isLineBreak '\\' = false := by decide
    cases reserved : isReserved c <;>
      simp [escapeCharacter, reserved, kept, slash, inductionHypothesis others]

/-! ## Taking a label -/

theorem takeLabel_plain {c : Char} (noSlash : c ≠ '\\') (noBar : c ≠ '|') (noClose : c ≠ ']')
    (rest : List Char) :
    takeLabel (c :: rest) = (c :: (takeLabel rest).1, (takeLabel rest).2) := by
  rw [takeLabel]
  · simp [noSlash, noBar, noClose]
  · exact fun _ _ isSlash => absurd isSlash noSlash

/-- A reader takes the whole label before a bar or a closing bracket. -/
theorem takeLabel_append {label : List Char} (escaped : Escaped label) {stop : Char}
    (stops : stop = '|' ∨ stop = ']') (rest : List Char) :
    takeLabel (label ++ stop :: rest) = (label, stop :: rest) := by
  induction escaped with
  | empty => rcases stops with rfl | rfl <;> simp [takeLabel]
  | pair c others _ inductionHypothesis => simp [takeLabel, inductionHypothesis]
  | plain c others noSlash noBar noClose _ inductionHypothesis =>
    simp [takeLabel_plain noSlash noBar noClose, inductionHypothesis]

/-- What a reader takes is a label, and nothing is lost. -/
theorem takeLabel_spec (cs : List Char) :
    Escaped (takeLabel cs).1 ∧ (takeLabel cs).1 ++ (takeLabel cs).2 = cs := by
  induction cs using takeLabel.induct with
  | case1 c rest taken left _ inductionHypothesis =>
    obtain ⟨escaped, whole⟩ := inductionHypothesis
    simpa [takeLabel, whole] using Escaped.pair c _ escaped
  | case2 c rest notPair stops =>
    rw [takeLabel, if_pos stops]
    · exact ⟨.empty, rfl⟩
    · exact notPair
  | case3 c rest _ goesOn taken left _ inductionHypothesis =>
    obtain ⟨escaped, whole⟩ := inductionHypothesis
    simp only [Bool.or_eq_true, decide_eq_true_eq, not_or] at goesOn
    obtain ⟨⟨noSlash, noBar⟩, noClose⟩ := goesOn
    rw [takeLabel_plain noSlash noBar noClose]
    exact ⟨.plain c _ noSlash noBar noClose escaped, by simp [whole]⟩
  | case4 => exact ⟨.empty, rfl⟩

/-- The characters of a link between two labels. -/
def linkCharacters (text target : List Char) : List Char :=
  '[' :: '[' :: (text ++ '|' :: (target ++ [']', ']']))

/-- A line is a link exactly when it is two labels in the shape of one. -/
theorem linkLabels?_eq_some_iff (cs text target : List Char) :
    linkLabels? cs = some (text, target) ↔
      Escaped text ∧ Escaped target ∧ cs = linkCharacters text target := by
  constructor
  · intro found
    unfold linkLabels? at found
    split at found
    next inner =>
      split at found
      next taken afterBar takenText =>
        split at found
        next takenTarget =>
          obtain ⟨rfl, rfl⟩ := Prod.mk.inj (Option.some.inj found)
          obtain ⟨textEscaped, whole⟩ := takeLabel_spec inner
          obtain ⟨targetEscaped, wholeAfter⟩ := takeLabel_spec afterBar
          rw [takenText] at textEscaped whole
          rw [takenTarget] at targetEscaped wholeAfter
          exact ⟨textEscaped, targetEscaped, by simp [linkCharacters, ← whole, ← wholeAfter]⟩
        next => nomatch found
      next => nomatch found
    next => nomatch found
  · rintro ⟨textEscaped, targetEscaped, rfl⟩
    simp [linkLabels?, linkCharacters, takeLabel_append textEscaped,
      takeLabel_append targetEscaped]

end Gamebook.Script
