/-!
# Occurrences of a pattern

A pattern occurs in a text at every place where it begins. Some characters add a number of
occurrences to whatever stands behind them, if no occurrence begins in them that only ends
there. They add none if, from each of their places on, they differ from the pattern before
either of the two ends.
-/

namespace Gamebook.Text

/-- How many places of a text the pattern begins at. -/
def occurrences (pattern : List Char) : List Char → Nat
  | [] => 0
  | c :: rest =>
    (if pattern.isPrefixOf (c :: rest) then 1 else 0) + occurrences pattern rest

/-- The characters add so many occurrences to any text behind them. -/
def Adds (pattern cs : List Char) (count : Nat) : Prop :=
  ∀ rest, occurrences pattern (cs ++ rest) = count + occurrences pattern rest

namespace Adds

variable {pattern : List Char}

theorem nil (pattern : List Char) : Adds pattern [] 0 := fun _ => (Nat.zero_add _).symm

theorem append {cs ds : List Char} {front back : Nat} (first : Adds pattern cs front)
    (second : Adds pattern ds back) : Adds pattern (cs ++ ds) (front + back) := by
  intro rest
  rw [List.append_assoc, first, second, Nat.add_assoc]

/-- With nothing behind them, the characters have the occurrences that they add. -/
theorem occurrences_eq {cs : List Char} {count : Nat} (adds : Adds pattern cs count) :
    occurrences pattern cs = count := by
  simpa [occurrences] using adds []

end Adds

/-! ## Characters without an occurrence -/

/-- Whether the two differ at a place that both have. -/
def differ : List Char → List Char → Bool
  | p :: pattern, c :: cs => p != c || differ pattern cs
  | _, _ => false

/-- Whether, from each of their places on, the characters differ from the pattern. -/
def clearOf (pattern : List Char) : List Char → Bool
  | [] => true
  | c :: rest => differ pattern (c :: rest) && clearOf pattern rest

/-- What differs from a pattern does not begin with it, however both go on. -/
theorem isPrefixOf_of_differ {pattern cs : List Char} (differs : differ pattern cs = true)
    (more rest : List Char) : (pattern ++ more).isPrefixOf (cs ++ rest) = false := by
  fun_induction differ pattern cs with
  | case1 p pattern c cs inductionHypothesis =>
    rw [List.cons_append, List.cons_append, List.isPrefixOf]
    cases same : p == c with
    | false => rfl
    | true =>
      rw [bne, same] at differs
      exact inductionHypothesis differs
  | case2 => nomatch differs

/-- What is clear of the begin of a pattern adds no occurrence of the whole. -/
theorem adds_of_clearOf {start cs : List Char} (clear : clearOf start cs = true)
    (more : List Char) : Adds (start ++ more) cs 0 := by
  intro rest
  induction cs with
  | nil => exact (Nat.zero_add _).symm
  | cons c cs inductionHypothesis =>
    obtain ⟨here, there⟩ := (Bool.and_eq_true _ _).mp clear
    rw [List.cons_append, occurrences, inductionHypothesis there, ← List.cons_append,
      isPrefixOf_of_differ here]
    simp

/-- Characters without the first one of a pattern are clear of it. -/
theorem clearOf_of_absent {first : Char} {cs : List Char} (absent : first ∉ cs)
    (pattern : List Char) : clearOf (first :: pattern) cs = true := by
  induction cs with
  | nil => rfl
  | cons c cs inductionHypothesis =>
    obtain ⟨notHere, notThere⟩ := not_or.mp (mt List.mem_cons.mpr absent)
    simp [clearOf, differ, notHere, inductionHypothesis notThere]

/-- A pattern whose first character does not come again adds one occurrence of itself. -/
theorem adds_self {first : Char} {pattern : List Char} (once : first ∉ pattern) :
    Adds (first :: pattern) (first :: pattern) 1 := by
  intro rest
  have none : Adds (first :: pattern) pattern 0 :=
    adds_of_clearOf (clearOf_of_absent once []) pattern
  have here : (first :: pattern).isPrefixOf (first :: (pattern ++ rest)) = true :=
    List.isPrefixOf_iff_prefix.mpr ⟨rest, rfl⟩
  rw [List.cons_append, occurrences, here, none rest]
  simp

end Gamebook.Text
