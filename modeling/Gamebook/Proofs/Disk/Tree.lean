import Gamebook.Disk
import Gamebook.Proofs.Entries

/-!
# Trees

What is put or erased below a place changes the entry at this place and leads no name astray:
as long as no directory is overwritten or erased, wherever there was a directory there is one
afterwards.
-/

namespace Gamebook

namespace Node

/-! ## Places in a tree -/

section Steps

variable {entries : List (String × Node)} {name : String} {child : Node}

theorem find_known (known : Entries.get? entries name = some child) (rest : List String) :
    (directory entries).find (name :: rest) = child.find rest := by
  rw [find, known]

/-- A place that begins with the name of what was put leads through it. -/
theorem find_put (entries : List (String × Node)) (name : String) (child : Node)
    (rest : List String) :
    (directory (Entries.put name child entries)).find (name :: rest) = child.find rest :=
  find_known (Entries.get?_put_self _ _ _) rest

theorem find_new (fresh : Entries.get? entries name = none) (rest : List String) :
    (directory entries).find (name :: rest) = .error .missing := by
  rw [find, fresh]

theorem put_known (known : Entries.get? entries name = some child) (rest : List String)
    (entry : Node) : (directory entries).put (name :: rest) entry =
      directory (Entries.put name (child.put rest entry) entries) := by
  rw [put.eq_def]
  simp only [known]

theorem put_new (fresh : Entries.get? entries name = none) (entry : Node) :
    (directory entries).put [name] entry = directory (Entries.put name entry entries) := by
  rw [put.eq_def]
  simp only [fresh]

theorem put_missing (fresh : Entries.get? entries name = none) (next : String)
    (rest : List String) (entry : Node) :
    (directory entries).put (name :: next :: rest) entry = directory entries := by
  rw [put.eq_def]
  simp only [fresh]

/-- A file is put into a directory under its name, whether the name is there or not. -/
theorem put_child (entries : List (String × Node)) (name : String) (entry : Node) :
    (directory entries).put [name] entry = directory (Entries.put name entry entries) := by
  cases known : Entries.get? entries name with
  | none => exact put_new known entry
  | some child => exact put_known known [] entry

theorem erase_known (known : Entries.get? entries name = some child) (next : String)
    (rest : List String) : (directory entries).erase (name :: next :: rest) =
      directory (Entries.put name (child.erase (next :: rest)) entries) := by
  rw [erase, known]
  exact fun isLast => nomatch isLast

theorem erase_missing (fresh : Entries.get? entries name = none) (next : String)
    (rest : List String) : (directory entries).erase (name :: next :: rest) =
      directory entries := by
  rw [erase, fresh]
  exact fun isLast => nomatch isLast

end Steps

theorem find_nil (node : Node) : node.find [] = .ok node := by
  cases node <;> rfl

theorem find_append (node : Node) (names more : List String) :
    node.find (names ++ more) = (node.find names).bind (·.find more) := by
  induction names generalizing node with
  | nil => cases more <;> rfl
  | cons name rest inductionHypothesis =>
    cases node with
    | file bytes => rfl
    | directory entries =>
      rw [List.cons_append, find, find]
      cases Entries.get? entries name with
      | none => rfl
      | some child => exact inductionHypothesis child

/-- A place that begins with a name leads through the entry with this name. -/
theorem exists_of_find {entries : List (String × Node)} {name : String} {rest : List String}
    {node : Node} (found : (directory entries).find (name :: rest) = .ok node) :
    ∃ child, Entries.get? entries name = some child ∧ child.find rest = .ok node := by
  cases known : Entries.get? entries name with
  | none =>
    rw [find_new known] at found
    nomatch found
  | some child => exact ⟨child, rfl, by rwa [find_known known] at found⟩

/-- What is put below a place changes the entry at this place. -/
theorem find_put_append {root node : Node} {place : List String}
    (found : root.find place = .ok node) (names : List String) (entry : Node) :
    (root.put (place ++ names) entry).find place = .ok (node.put names entry) := by
  induction place generalizing root with
  | nil =>
    obtain rfl : root = node := Except.ok.inj ((find_nil root).symm.trans found)
    exact find_nil _
  | cons name rest inductionHypothesis =>
    cases root with
    | file bytes => nomatch found
    | directory entries =>
      obtain ⟨child, known, below⟩ := exists_of_find found
      rw [List.cons_append, put_known known, find_put]
      exact inductionHypothesis below

/-- What is erased below a place changes the entry at this place. -/
theorem find_erase_append {root node : Node} {place : List String}
    (found : root.find place = .ok node) (name : String) (names : List String) :
    (root.erase (place ++ name :: names)).find place = .ok (node.erase (name :: names)) := by
  induction place generalizing root with
  | nil =>
    obtain rfl : root = node := Except.ok.inj ((find_nil root).symm.trans found)
    exact find_nil _
  | cons first rest inductionHypothesis =>
    cases root with
    | file bytes => nomatch found
    | directory entries =>
      obtain ⟨child, known, below⟩ := exists_of_find found
      obtain ⟨next, more, same⟩ : ∃ next more, rest ++ name :: names = next :: more := by
        cases rest <;> exact ⟨_, _, rfl⟩
      have erased := inductionHypothesis below
      rw [same] at erased
      rw [List.cons_append, same, erase_known known, find_put]
      exact erased

/-! ## Directories that stay -/

/-- Wherever there was a directory there is one afterwards. -/
def KeepsDirectories (before after : Node) : Prop :=
  ∀ names entries, before.find names = .ok (.directory entries) →
    ∃ others, after.find names = .ok (.directory others)

theorem KeepsDirectories.refl (node : Node) : KeepsDirectories node node :=
  fun _ entries found => ⟨entries, found⟩

/-- A directory whose entry under one name is replaced by one that keeps its directories. -/
theorem keepsDirectories_directory {entries : List (String × Node)} {name : String} {inner : Node}
    (keeps : ∀ child, Entries.get? entries name = some child → KeepsDirectories child inner) :
    KeepsDirectories (directory entries) (directory (Entries.put name inner entries)) := by
  intro names others found
  cases names with
  | nil => exact ⟨_, rfl⟩
  | cons first more =>
    obtain ⟨child, known, below⟩ := exists_of_find found
    by_cases same : name = first
    · subst same
      rw [find_put]
      exact keeps child known more others below
    · rw [find_known (by rw [Entries.get?_put, if_neg same, known])]
      exact ⟨others, below⟩

/-- A directory whose entry under a name keeps its directories keeps them too. -/
theorem keepsDirectories_below {entries : List (String × Node)} {name : String}
    {child inner : Node} (known : Entries.get? entries name = some child)
    (keeps : KeepsDirectories child inner) :
    KeepsDirectories (directory entries) (directory (Entries.put name inner entries)) := by
  apply keepsDirectories_directory
  intro other isChild
  obtain rfl : child = other := Option.some.inj (known.symm.trans isChild)
  exact keeps

/-- Where no directory is, something can be put and every directory stays. -/
theorem keepsDirectories_put {root : Node} {place : List String}
    (noDirectory : ∀ entries, root.find place ≠ .ok (.directory entries)) (entry : Node) :
    KeepsDirectories root (root.put place entry) := by
  induction place generalizing root with
  | nil =>
    intro names entries found
    cases root with
    | directory others => exact absurd rfl (noDirectory others)
    | file bytes => cases names <;> nomatch found
  | cons name rest inductionHypothesis =>
    cases root with
    | file bytes => exact .refl _
    | directory others =>
      cases known : Entries.get? others name with
      | none =>
        cases rest with
        | nil =>
          rw [put_new known]
          exact keepsDirectories_directory fun child isChild => nomatch known.symm.trans isChild
        | cons next more =>
          rw [put_missing known]
          exact .refl _
      | some child =>
        rw [put_known known]
        apply keepsDirectories_below known
        apply inductionHypothesis
        intro inner isDirectory
        exact noDirectory inner ((find_known known rest).trans isDirectory)

/-- Where no directory is, the entry can be erased and every directory stays. -/
theorem keepsDirectories_erase {root : Node} {place : List String}
    (noDirectory : ∀ entries, root.find place ≠ .ok (.directory entries)) :
    KeepsDirectories root (root.erase place) := by
  induction place generalizing root with
  | nil =>
    rw [erase.eq_1]
    exact .refl root
  | cons name rest inductionHypothesis =>
    cases root with
    | file bytes => exact .refl _
    | directory others =>
      cases rest with
      | nil =>
        intro names entries found
        cases names with
        | nil => exact ⟨_, rfl⟩
        | cons first more =>
          obtain ⟨child, known, below⟩ := exists_of_find found
          have other : name ≠ first := by
            rintro rfl
            cases child with
            | file bytes => cases more <;> nomatch below
            | directory inner =>
              exact noDirectory inner ((find_known known []).trans (find_nil _))
          have kept : Entries.get? (Entries.erase others name) first = some child := by
            rw [Entries.get?_erase, if_neg other, known]
          exact ⟨entries, (find_known kept more).trans below⟩
      | cons next more =>
        cases known : Entries.get? others name with
        | none =>
          rw [erase_missing known]
          exact .refl _
        | some child =>
          rw [erase_known known]
          apply keepsDirectories_below known
          apply inductionHypothesis
          intro inner isDirectory
          exact noDirectory inner ((find_known known (next :: more)).trans isDirectory)

end Node

end Gamebook
