import Gamebook.Archive.Project
import Mathlib.Data.List.DropRight

/-!
# Keys of projects and of saved games

A key that passes the check is the given one without its outer blanks, so given keys name one
document when they differ in outer blanks alone. What the keys of projects and of saved games
begin with has no blanks at its ends: an id keeps the blanks in front, and loses those behind
it. Keys of the two kinds never meet, and two ids of one kind meet only where nothing but
blanks behind them tells them apart. An id is refused exactly when a path separator is in it.
-/

namespace Gamebook

/-- A text without the blanks at its end. -/
def Text.trimEnd (text : String) : String :=
  String.ofList (dropTrailingBlanks text.toList)

theorem Text.trimEnd_trimEnd (text : String) : trimEnd (trimEnd text) = trimEnd text := by
  have again : dropTrailingBlanks (dropTrailingBlanks text.toList) =
      dropTrailingBlanks text.toList := List.rdropWhile_idempotent isBlank text.toList
  rw [trimEnd, trimEnd, String.toList_ofList, again]

namespace Text

theorem dropBlanks_append {front : List Char} (nonempty : front ≠ [])
    (noBlank : ∀ c ∈ front, isBlank c = false) (rest : List Char) :
    dropBlanks (front ++ rest) = front ++ rest := by
  cases front with
  | nil => exact absurd rfl nonempty
  | cons c front => simp [dropBlanks, noBlank c List.mem_cons_self]

/-- Blanks that follow something else are dropped as they are dropped alone. -/
theorem dropTrailingBlanks_append {front : List Char} (nonempty : front ≠ [])
    (noBlank : ∀ c ∈ front, isBlank c = false) (rest : List Char) :
    dropTrailingBlanks (front ++ rest) = front ++ dropTrailingBlanks rest := by
  have reversed : dropBlanks front.reverse = front.reverse := by
    have kept := dropBlanks_append (List.reverse_ne_nil_iff.mpr nonempty)
      (fun c member => noBlank c (List.mem_reverse.mp member)) []
    simpa using kept
  unfold dropBlanks at reversed
  unfold dropTrailingBlanks dropBlanks
  rw [List.reverse_append, List.dropWhile_append]
  split
  next gone =>
    rw [List.isEmpty_iff.mp gone, reversed]
    simp
  next => simp

theorem noBlank_of_any {cs : List Char} (none : cs.any isBlank = false) :
    ∀ c ∈ cs, isBlank c = false :=
  fun c member => Bool.eq_false_iff.mpr (List.any_eq_false.mp none c member)

/-- A text that begins without blanks keeps its beginning when it is trimmed, and loses blanks at
its end alone. -/
theorem trim_append {front : String} (nonempty : front.toList ≠ [])
    (noBlank : ∀ c ∈ front.toList, isBlank c = false) (rest : String) :
    trim (front ++ rest) = front ++ trimEnd rest := by
  apply String.toList_inj.mp
  rw [trim, String.toList_ofList, String.toList_append, trimBlanks,
    dropBlanks_append nonempty noBlank, dropTrailingBlanks_append nonempty noBlank,
    String.toList_append, trimEnd, String.toList_ofList]

end Text

namespace Archive

/-- A given key passes the check as its trimmed text. -/
theorem checkKey_ok_iff (given key : String) :
    checkKey given = .ok key ↔
      Text.trim given = key ∧ key ≠ "" ∧ isPathLike key.toList = false := by
  have something : (Text.trimBlanks given.toList).isEmpty = false ↔ Text.trim given ≠ "" := by
    simp [Text.trim, ← String.toList_inj]
  constructor
  · intro checked
    unfold checkKey at checked
    cases empty : (Text.trimBlanks given.toList).isEmpty with
    | true => simp [empty] at checked
    | false =>
      cases pathLike : isPathLike (Text.trimBlanks given.toList) with
      | true => simp [empty, pathLike] at checked
      | false =>
        have same : Text.trim given = key := by simpa [empty, pathLike, Text.trim] using checked
        refine ⟨same, same ▸ something.mp empty, ?_⟩
        rw [← same, Text.trim, String.toList_ofList, pathLike]
  · rintro ⟨rfl, nonempty, noPath⟩
    rw [Text.trim, String.toList_ofList] at noPath
    simp [checkKey, something.mpr nonempty, noPath, Text.trim]

/-- Every key that the check gives is the trimmed text of what was given. -/
theorem trim_of_checkKey {given key : String} (checked : checkKey given = .ok key) :
    Text.trim given = key := ((checkKey_ok_iff given key).mp checked).1

/-! ## Marks -/

/-- What the keys of projects and of saved games begin with. -/
def marks : List String := [projectMark, gameMark]

theorem projectMark_isMark : projectMark ∈ marks := by simp [marks]

theorem gameMark_isMark : gameMark ∈ marks := by simp [marks]

theorem marks_noBlank {mark : String} (isMark : mark ∈ marks) :
    mark.toList ≠ [] ∧ ∀ c ∈ mark.toList, Text.isBlank c = false := by
  have each : ∀ mark ∈ marks, mark.toList ≠ [] ∧ mark.toList.any Text.isBlank = false := by
    decide +kernel
  obtain ⟨nonempty, noBlank⟩ := each mark isMark
  exact ⟨nonempty, Text.noBlank_of_any noBlank⟩

/-- A mark in front of an id keeps the blanks in front of the id. -/
theorem trim_marked {mark : String} (isMark : mark ∈ marks) (id : String) :
    Text.trim (mark ++ id) = mark ++ Text.trimEnd id := by
  obtain ⟨nonempty, noBlank⟩ := marks_noBlank isMark
  exact Text.trim_append nonempty noBlank id

/-- Keys are equal only for equal ids of one kind. -/
theorem marked_inj {mark other a b : String} (isMark : mark ∈ marks) (otherIsMark : other ∈ marks)
    (same : mark ++ a = other ++ b) : a = b := by
  have first := congrArg (fun text => text.toList.head?) same
  have sameMark : mark = other := by
    simp only [marks, List.mem_cons, List.not_mem_nil, or_false] at isMark otherIsMark
    rcases isMark with rfl | rfl <;> rcases otherIsMark with rfl | rfl
    · rfl
    · exact absurd first (by simp [projectMark, gameMark])
    · exact absurd first (by simp [projectMark, gameMark])
    · rfl
  subst sameMark
  have characters := congrArg String.toList same
  rw [String.toList_append, String.toList_append] at characters
  exact String.toList_inj.mp (List.append_cancel_left characters)

/-! ## Refused ids -/

/-- A path separator is among the characters of the id. -/
def HasSeparator (id : String) : Prop := '/' ∈ id.toList ∨ '\\' ∈ id.toList

instance (id : String) : Decidable (HasSeparator id) := instDecidableOr

theorem mem_trimEnd {c : Char} (noBlank : Text.isBlank c = false) (id : String) :
    c ∈ (Text.trimEnd id).toList ↔ c ∈ id.toList := by
  have dropped (cs : List Char) : c ∈ Text.dropBlanks cs ↔ c ∈ cs := by
    constructor
    · exact (List.dropWhile_sublist _).mem
    · intro member
      rw [← List.takeWhile_append_dropWhile (p := Text.isBlank) (l := cs)] at member
      refine (List.mem_append.mp member).resolve_left fun blank => ?_
      exact absurd (List.mem_takeWhile_imp blank) (noBlank ▸ Bool.false_ne_true)
  rw [Text.trimEnd, String.toList_ofList, Text.dropTrailingBlanks, List.mem_reverse, dropped,
    List.mem_reverse]

/-- A mark in front of an id brings no separator and hides no dot: the key looks like a path
exactly when the id has a separator. -/
theorem isPathLike_marked {mark : String} (isMark : mark ∈ marks) (id : String) :
    isPathLike (mark ++ Text.trimEnd id).toList = true ↔ HasSeparator id := by
  have plain : ∀ mark ∈ marks, isPathLike mark.toList = false := by decide +kernel
  have noPath := plain mark isMark
  obtain ⟨c, rest, characters⟩ := List.exists_cons_of_ne_nil (marks_noBlank isMark).1
  simp only [isPathLike, Bool.or_eq_false_iff, List.contains_eq_mem, decide_eq_false_iff_not]
    at noPath
  obtain ⟨⟨noSlash, noBackslash⟩, noDot⟩ := noPath
  have sameHead : (mark ++ Text.trimEnd id).toList.head? = mark.toList.head? := by
    simp [characters]
  have slash : '/' ∈ (mark ++ Text.trimEnd id).toList ↔ '/' ∈ id.toList := by
    rw [String.toList_append, List.mem_append, or_iff_right noSlash, mem_trimEnd rfl]
  have backslash : '\\' ∈ (mark ++ Text.trimEnd id).toList ↔ '\\' ∈ id.toList := by
    rw [String.toList_append, List.mem_append, or_iff_right noBackslash, mem_trimEnd rfl]
  simp only [isPathLike, Bool.or_eq_true_iff, List.contains_eq_mem, decide_eq_true_eq, slash,
    backslash, sameHead, noDot, Bool.false_eq_true, or_false, HasSeparator]

/-- The key of an id of either kind is refused exactly when the id has a separator. -/
theorem checkKey_marked {mark : String} (isMark : mark ∈ marks) (id : String) :
    checkKey (mark ++ id) =
      if HasSeparator id then .error (.pathLike (mark ++ id))
      else .ok (mark ++ Text.trimEnd id) := by
  have trimmed : Text.trimBlanks (mark ++ id).toList = (mark ++ Text.trimEnd id).toList := by
    rw [← trim_marked isMark, Text.trim, String.toList_ofList]
  have nonempty : (mark ++ Text.trimEnd id).toList.isEmpty = false := by
    have something := (marks_noBlank isMark).1
    simp [something]
  have pathLike := isPathLike_marked isMark id
  simp only [checkKey, trimmed, nonempty, pathLike, String.ofList_toList, Bool.false_eq_true,
    if_false]

end Archive

end Gamebook
