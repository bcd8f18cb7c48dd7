import Gamebook.Story.Editing
import Mathlib.Data.List.Nodup

/-!
# Changes of a list of items with ids

A change adds an item, puts one in the place of another or removes one. What it makes of a list
is said by a relation that does not mention how the place is found, and for each routine that
looks for a place it is shown that it makes that change: the routines that stop at the first item
with the id, and, where ids differ, those that go over all of them.
-/

namespace Gamebook

variable {α : Type} {idOf : α → String} {id : String} {items before after : List α} {x old : α}

/-! ## The first with an id -/

/-- The first item with an id, and the items before and after it. -/
structure FirstAt (idOf : α → String) (id : String) (items before : List α) (old : α)
    (after : List α) : Prop where
  split : items = before ++ old :: after
  named : idOf old = id
  first : ∀ other ∈ before, idOf other ≠ id

theorem exists_firstAt (known : id ∈ items.map idOf) :
    ∃ before old after, FirstAt idOf id items before old after := by
  induction items with
  | nil => exact absurd known List.not_mem_nil
  | cons head rest inductionHypothesis =>
    by_cases here : idOf head = id
    · exact ⟨[], head, rest, rfl, here, nofun⟩
    · have later : id ∈ rest.map idOf :=
        (List.mem_cons.mp known).resolve_left fun same => here same.symm
      obtain ⟨before, old, after, rfl, named, first⟩ := inductionHypothesis later
      exact ⟨head :: before, old, after, rfl, named, List.forall_mem_cons.mpr ⟨here, first⟩⟩

theorem FirstAt.old_mem (at' : FirstAt idOf id items before old after) : old ∈ items := by
  rw [at'.split]
  exact List.mem_append_right before List.mem_cons_self

theorem FirstAt.mem (at' : FirstAt idOf id items before old after) : id ∈ items.map idOf := by
  rw [← at'.named]
  exact List.mem_map_of_mem at'.old_mem

/-- A lookup finds the first. -/
theorem FirstAt.find? (at' : FirstAt idOf id items before old after) :
    items.find? (idOf · == id) = some old := by
  obtain ⟨rfl, rfl, first⟩ := at'
  have missed : before.find? (idOf · == idOf old) = none := by
    simpa [List.find?_eq_none] using first
  simp [missed]

/-- It is also the first with the id of another item that has the same one. -/
theorem FirstAt.again {other : α} (at' : FirstAt idOf id items before old after)
    (same : idOf other = idOf old) : FirstAt idOf (idOf other) items before old after where
  split := at'.split
  named := same.symm
  first := by
    rw [same, at'.named]
    exact at'.first

/-- Where ids differ, the items after the first with an id do not have it either. -/
theorem FirstAt.only (at' : FirstAt idOf id items before old after)
    (distinct : (items.map idOf).Nodup) : ∀ other ∈ after, idOf other ≠ id := by
  obtain ⟨rfl, rfl, -⟩ := at'
  intro other member same
  rw [List.map_append, List.map_cons] at distinct
  have fresh := (List.nodup_cons.mp (List.nodup_append.mp distinct).2.1).1
  exact fresh (same ▸ List.mem_map_of_mem member)

/-- Without the first the others stand as they did. -/
theorem FirstAt.removed_sublist (at' : FirstAt idOf id items before old after) :
    (before ++ after).Sublist items := by
  rw [at'.split]
  exact (List.Sublist.refl before).append (List.sublist_cons_self old after)

/-! ## Changes of a list -/

/-- A change of a list of items with ids. -/
inductive Change (α : Type)
  | add (x : α)
  | replace (x : α)
  | remove (id : String)

/-- What a change makes of a list: a new item stands behind the others under an id of its own,
another one in the place of the first with its id, and a removed one is gone. -/
inductive Changes (idOf : α → String) : Change α → List α → List α → Prop
  | add {x : α} {items : List α} (fresh : idOf x ∉ items.map idOf) :
      Changes idOf (.add x) items (items ++ [x])
  | replace {x old : α} {items before after : List α}
      (at' : FirstAt idOf (idOf x) items before old after) :
      Changes idOf (.replace x) items (before ++ x :: after)
  | remove {id : String} {old : α} {items before after : List α}
      (at' : FirstAt idOf id items before old after) :
      Changes idOf (.remove id) items (before ++ after)

/-- Ids that differ before a change differ after it. -/
theorem Changes.nodup {change : Change α} {changed : List α}
    (changes : Changes idOf change items changed) (distinct : (items.map idOf).Nodup) :
    (changed.map idOf).Nodup := by
  cases changes with
  | add fresh =>
    rw [List.map_append, List.map_singleton]
    exact List.Nodup.append distinct (List.nodup_singleton _)
      (List.disjoint_singleton.mpr fresh)
  | replace at' =>
    rw [at'.split, List.map_append, List.map_cons, at'.named] at distinct
    rwa [List.map_append, List.map_cons]
  | remove at' => exact (at'.removed_sublist.map idOf).nodup distinct

/-- What holds of every item, and of the one that a change brings in, holds of every item after
it. -/
theorem Changes.forall_mem {P : α → Prop} {change : Change α} {changed : List α}
    (changes : Changes idOf change items changed) (held : ∀ item ∈ items, P item)
    (new : ∀ x, change = .add x ∨ change = .replace x → P x) : ∀ item ∈ changed, P item := by
  intro item member
  cases changes with
  | add fresh =>
    rcases List.mem_append.mp member with known | isNew
    · exact held item known
    · exact List.mem_singleton.mp isNew ▸ new _ (.inl rfl)
  | replace at' =>
    rcases List.mem_append.mp member with isBefore | rest
    · exact held item (at'.split ▸ List.mem_append_left _ isBefore)
    · rcases List.mem_cons.mp rest with rfl | isAfter
      · exact new _ (.inr rfl)
      · exact held item (at'.split ▸ List.mem_append_right _ (List.mem_cons_of_mem _ isAfter))
  | remove at' => exact held item (at'.removed_sublist.subset member)

/-! ## How a change is made -/

theorem replaceFirst?_eq_none (unknown : idOf x ∉ items.map idOf) :
    replaceFirst? idOf x items = none := by
  induction items with
  | nil => rfl
  | cons head rest inductionHypothesis =>
    rw [List.map_cons, List.mem_cons, not_or] at unknown
    simp [replaceFirst?, Ne.symm unknown.1, inductionHypothesis unknown.2]

theorem removeFirst?_eq_none (unknown : id ∉ items.map idOf) :
    removeFirst? idOf id items = none := by
  induction items with
  | nil => rfl
  | cons head rest inductionHypothesis =>
    rw [List.map_cons, List.mem_cons, not_or] at unknown
    simp [removeFirst?, Ne.symm unknown.1, inductionHypothesis unknown.2]

theorem FirstAt.replaceFirst? (at' : FirstAt idOf (idOf x) items before old after) :
    Gamebook.replaceFirst? idOf x items = some (before ++ x :: after) := by
  obtain ⟨rfl, named, first⟩ := at'
  induction before with
  | nil => simp [Gamebook.replaceFirst?, named]
  | cons head rest inductionHypothesis =>
    obtain ⟨here, there⟩ := List.forall_mem_cons.mp first
    simp [Gamebook.replaceFirst?, here, inductionHypothesis there]

theorem FirstAt.removeFirst? (at' : FirstAt idOf id items before old after) :
    Gamebook.removeFirst? idOf id items = some (old, before ++ after) := by
  obtain ⟨rfl, named, first⟩ := at'
  induction before with
  | nil => simp [Gamebook.removeFirst?, named]
  | cons head rest inductionHypothesis =>
    obtain ⟨here, there⟩ := List.forall_mem_cons.mp first
    simp [Gamebook.removeFirst?, here, inductionHypothesis there]

/-- Where ids differ, putting an item in the place of all with its id is putting it in the place
of the first. -/
theorem FirstAt.map_replaced (at' : FirstAt idOf (idOf x) items before old after)
    (distinct : (items.map idOf).Nodup) :
    (items.map fun other => if idOf other = idOf x then x else other) =
      before ++ x :: after := by
  have keep (others : List α) (different : ∀ other ∈ others, idOf other ≠ idOf x) :
      (others.map fun other => if idOf other = idOf x then x else other) = others := by
    rw [List.map_congr_left fun other member => if_neg (different other member), List.map_id']
  rw [at'.split, List.map_append, List.map_cons, if_pos at'.named, keep before at'.first,
    keep after (at'.only distinct)]

/-- Leaving out all with an id that no item has leaves out nothing. -/
theorem filter_eq_self_of_unknown (unknown : ∀ other ∈ items, idOf other ≠ id) :
    items.filter (idOf · != id) = items :=
  List.filter_eq_self.mpr fun other member => bne_iff_ne.mpr (unknown other member)

/-- Where ids differ, leaving out all with an id is leaving out the first. -/
theorem FirstAt.filter_removed (at' : FirstAt idOf id items before old after)
    (distinct : (items.map idOf).Nodup) :
    items.filter (idOf · != id) = before ++ after := by
  rw [at'.split, List.filter_append, List.filter_cons_of_neg (by simp [at'.named]),
    filter_eq_self_of_unknown at'.first, filter_eq_self_of_unknown (at'.only distinct)]

theorem changes_add_iff {changed : List α} :
    Changes idOf (.add x) items changed ↔ idOf x ∉ items.map idOf ∧ items ++ [x] = changed := by
  constructor
  · rintro ⟨fresh⟩
    exact ⟨fresh, rfl⟩
  · rintro ⟨fresh, rfl⟩
    exact .add fresh

theorem changes_replace_iff {changed : List α} :
    Changes idOf (.replace x) items changed ↔ replaceFirst? idOf x items = some changed := by
  constructor
  · rintro ⟨⟩
    next at' => exact at'.replaceFirst?
  · intro replaced
    by_cases known : idOf x ∈ items.map idOf
    · obtain ⟨before, old, after, at'⟩ := exists_firstAt known
      obtain rfl := Option.some.inj (at'.replaceFirst?.symm.trans replaced)
      exact .replace at'
    · exact nomatch (replaceFirst?_eq_none known).symm.trans replaced

theorem changes_remove_iff {changed : List α} :
    Changes idOf (.remove id) items changed ↔
      ∃ removed, removeFirst? idOf id items = some (removed, changed) := by
  constructor
  · rintro ⟨⟩
    next at' => exact ⟨_, at'.removeFirst?⟩
  · rintro ⟨removed, isRemoved⟩
    by_cases known : id ∈ items.map idOf
    · obtain ⟨before, old, after, at'⟩ := exists_firstAt known
      obtain ⟨-, rfl⟩ := Prod.mk.inj (Option.some.inj (at'.removeFirst?.symm.trans isRemoved))
      exact .remove at'
    · exact nomatch (removeFirst?_eq_none known).symm.trans isRemoved

theorem changes_replace_iff_map (distinct : (items.map idOf).Nodup) {changed : List α} :
    Changes idOf (.replace x) items changed ↔ idOf x ∈ items.map idOf ∧
      (items.map fun other => if idOf other = idOf x then x else other) = changed := by
  constructor
  · rintro ⟨⟩
    next at' => exact ⟨at'.mem, at'.map_replaced distinct⟩
  · rintro ⟨known, rfl⟩
    obtain ⟨before, old, after, at'⟩ := exists_firstAt known
    exact at'.map_replaced distinct ▸ .replace at'

theorem changes_remove_iff_filter (distinct : (items.map idOf).Nodup) {changed : List α} :
    Changes idOf (.remove id) items changed ↔
      id ∈ items.map idOf ∧ items.filter (idOf · != id) = changed := by
  constructor
  · rintro ⟨⟩
    next at' => exact ⟨at'.mem, at'.filter_removed distinct⟩
  · rintro ⟨known, rfl⟩
    obtain ⟨before, old, after, at'⟩ := exists_firstAt known
    exact at'.filter_removed distinct ▸ .remove at'

end Gamebook
