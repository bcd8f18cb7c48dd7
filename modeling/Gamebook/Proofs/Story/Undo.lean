import Gamebook.Proofs.Entries
import Gamebook.Proofs.Story.Editing

/-!
# Removing what was added

What an edit has added stands behind all others under an id that none of them has, so the removal
with that id finds it and nothing else, and the project is what it was; entities with equal ids
among the others do not matter. So are several additions undone, the last one first.

A variable is set under its trimmed key, but removed under the key as it is given. The same key
removes it again exactly when it has no outer blanks; otherwise nothing is removed, or the variable
that an untrimmed document has under that very key.
-/

namespace Gamebook

/-! ## Lists of items with ids -/

section Items

variable {α : Type} {idOf : α → String} {items changed : List α} {x : α}

theorem firstAt_added (fresh : idOf x ∉ items.map idOf) :
    FirstAt idOf (idOf x) (items ++ [x]) items x [] where
  split := rfl
  named := rfl
  first _ member same := fresh (same ▸ List.mem_map_of_mem member)

/-- Removing the first item with the id of an added one undoes its addition. -/
theorem Changes.removed (changes : Changes idOf (.add x) items changed) :
    Changes idOf (.remove (idOf x)) changed items := by
  obtain ⟨fresh⟩ := changes
  have undone := Changes.remove (firstAt_added fresh)
  rwa [List.append_nil] at undone

/-- So does leaving out all items with its id. -/
theorem Changes.filtered (changes : Changes idOf (.add x) items changed) :
    changed.any (idOf · == idOf x) = true ∧ changed.filter (idOf · != idOf x) = items := by
  obtain ⟨fresh⟩ := changes
  have added := firstAt_added fresh
  refine ⟨(any_id_iff _ _).mpr added.mem, ?_⟩
  rw [List.filter_append, filter_eq_self_of_unknown added.first]
  simp

end Items

/-! ## Edits -/

/-- The removal with the id or key that an addition was given. -/
def Edit.removal? : Edit → Option Edit
  | .scene (.add new) => some (.scene (.remove new.id))
  | .choice sceneId (.add new) => some (.choice sceneId (.remove new.id))
  | .character (.add new) => some (.character (.remove new.id))
  | .item (.add new) => some (.item (.remove new.id))
  | .setVariable key _ => some (.removeVariable key)
  | _ => none

/-- If the edit sets a variable, the project has none under the trimmed key. -/
def Edit.SetsNew (project : Project) : Edit → Prop
  | .setVariable key _ => Text.trim key ∉ project.declared.keys
  | _ => True

/-- If the edit sets a variable, its key has no outer blanks. -/
def Edit.KeyTrimmed : Edit → Prop
  | .setVariable key _ => Text.trim key = key
  | _ => True

variable {project changed : Project} {edit removal : Edit} {key : String} {value : VariableValue}

theorem removeScene_added {new : Scene}
    (made : (Edit.scene (.add new)).apply project = .ok changed) :
    (Edit.scene (.remove new.id)).apply changed = .ok project := by
  obtain ⟨scenes, changes, rfl⟩ := scene_ok_iff.mp made
  exact scene_ok_iff.mpr ⟨project.scenes, changes.removed, rfl⟩

theorem removeChoice_added {sceneId : String} {new : Choice}
    (made : (Edit.choice sceneId (.add new)).apply project = .ok changed) :
    (Edit.choice sceneId (.remove new.id)).apply changed = .ok project := by
  by_cases known : sceneId ∈ project.sceneIds
  · obtain ⟨before, scene, after, at'⟩ := exists_firstAt known
    obtain ⟨choices, changes, rfl⟩ := (addChoice_ok_iff at').mp made
    -- the scene with one choice more is again the first with its id
    have back : FirstAt Scene.id sceneId (before ++ { scene with choices := choices } :: after)
        before { scene with choices := choices } after := ⟨rfl, at'.named, at'.first⟩
    have known : (Scene.choice? { scene with choices := choices } new.id).isNone = false := by
      rw [← Option.not_isSome, Scene.choice?, List.isSome_find?, changes.filtered.1]
      rfl
    rw [Edit.apply, Project.removeChoice, requireScene_eq back]
    dsimp only
    rw [if_neg (Bool.eq_false_iff.mp known), withChoices_eq back, changes.filtered.2, ← at'.split]
  · cases (choice_error known).symm.trans made

theorem removeCharacter_added {new : Character}
    (made : (Edit.character (.add new)).apply project = .ok changed) :
    (Edit.character (.remove new.id)).apply changed = .ok project := by
  let rebuild (characters : List Character) : Project := { project with characters := characters }
  obtain ⟨characters, changes, rfl⟩ := (added_ok_iff rebuild).mp made
  simp only [Edit.apply, Project.removeCharacter, rebuild, changes.filtered, if_true]

theorem removeItem_added {new : Item}
    (made : (Edit.item (.add new)).apply project = .ok changed) :
    (Edit.item (.remove new.id)).apply changed = .ok project := by
  let rebuild (items : List Item) : Project := { project with items := items }
  obtain ⟨items, changes, rfl⟩ := (added_ok_iff rebuild).mp made
  simp only [Edit.apply, Project.removeItem, rebuild, changes.filtered, if_true]

/-- What is left of the variables when a new one has been set under its trimmed key and the key
that was given is removed. -/
theorem removeVariable_set (new : Text.trim key ∉ project.declared.keys)
    (made : (Edit.setVariable key value).apply project = .ok changed) :
    (Edit.removeVariable (Text.trim key)).apply changed = .ok project ∧
      (Text.trim key ≠ key →
        (Edit.removeVariable key).apply changed =
          if project.declared.has key then
            .ok { project with
              declared := project.declared.erase key ++ [(Text.trim key, value)] }
          else .error (.absent .variable key)) := by
  obtain ⟨-, rfl⟩ := setVariable_ok_iff.mp made
  constructor
  · rw [Edit.apply, Project.removeVariable, Entries.has, Entries.get?_put_self,
      Option.isSome_some, if_pos rfl, Entries.erase_put_of_not_mem value new]
  · intro padded
    have erased : (project.declared.put (Text.trim key) value).erase key =
        project.declared.erase key ++ [(Text.trim key, value)] := by
      rw [Entries.put_of_not_mem value new, Entries.erase, List.filter_append]
      simp [Entries.erase, padded]
    rw [Edit.apply, Project.removeVariable, Entries.has, Entries.get?_put, if_neg padded, erased]
    rfl

theorem removal_undoes (isRemoval : edit.removal? = some removal) (new : edit.SetsNew project)
    (trimmed : edit.KeyTrimmed) (made : edit.apply project = .ok changed) :
    removal.apply changed = .ok project := by
  cases edit with
  | scene change =>
    cases change with
    | add scene =>
      obtain rfl := Option.some.inj isRemoval
      exact removeScene_added made
    | _ => cases isRemoval
  | choice sceneId change =>
    cases change with
    | add choice =>
      obtain rfl := Option.some.inj isRemoval
      exact removeChoice_added made
    | _ => cases isRemoval
  | character change =>
    cases change with
    | add character =>
      obtain rfl := Option.some.inj isRemoval
      exact removeCharacter_added made
    | _ => cases isRemoval
  | item change =>
    cases change with
    | add item =>
      obtain rfl := Option.some.inj isRemoval
      exact removeItem_added made
    | _ => cases isRemoval
  | setVariable key value =>
    obtain rfl := Option.some.inj isRemoval
    have restored := (removeVariable_set new made).1
    rwa [trimmed] at restored
  | removeVariable key => cases isRemoval

/-- A key with outer blanks never gives the project back. -/
theorem removeVariable_padded (new : Text.trim key ∉ project.declared.keys)
    (made : (Edit.setVariable key value).apply project = .ok changed)
    (padded : Text.trim key ≠ key) : (Edit.removeVariable key).apply changed ≠ .ok project := by
  intro restored
  rw [(removeVariable_set new made).2 padded] at restored
  split at restored
  next =>
    have declared := congrArg Project.declared (Except.ok.inj restored)
    refine new ?_
    rw [← declared, Entries.keys, List.map_append]
    exact List.mem_append_right _ List.mem_cons_self
  next => cases restored

namespace Project

/-- An addition that is made is undone by the removal with the same id, in every field and order
of the project and whatever else it holds. A new variable is removed with its trimmed key, and
with the key that was given exactly when that is the trimmed one; otherwise the removal is refused,
or what it removes is the variable that the project had under the very key. -/
theorem removal_restores (isRemoval : edit.removal? = some removal) (new : edit.SetsNew project)
    (made : edit.apply project = .ok changed) :
    (removal.apply changed = .ok project ↔ edit.KeyTrimmed) ∧
      ∀ key value, edit = .setVariable key value →
        (Edit.removeVariable (Text.trim key)).apply changed = .ok project ∧
          (Text.trim key ≠ key →
            removal.apply changed =
              if project.declared.has key then
                .ok { project with
                  declared := project.declared.erase key ++ [(Text.trim key, value)] }
              else .error (.absent .variable key)) := by
  constructor
  · refine ⟨fun restored => ?_, fun trimmed => removal_undoes isRemoval new trimmed made⟩
    cases edit with
    | setVariable key value =>
      obtain rfl := Option.some.inj isRemoval
      by_contra padded
      exact removeVariable_padded new made padded restored
    | _ => trivial
  · rintro key value rfl
    obtain rfl := Option.some.inj isRemoval
    exact removeVariable_set new made

/-- The lamp story gets back what it was when a new variable is removed with its trimmed key, and
not when it is removed with the key that was given. -/
theorem lampStory_restored :
    ∃ changed, (Edit.setVariable " gold " (.scalar (.int 1))).apply lampStory = .ok changed ∧
      (Edit.removeVariable "gold").apply changed = .ok lampStory ∧
      (Edit.removeVariable " gold ").apply changed ≠ .ok lampStory := by
  have new : Edit.SetsNew lampStory (.setVariable " gold " (.scalar (.int 1))) := by
    change Text.trim " gold " ∉ lampStory.declared.keys
    decide
  have padded : Text.trim " gold " ≠ " gold " := by decide
  have made : (Edit.setVariable " gold " (.scalar (.int 1))).apply lampStory =
      .ok { lampStory with
        declared := lampStory.declared ++ [("gold", .scalar (.int 1))] } := rfl
  obtain ⟨restores, asGiven⟩ := removal_restores rfl new made
  exact ⟨_, made, (asGiven _ _ rfl).1, mt restores.mp padded⟩

/-- A variable cannot be removed with the key it was set with when that has an outer blank; and a
project that has a variable under such a key loses it instead. -/
theorem padded_key_not_removed :
    let padded : Project := { lampStory with declared := [(" k ", .scalar (.int 1))] }
    (∃ changed, (Edit.setVariable " gold " (.scalar (.int 1))).apply lampStory = .ok changed ∧
      (Edit.removeVariable " gold ").apply changed = .error (.absent .variable " gold ")) ∧
    (∃ changed, (Edit.setVariable " k " (.scalar (.int 2))).apply padded = .ok changed ∧
      (Edit.removeVariable " k ").apply changed =
        .ok { lampStory with declared := [("k", .scalar (.int 2))] }) :=
  ⟨⟨_, rfl, rfl⟩, ⟨_, rfl, rfl⟩⟩

/-- Additions that are made one after the other, each of something new and with a trimmed key. -/
inductive Additions : Project → List (Edit × Edit) → Project → Prop
  | none (project : Project) : Additions project [] project
  | next {project middle last : Project} {edit removal : Edit} {rest : List (Edit × Edit)}
      (isRemoval : edit.removal? = some removal) (new : edit.SetsNew project)
      (trimmed : edit.KeyTrimmed) (made : edit.apply project = .ok middle)
      (later : Additions middle rest last) :
      Additions project ((edit, removal) :: rest) last

/-- Additions are undone by their removals, the last one first. -/
theorem Additions.undone {row : List (Edit × Edit)} {last : Project}
    (additions : Additions project row last) :
    last.editAll (row.reverse.map (·.2)) = project := by
  induction additions with
  | none project => rfl
  | @next project middle last edit removal rest isRemoval new trimmed made later
      inductionHypothesis =>
    rw [List.reverse_cons, List.map_append, editAll, List.foldl_append]
    change (Project.editAll last (rest.reverse.map (·.2))).editAll [removal] = project
    rw [inductionHypothesis]
    change (middle.edit removal).2 = project
    rw [Project.edit, removal_undoes isRemoval new trimmed made]

end Project

end Gamebook
