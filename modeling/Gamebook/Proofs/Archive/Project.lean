import Gamebook.Proofs.Archive.Frame
import Gamebook.Proofs.Story.Document
import Gamebook.Proofs.Story.Shape

/-!
# Projects that share an archive

A call for one project changes nothing for another: the other project and its saved game are
loaded as before, and it is listed as before, after every sequence of calls and whether or not
the call succeeds. Two ids name two projects when more than blanks behind them tells them
apart; in a directory, no half in them may stand for a byte. A project that was saved is
loaded as it was, and listed under its id without the blanks behind it.
-/

namespace Gamebook

namespace Archive

/-! ## Calls -/

/-- A call on the projects and saved games of an archive. -/
inductive Call
  | saveProject (now : Moment) (project : Project)
  | loadProject (now : Moment) (id : String)
  | projectIds
  | deleteProject (id : String)
  | saveGame (now : Moment) (id : String) (state : PlayerState)
  | loadGame (id : String)
  | clearGame (id : String)

/-- The id of the project that a call is about and can change. -/
def Call.changes? : Call → Option String
  | .saveProject _ project => some project.id
  | .deleteProject id | .saveGame _ id _ | .clearGame id => some id
  | .loadProject .. | .projectIds | .loadGame _ => none

/-- The archive after a call, whether it succeeds or not. -/
def perform (archive : Archive) : Call → Archive
  | .saveProject now project => (archive.saveProject now project).2
  | .deleteProject id => (archive.deleteProject id).2
  | .saveGame now id state => (archive.saveGame now id state).2
  | .clearGame id => (archive.clearGame id).2
  | .loadProject .. | .projectIds | .loadGame _ => archive

/-- The archive after calls in order. -/
def performAll (archive : Archive) (calls : List Call) : Archive := calls.foldl perform archive

/-! ## Keys of ids -/

theorem Plain.trimEnd {text : String} (plain : Plain text) : Plain (Text.trimEnd text) := by
  intro c member
  apply plain
  rw [Text.trimEnd, String.toList_ofList, Text.dropTrailingBlanks, List.mem_reverse,
    Text.dropBlanks] at member
  exact List.mem_reverse.mp ((List.dropWhile_sublist _).mem member)

theorem plain_mark {mark : String} (isMark : mark ∈ marks) : Plain mark := by
  revert mark
  decide +kernel

theorem Names.marked {archive : Archive} {id : String} (names : archive.Names id)
    {mark : String} (isMark : mark ∈ marks) : archive.Names (mark ++ id) := by
  cases archive with
  | memory documents => trivial
  | folder shelf => exact (plain_mark isMark).append names

theorem Names.trimEnd {archive : Archive} {id : String} (names : archive.Names id) :
    archive.Names (Text.trimEnd id) := by
  cases archive with
  | memory documents => trivial
  | folder shelf => exact Plain.trimEnd names

/-- An id is listed when its key is. -/
theorem mem_projectIds (archive : Archive) (id : String) :
    id ∈ archive.projectIds ↔ projectMark ++ id ∈ archive.keys := by
  rw [projectIds, List.mem_filterMap]
  constructor
  · rintro ⟨key, isKey, found⟩
    split at found
    next isPrefix =>
      obtain ⟨rest, characters⟩ := List.isPrefixOf_iff_prefix.mp isPrefix
      obtain rfl := Option.some.inj found
      have same : projectMark ++ String.ofList (key.toList.drop projectMark.length) = key := by
        apply String.toList_inj.mp
        rw [String.toList_append, String.toList_ofList, ← characters, ← String.length_toList,
          List.drop_left]
      rwa [same]
    next => cases found
  · intro isKey
    refine ⟨_, isKey, ?_⟩
    have isPrefix : projectMark.toList.isPrefixOf (projectMark ++ id).toList = true := by
      rw [List.isPrefixOf_iff_prefix, String.toList_append]
      exact List.prefix_append _ _
    rw [if_pos isPrefix, String.toList_append, ← String.length_toList, List.drop_left,
      String.ofList_toList]

/-! ## Other projects -/

/-- What is loaded for an id, and whether it is listed, is the same in both archives. -/
structure KeepsProject (archive after : Archive) (id : String) : Prop where
  project : ∀ now, after.loadProject now id = archive.loadProject now id
  game : after.loadGame id = archive.loadGame id
  listed : id ∈ after.projectIds ↔ id ∈ archive.projectIds

theorem KeepsProject.refl (archive : Archive) (id : String) : KeepsProject archive archive id :=
  ⟨fun _ => rfl, rfl, Iff.rfl⟩

theorem KeepsProject.trans {archive middle after : Archive} {id : String}
    (first : KeepsProject archive middle id) (second : KeepsProject middle after id) :
    KeepsProject archive after id where
  project now := (second.project now).trans (first.project now)
  game := second.game.trans first.game
  listed := second.listed.trans first.listed

/-- What is said of a project depends on three keys. -/
theorem keepsProject_of_spares {archive after : Archive} {id : String}
    (project : Spares archive after (projectMark ++ Text.trimEnd id))
    (game : Spares archive after (gameMark ++ Text.trimEnd id))
    (listed : Spares archive after (projectMark ++ id)) : KeepsProject archive after id where
  project now := by
    simp only [loadProject, project.load _ (trim_marked projectMark_isMark id)]
  game := by
    simp only [loadGame, game.load _ (trim_marked gameMark_isMark id)]
  listed := by rw [mem_projectIds, mem_projectIds, listed.listed]

/-- An operation on a key of one id leaves every other id alone. -/
theorem Leaves.keepsProject {archive after : Archive} {mark id other : String}
    (leaves : Leaves archive after (mark ++ Text.trimEnd id)) (isMark : mark ∈ marks)
    (apart : Text.trimEnd id ≠ Text.trimEnd other) (names : archive.Names id)
    (otherNames : archive.Names other) : KeepsProject archive after other := by
  have keyNames := names.trimEnd.marked isMark
  apply keepsProject_of_spares
  · apply leaves.spares _ _ keyNames (otherNames.trimEnd.marked projectMark_isMark)
    intro same
    exact apart (marked_inj isMark projectMark_isMark same)
  · apply leaves.spares _ _ keyNames (otherNames.trimEnd.marked gameMark_isMark)
    intro same
    exact apart (marked_inj isMark gameMark_isMark same)
  · apply leaves.spares _ _ keyNames (otherNames.marked projectMark_isMark)
    intro same
    -- The listed id is not trimmed, but an id that is equal to a trimmed one is trimmed itself.
    have trimmed := marked_inj isMark projectMark_isMark same
    exact apart (trimmed ▸ (Text.trimEnd_trimEnd id).symm)

/-- What a call leaves behind: an archive of the same sort that can be worked with, in which
other projects have what they had. -/
structure LeavesProjects (archive after : Archive) (id : String) : Prop where
  stands : after.Stands
  names : ∀ text, after.Names text ↔ archive.Names text
  keeps : ∀ other, Text.trimEnd id ≠ Text.trimEnd other → archive.Names id →
    archive.Names other → KeepsProject archive after other

theorem LeavesProjects.refl {archive : Archive} (stands : archive.Stands) (id : String) :
    LeavesProjects archive archive id where
  stands := stands
  names _ := Iff.rfl
  keeps other _ _ _ := .refl archive other

theorem LeavesProjects.trans {archive middle after : Archive} {id : String}
    (first : LeavesProjects archive middle id) (second : LeavesProjects middle after id) :
    LeavesProjects archive after id where
  stands := second.stands
  names text := (second.names text).trans (first.names text)
  keeps other apart names otherNames := (first.keeps other apart names otherNames).trans
    (second.keeps other apart ((first.names id).mpr names) ((first.names other).mpr otherNames))

theorem Leaves.projects {archive after : Archive} {mark id : String} (isMark : mark ∈ marks)
    (leaves : Leaves archive after (Text.trim (mark ++ id))) :
    LeavesProjects archive after id := by
  rw [trim_marked isMark] at leaves
  exact ⟨leaves.stands, leaves.names, fun _ apart names otherNames =>
    leaves.keepsProject isMark apart names otherNames⟩

theorem saveProject_leaves {archive : Archive} (stands : archive.Stands) (now : Moment)
    (project : Project) :
    LeavesProjects archive (archive.saveProject now project).2 project.id := by
  unfold saveProject
  cases project.write with
  | error fault => exact .refl stands project.id
  | ok value => exact (save_leaves stands now _ value).projects projectMark_isMark

theorem clearGame_leaves {archive : Archive} (stands : archive.Stands) (id : String) :
    LeavesProjects archive (archive.clearGame id).2 id :=
  (delete_leaves stands (gameMark ++ id)).projects gameMark_isMark

theorem deleteProject_leaves {archive : Archive} (stands : archive.Stands) (id : String) :
    LeavesProjects archive (archive.deleteProject id).2 id := by
  have first := (delete_leaves stands (projectMark ++ id)).projects projectMark_isMark
  unfold deleteProject
  cases deleted : archive.delete (projectMark ++ id) with
  | mk result left =>
    rw [deleted] at first
    cases result with
    | error fault => exact first
    | ok done => exact first.trans (clearGame_leaves first.stands id)

/-- A call leaves other projects than its own alone. -/
theorem perform_leaves {archive : Archive} (stands : archive.Stands) {call : Call} {id : String}
    (changes : call.changes? = some id) : LeavesProjects archive (archive.perform call) id := by
  cases call with
  | saveProject now project =>
    obtain rfl := Option.some.inj changes
    exact saveProject_leaves stands now project
  | deleteProject id =>
    obtain rfl := Option.some.inj changes
    exact deleteProject_leaves stands id
  | saveGame now id state =>
    obtain rfl := Option.some.inj changes
    exact (save_leaves stands now _ _).projects gameMark_isMark
  | clearGame id =>
    obtain rfl := Option.some.inj changes
    exact clearGame_leaves stands id
  | _ => nomatch changes

/-- A call that changes no project changes nothing. -/
theorem perform_eq {call : Call} (changes : call.changes? = none) (archive : Archive) :
    archive.perform call = archive := by
  cases call with
  | loadProject now id => rfl
  | projectIds => rfl
  | loadGame id => rfl
  | _ => nomatch changes

/-- After every sequence of calls the archive can be worked with, and is of the same sort. -/
theorem performAll_stands {archive : Archive} (stands : archive.Stands) (calls : List Call) :
    (archive.performAll calls).Stands ∧
      ∀ text, (archive.performAll calls).Names text ↔ archive.Names text := by
  induction calls generalizing archive with
  | nil => exact ⟨stands, fun _ => Iff.rfl⟩
  | cons call rest inductionHypothesis =>
    rw [performAll, List.foldl_cons]
    cases changes : call.changes? with
    | none =>
      rw [perform_eq changes]
      exact inductionHypothesis stands
    | some id =>
      have leaves := perform_leaves stands changes
      obtain ⟨last, names⟩ := inductionHypothesis leaves.stands
      exact ⟨last, fun text => (names text).trans (leaves.names text)⟩

/-! ## A project that was saved -/

end Archive

/-- A project whose parts are document values: no text has a half, and the properties of items
have finite numbers. -/
structure Project.JsonShaped (project : Project) : Prop where
  whole : project.toValue.holdsHalf = false
  properties : ∀ item ∈ project.items, ∀ property ∈ item.properties, property.2.isSendable = true

namespace Archive

/-- The id of such a project has no halves, so it is its own name. -/
theorem plain_id {project : Project} (shaped : project.JsonShaped) : Plain project.id := by
  have whole : Text.holdsHalf project.id = false :=
    Value.holdsHalf_of_member shaped.whole "id" (.text project.id) (by simp)
  exact fun c member =>
    Text.isByteHalf_eq_false ((Text.holdsHalf_eq_false_iff project.id).mp whole c member)

/-- What a project is written as can be kept, if it could be written. -/
theorem keepable_project {project : Project} (fits : project.FitsSchema)
    (shaped : project.JsonShaped) (written : project.writeFault? = none)
    (noFault : Json.fault? project.toValue = none) : Keepable project.toValue := by
  have items : project.items.findSome? Item.writeFault? = none := by
    cases found : project.items.findSome? Item.writeFault? with
    | none => rfl
    | some fault => simp [Project.writeFault?, found] at written
  have kept : project.toValue.Shaped 258 := by
    refine Project.toValue_shaped fits.declared 256 (by decide) fun item member => ?_
    have each := (Value.looseMembersFault?_eq_none_iff _ _).mp
      (List.findSome?_eq_none_iff.mp items item member)
    apply Item.toValue_shaped 254
    · exact Value.finiteMembers_eq fun property isProperty =>
        Value.finiteOnly_eq (shaped.properties item member property isProperty)
    · exact fits.properties item member
    · exact fun property isProperty =>
        Value.nesting_le_of_looseFault? (each property isProperty).2
  exact ⟨Value.portable_of_fault?_eq_none shaped.whole noFault, kept.distinct,
    Nat.lt_of_le_of_lt kept.shallow (by decide)⟩

/-- A project that was saved is loaded as it was and listed. -/
theorem saveProject_loads {archive kept : Archive} (stands : archive.Stands) {now : Moment}
    {project : Project} (fits : project.FitsSchema) (shaped : project.JsonShaped)
    (saved : archive.saveProject now project = (.ok (), kept)) :
    (∀ later, kept.loadProject later project.id = .ok project) ∧
      Text.trimEnd project.id ∈ kept.projectIds := by
  unfold saveProject at saved
  cases written : project.write with
  | error fault =>
    rw [written] at saved
    cases saved
  | ok value =>
    rw [written] at saved
    obtain ⟨writable, rfl⟩ : project.writeFault? = none ∧ project.toValue = value := by
      unfold Project.write at written
      cases fault : project.writeFault? with
      | some fault => simp [fault] at written
      | none => simpa [fault] using written
    have keepable := keepable_project fits shaped writable (fault?_of_saved saved)
    obtain ⟨loaded, listed⟩ := load_saved stands keepable saved
    constructor
    · intro later
      have entity := Project.ofValue_toValue fits shaped.properties later
      simp only [loadProject, loaded _ rfl, Project.toValue, Schema.ofValue]
      rw [Project.toValue] at entity
      rw [entity]
      rfl
    · rw [mem_projectIds, ← trim_marked projectMark_isMark]
      apply listed
      rw [trim_marked projectMark_isMark]
      cases archive with
      | memory documents => trivial
      | folder shelf =>
        exact (plain_mark projectMark_isMark).append (Plain.trimEnd (plain_id shaped))

/-- Whatever calls came before, a call for one project changes nothing for another, and a project
that is saved is loaded as it was and listed under its id without the blanks behind it. -/
theorem projects_stay_apart {archive : Archive} (stands : archive.Stands) (calls : List Call) :
    (∀ call id other, call.changes? = some id → Text.trimEnd id ≠ Text.trimEnd other →
      archive.Names id → archive.Names other →
      KeepsProject (archive.performAll calls) ((archive.performAll calls).perform call) other) ∧
    ∀ now project kept, project.FitsSchema → project.JsonShaped →
      (archive.performAll calls).saveProject now project = (.ok (), kept) →
      (∀ later, kept.loadProject later project.id = .ok project) ∧
        Text.trimEnd project.id ∈ kept.projectIds := by
  obtain ⟨reached, names⟩ := performAll_stands stands calls
  constructor
  · intro call id other changes apart idNames otherNames
    exact (perform_leaves reached changes).keeps other apart ((names id).mpr idNames)
      ((names other).mpr otherNames)
  · intro now project kept fits shaped saved
    exact saveProject_loads reached fits shaped saved

theorem lampStory_jsonShaped : lampStory.JsonShaped where
  whole := by decide +kernel
  properties := by decide +kernel

/-- Another project is deleted beside the lamp, and the lamp is saved in an empty directory. -/
theorem lamp_stays_apart :
    KeepsProject
      (performAll (.folder Folder.emptyShelf)
        [.saveGame lampStory.created lampStory.id { sceneId := "hall" }])
      ((performAll (.folder Folder.emptyShelf)
        [.saveGame lampStory.created lampStory.id { sceneId := "hall" }]).perform
          (.deleteProject "cave"))
      lampStory.id ∧
    ∃ kept, (Archive.folder Folder.emptyShelf).saveProject lampStory.created lampStory =
        (.ok (), kept) ∧
      kept.loadProject lampStory.updated lampStory.id = .ok lampStory ∧
      Text.trimEnd lampStory.id ∈ kept.projectIds := by
  have stands : (Archive.folder Folder.emptyShelf).Stands := .folder Folder.emptyShelf_shows
  have cave : Plain "cave" := by decide +kernel
  have apart : Text.trimEnd "cave" ≠ Text.trimEnd lampStory.id := by decide +kernel
  have keepable : Keepable lampStory.toValue :=
    keepable_project lampStory_fits lampStory_jsonShaped (by decide +kernel) (by decide +kernel)
  have room : (Archive.folder Folder.emptyShelf).HasRoom (projectMark ++ lampStory.id) :=
    .folder Folder.emptyShelf_shows (.of_empty (by decide +kernel) (by decide +kernel))
  have checked : checkKey (projectMark ++ lampStory.id) = .ok (projectMark ++ lampStory.id) := by
    decide +kernel
  obtain ⟨kept, saved⟩ := save_ok checked room lampStory.created keepable
  have saved : (Archive.folder Folder.emptyShelf).saveProject lampStory.created lampStory =
      (.ok (), kept) := saved
  obtain ⟨loaded, listed⟩ := (projects_stay_apart stands []).2 lampStory.created lampStory kept
    lampStory_fits lampStory_jsonShaped saved
  exact ⟨(projects_stay_apart stands _).1 (.deleteProject "cave") "cave" lampStory.id rfl apart
    cave (plain_id lampStory_jsonShaped), kept, saved, loaded _, listed⟩

/-- The two halves that stand for the bytes of the letter e with an acute accent. -/
def byteName : String := String.ofList [Text.numbered 0xDCC3, Text.numbered 0xDCA9]

/-- Two ids with nothing but a blank behind them to tell them apart share a saved game, a project
is not listed with the blank behind its id, and in a directory two ids share a saved game
whose halves and characters are the same bytes. -/
theorem ids_collide :
    ("a" ≠ "a " ∧ ¬KeepsProject (memory [])
      ((memory []).perform (.saveGame lampStory.created "a" { sceneId := "hall" })) "a ") ∧
    (((memory []).saveProject lampStory.created { lampStory with id := "a " }).1 = .ok () ∧
      "a " ∉ ((memory []).saveProject lampStory.created
        { lampStory with id := "a " }).2.projectIds) ∧
    byteName ≠ "é" ∧ ¬KeepsProject (folder Folder.emptyShelf) ((folder Folder.emptyShelf).perform
      (.saveGame lampStory.created byteName { sceneId := "hall" })) "é" := by
  have keepable : Keepable ({ sceneId := "hall" } : PlayerState).toValue :=
    ⟨by decide +kernel, by simp [PlayerState.toValue, Value.Distinct, Value.DistinctMembers,
      Value.DistinctItems, Value.ofTexts], by decide⟩
  -- Whatever is saved as one id is loaded as the other, where nothing was before.
  have shared {archive kept : Archive} {id other : String}
      (saved : archive.saveGame lampStory.created id { sceneId := "hall" } = (.ok (), kept))
      (before : archive.loadGame other = .ok none)
      (loaded : kept.load (gameMark ++ other) =
        .ok (some ({ sceneId := "hall" } : PlayerState).toValue)) :
      ¬KeepsProject archive
        (archive.perform (.saveGame lampStory.created id { sceneId := "hall" })) other := by
    intro keeps
    have after : kept.loadGame other = .ok (some { sceneId := "hall" }) := by
      simp only [loadGame, loaded, PlayerState.toValue]
      rfl
    rw [perform, saved] at keeps
    cases before.symm.trans (keeps.game.symm.trans after)
  refine ⟨⟨by decide, ?_⟩, by decide +kernel, by decide +kernel, ?_⟩
  · have checked : checkKey (gameMark ++ "a") = .ok (gameMark ++ "a") := by decide +kernel
    obtain ⟨kept, saved⟩ := save_ok checked (.memory [] _) lampStory.created keepable
    exact shared saved (by decide +kernel)
      ((load_saved (.memory []) keepable saved).1 (gameMark ++ "a ") (by decide +kernel))
  · have room : (folder Folder.emptyShelf).HasRoom (gameMark ++ byteName) :=
      .folder Folder.emptyShelf_shows (.of_empty (by decide +kernel) (by decide +kernel))
    have checked : checkKey (gameMark ++ byteName) = .ok (gameMark ++ byteName) := by
      decide +kernel
    have askedChecked : checkKey (gameMark ++ "é") = .ok (gameMark ++ "é") := by decide +kernel
    obtain ⟨kept, saved⟩ := save_ok checked room lampStory.created keepable
    have loaded := (load_shared Folder.emptyShelf_shows checked askedChecked (by decide +kernel)
      (fun _ => by decide +kernel) keepable saved).1
    exact shared saved (by decide +kernel) loaded

end Archive

end Gamebook
