import Gamebook.Proofs.Archive.Folder
import Gamebook.Proofs.Archive.Key
import Gamebook.Proofs.Json.ReadNames
import Gamebook.Proofs.Play.SavedState

/-!
# Damaged archives

Under the name of the file of a key there may be nothing, a directory, or a file of any bytes:
half a document, another document, or no text at all. Whatever it is, an archive either answers
or says of the key why what is kept under it cannot be used, and no other fault arises. A state
that is answered is sound, so damage never passes for a saved game.

The key must be one, and a directory must be able to have a file of its name; what is said here
is said of such keys alone.
-/

namespace Gamebook.Archive

namespace Folder

/-- A given key has a file that the directory of a folder can have. -/
structure Nameable (folder : Folder) (given key : String) : Prop where
  checked : checkKey given = .ok key
  speakable : folder.path.childFault? (fileName key) = none

variable {folder : Folder} {entries : Entries Node} {given key : String}

/-- A directory in the place of a file cannot be read. -/
theorem load_directory (shows : folder.Shows entries)
    (speakable : folder.path.childFault? (fileName key) = none) {inner : Entries Node}
    (held : entries.get? (Text.listedName (fileName key)) = some (.directory inner)) :
    folder.load given key = .error (.failed given
      (.unreadable (folder.file key) (.refused .isDirectory (folder.file key)))) := by
  obtain ⟨place, shows⟩ := shows
  have entry : folder.disk.entry (folder.file key) = .ok (.directory inner) := by
    have known := shows.entry_child (fileName_ne_above key)
    simp only [speakable, held] at known
    exact known
  simp only [load, Disk.has, Disk.read, entry]

/-- What is read from the bytes of a file has distinct names. -/
theorem distinct_of_parse {path : Disk.Path} {bytes : ByteArray} {envelope : Value}
    (parsed : parse path bytes = .ok envelope) : envelope.Distinct := by
  unfold parse at parsed
  split at parsed
  next => nomatch parsed
  next text decoded =>
    dsimp only at parsed
    split at parsed
    next value read =>
      obtain rfl := Except.ok.inj parsed
      exact Json.distinct_of_readCharacters read
    next => nomatch parsed

end Folder

/-- What is taken out of an envelope is a member of it. -/
theorem unwrap_ok_iff (given : String) (envelope value : Value) :
    unwrap given envelope = .ok value ↔ envelope.member? "data" = some value := by
  unfold unwrap
  cases envelope.member? "data" <;> simp

/-- Nothing can be wrong with an envelope but that it is none. -/
theorem noEnvelope_of_unwrap {given : String} {envelope : Value} {fault : Fault}
    (failed : unwrap given envelope = .error fault) : fault = .failed given .noEnvelope := by
  unfold unwrap at failed
  split at failed
  next => nomatch failed
  next => exact (Except.error.inj failed).symm

/-- What is taken out of an envelope has distinct names where the envelope has. -/
theorem distinct_of_unwrap {given : String} {envelope value : Value}
    (distinct : envelope.Distinct) (unwrapped : unwrap given envelope = .ok value) :
    value.Distinct := by
  have member := (unwrap_ok_iff given envelope value).mp unwrapped
  cases envelope with
  | object members => exact Value.distinct_of_get? distinct.2 member
  | _ => nomatch member

namespace Folder

variable {folder : Folder} {entries : Entries Node} {given key : String}

/-- What lies in the place of a file: a load that does not answer names the given key in its
fault, and a value that it answers has distinct names. -/
theorem load_cases (shows : folder.Shows entries)
    (speakable : folder.path.childFault? (fileName key) = none) :
    folder.load given key = .ok none ∨
      (∃ value : Value, value.Distinct ∧ folder.load given key = .ok (some value)) ∨
      ∃ cause, folder.load given key = .error (.failed given cause) := by
  cases held : entries.get? (Text.listedName (fileName key)) with
  | none => exact .inl (load_missing shows speakable held)
  | some node =>
    cases node with
    | directory inner => exact .inr (.inr ⟨_, load_directory shows speakable held⟩)
    | file bytes =>
      rw [load_file shows speakable held]
      cases parsed : parse (folder.file key) bytes with
      | error cause => exact .inr (.inr ⟨cause, rfl⟩)
      | ok envelope =>
        cases unwrapped : unwrap given envelope with
        | error fault =>
          obtain rfl := noEnvelope_of_unwrap unwrapped
          exact .inr (.inr ⟨.noEnvelope, by simp only [unwrapped, Except.map]⟩)
        | ok value =>
          have distinct := distinct_of_unwrap (distinct_of_parse parsed) unwrapped
          exact .inr (.inl ⟨value, distinct, by simp only [unwrapped, Except.map]⟩)

end Folder

/-- What comes of loading a project is settled by what is kept under its key. -/
theorem loadProject_of_load (archive : Archive) (now : Moment) (id : String) :
    (∃ project, archive.loadProject now id = .ok project) ∨
      ((archive.load (projectMark ++ id) = .ok none ∨
          archive.load (projectMark ++ id) = .ok (some .null)) ∧
        archive.loadProject now id = .error (.noProject id)) ∨
      (∃ cause, archive.loadProject now id = .error (.failed (projectMark ++ id) cause)) ∨
      ∃ fault, archive.load (projectMark ++ id) = .error fault ∧
        archive.loadProject now id = .error fault := by
  cases loaded : archive.load (projectMark ++ id) with
  | error fault => exact .inr (.inr (.inr ⟨fault, rfl, by simp only [loadProject, loaded]⟩))
  | ok found =>
    cases found with
    | none => exact .inr (.inl ⟨.inl rfl, by simp only [loadProject, loaded]⟩)
    | some value =>
      by_cases null : value = .null
      · subst null
        exact .inr (.inl ⟨.inr rfl, by simp only [loadProject, loaded]⟩)
      · cases read : Schema.ofValue "Project" (Project.ofValue now) value with
        | ok project =>
          exact .inl ⟨project, by simp only [loadProject, loaded, read, Except.mapError]⟩
        | error mismatch =>
          refine .inr (.inr (.inl ⟨.notProject mismatch, ?_⟩))
          simp only [loadProject, loaded, read, Except.mapError]

/-- What comes of loading a saved game is settled by what is kept under its key. -/
theorem loadGame_of_load (archive : Archive) (id : String) :
    archive.loadGame id = .ok none ∨
      (∃ members state, archive.load (gameMark ++ id) = .ok (some (.object members)) ∧
        PlayerState.ofMembers members = .ok state ∧ archive.loadGame id = .ok (some state)) ∨
      (∃ cause, archive.loadGame id = .error (.failed (gameMark ++ id) cause)) ∨
      ∃ fault, archive.load (gameMark ++ id) = .error fault ∧
        archive.loadGame id = .error fault := by
  cases loaded : archive.load (gameMark ++ id) with
  | error fault => exact .inr (.inr (.inr ⟨fault, rfl, by simp only [loadGame, loaded]⟩))
  | ok found =>
    cases found with
    | none => exact .inl (by simp only [loadGame, loaded])
    | some value =>
      cases value with
      | null => exact .inl (by simp only [loadGame, loaded])
      | object members =>
        cases read : PlayerState.ofMembers members with
        | ok state =>
          exact .inr (.inl ⟨members, state, rfl, read, by simp only [loadGame, loaded, read]⟩)
        | error fault =>
          refine .inr (.inr (.inl ⟨.notState fault, ?_⟩))
          simp only [loadGame, loaded, read]
      | _ => exact .inr (.inr (.inl ⟨.notObject, by simp only [loadGame, loaded]⟩))

section Damaged

variable {shelf : Folder} {entries : Entries Node}

theorem load_cases (shows : shelf.Shows entries) {given key : String}
    (nameable : shelf.Nameable given key) :
    (folder shelf).load given = .ok none ∨
      (∃ value : Value, value.Distinct ∧ (folder shelf).load given = .ok (some value)) ∨
      ∃ cause, (folder shelf).load given = .error (.failed given cause) := by
  simpa only [load, nameable.checked] using Folder.load_cases shows nameable.speakable

theorem fault_of_load (shows : shelf.Shows entries) {given key : String}
    (nameable : shelf.Nameable given key) {fault : Fault}
    (failed : (folder shelf).load given = .error fault) : ∃ cause, fault = .failed given cause := by
  rcases load_cases shows nameable with nothing | ⟨value, _, found⟩ | ⟨cause, known⟩
  · exact nomatch nothing.symm.trans failed
  · exact nomatch found.symm.trans failed
  · exact ⟨cause, Except.error.inj (failed.symm.trans known)⟩

theorem distinct_of_load (shows : shelf.Shows entries) {given key : String}
    (nameable : shelf.Nameable given key) {value : Value}
    (found : (folder shelf).load given = .ok (some value)) : value.Distinct := by
  rcases load_cases shows nameable with nothing | ⟨known, distinct, same⟩ | ⟨cause, failed⟩
  · exact nomatch nothing.symm.trans found
  · exact Option.some.inj (Except.ok.inj (found.symm.trans same)) ▸ distinct
  · exact nomatch failed.symm.trans found

/-- A project is answered, there is none, or the fault names its key. -/
theorem loadProject_cases (shows : shelf.Shows entries) {id key : String}
    (nameable : shelf.Nameable (projectMark ++ id) key) (now : Moment) :
    (∃ project, (folder shelf).loadProject now id = .ok project) ∨
      (((folder shelf).load (projectMark ++ id) = .ok none ∨
          (folder shelf).load (projectMark ++ id) = .ok (some .null)) ∧
        (folder shelf).loadProject now id = .error (.noProject id)) ∨
      ∃ cause, (folder shelf).loadProject now id =
        .error (.failed (projectMark ++ id) cause) := by
  rcases loadProject_of_load (folder shelf) now id with
    answered | missing | failed | ⟨fault, failed, loaded⟩
  · exact .inl answered
  · exact .inr (.inl missing)
  · exact .inr (.inr failed)
  · obtain ⟨cause, rfl⟩ := fault_of_load shows nameable failed
    exact .inr (.inr ⟨cause, loaded⟩)

/-- A saved game that is answered is sound; otherwise there is none, or the fault names its
key. -/
theorem loadGame_cases (shows : shelf.Shows entries) {id key : String}
    (nameable : shelf.Nameable (gameMark ++ id) key) :
    (folder shelf).loadGame id = .ok none ∨
      (∃ state : PlayerState, state.Sound ∧ (folder shelf).loadGame id = .ok (some state)) ∨
      ∃ cause, (folder shelf).loadGame id = .error (.failed (gameMark ++ id) cause) := by
  rcases loadGame_of_load (folder shelf) id with
    none | ⟨members, state, found, read, loaded⟩ | failed | ⟨fault, failed, loaded⟩
  · exact .inl none
  · have distinct := distinct_of_load shows nameable found
    exact .inr (.inl ⟨state, PlayerState.sound_of_read distinct read, loaded⟩)
  · exact .inr (.inr failed)
  · obtain ⟨cause, rfl⟩ := fault_of_load shows nameable failed
    exact .inr (.inr ⟨cause, loaded⟩)

/-- Whatever lies in the places of their files, loads of documents, projects and saved games
answer or say of the key why what is kept cannot be used. There is said to be no project only
where nothing is found, and a saved game that is found has values of their kinds. -/
theorem damage_is_reported (shows : shelf.Shows entries) (now : Moment) :
    (∀ given key, shelf.Nameable given key →
      (∃ found, (folder shelf).load given = .ok found) ∨
        ∃ cause, (folder shelf).load given = .error (.failed given cause)) ∧
    (∀ id key, shelf.Nameable (projectMark ++ id) key →
      (∃ project, (folder shelf).loadProject now id = .ok project) ∨
        (((folder shelf).load (projectMark ++ id) = .ok none ∨
            (folder shelf).load (projectMark ++ id) = .ok (some .null)) ∧
          (folder shelf).loadProject now id = .error (.noProject id)) ∨
        ∃ cause, (folder shelf).loadProject now id =
          .error (.failed (projectMark ++ id) cause)) ∧
    ∀ id key, shelf.Nameable (gameMark ++ id) key →
      (folder shelf).loadGame id = .ok none ∨
        (∃ state : PlayerState, state.Sound ∧ (folder shelf).loadGame id = .ok (some state)) ∨
        ∃ cause, (folder shelf).loadGame id = .error (.failed (gameMark ++ id) cause) := by
  refine ⟨fun given key nameable => ?_, fun id key nameable => loadProject_cases shows nameable now,
    fun id key nameable => loadGame_cases shows nameable⟩
  rcases load_cases shows nameable with nothing | ⟨value, _, found⟩ | failed
  · exact .inl ⟨none, nothing⟩
  · exact .inl ⟨some value, found⟩
  · exact .inr failed

/-- A directory in which a project is no text, another is a directory, and a saved game breaks
off. -/
def damagedEntries : Entries Node :=
  [("project.cave.json", .file ⟨#[0xFF]⟩), ("project.pit.json", .directory []),
    ("save.cave.json", .file "[7".toUTF8)]

/-- An archive in that directory. -/
def damagedShelf : Folder where
  disk := { root := .directory [("store", .directory damagedEntries)] }
  path := ⟨.here, ["store"]⟩

theorem damage_is_reported_torn :
    damagedShelf.Shows damagedEntries ∧
      damagedShelf.Nameable (projectMark ++ "cave") "project.cave" ∧
      damagedShelf.Nameable (gameMark ++ "cave") "save.cave" ∧
      (∃ cause, (folder damagedShelf).loadProject lampStory.created "cave" =
        .error (.failed "project.cave" cause)) ∧
      ∃ cause, (folder damagedShelf).loadGame "cave" = .error (.failed "save.cave" cause) := by
  have shows : damagedShelf.Shows damagedEntries := ⟨["store"], rfl, rfl⟩
  have project : damagedShelf.Nameable (projectMark ++ "cave") "project.cave" :=
    ⟨by decide +kernel, by decide +kernel⟩
  have game : damagedShelf.Nameable (gameMark ++ "cave") "save.cave" :=
    ⟨by decide +kernel, by decide +kernel⟩
  have noDocument : ((folder damagedShelf).load (projectMark ++ "cave")).isOk = false := by
    decide +kernel
  have noProject : ((folder damagedShelf).loadProject lampStory.created "cave").isOk = false := by
    decide +kernel
  have noGame : ((folder damagedShelf).loadGame "cave").isOk = false := by decide +kernel
  obtain ⟨_, projects, games⟩ := damage_is_reported shows lampStory.created
  refine ⟨shows, project, game, ?_, ?_⟩
  · rcases projects "cave" _ project with ⟨found, isFound⟩ | ⟨absent | absent, _⟩ | failed
    · exact absurd noProject (by rw [isFound]; nofun)
    · exact absurd noDocument (by rw [absent]; nofun)
    · exact absurd noDocument (by rw [absent]; nofun)
    · exact failed
  · rcases games "cave" _ game with absent | ⟨state, _, isFound⟩ | failed
    · exact absurd noGame (by rw [absent]; nofun)
    · exact absurd noGame (by rw [isFound]; nofun)
    · exact failed

end Damaged

end Gamebook.Archive
