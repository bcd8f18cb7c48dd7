import Gamebook.Proofs.Archive.Folder
import Gamebook.Proofs.Archive.Key
import Gamebook.Proofs.Story.Schema

/-!
# Saves that break off

A save can fail at four places: where its key is checked, where its value is encoded, while the
draft of its file is written, and where the draft is moved. At the last two a disk can fail in
ways of its own, when it is full or taken away, so a save is said here amid any trouble: an
encoding that gives up, a write that leaves any bytes in the draft or does not touch it, and a
move that is refused. Without trouble this is the save that runs.

What a save that failed can leave behind is a draft, and a draft is neither the file of a key nor
listed as one. So every key is answered as before, and the same keys are listed, whatever the
archive holds and wherever its directory is, if it still is.
-/

namespace Gamebook.Archive

/-! ## Trouble -/

/-- What breaks off a save, beyond what its value and the disk refuse by themselves. -/
structure Trouble where
  /-- Why the encoding gives up. -/
  encoding : Option Fault := none
  /-- Why the write of the draft breaks off, and the bytes that it leaves there; none when the
  draft is not touched. -/
  writing : Option (Disk.Fault × Option ByteArray) := none
  /-- Why the move of the draft is refused. -/
  moving : Option Disk.Fault := none

/-- A write amid trouble: what comes of it, and the disk that it leaves. -/
def Trouble.write (trouble : Trouble) (disk : Disk) (path : Disk.Path) (bytes : ByteArray) :
    Except Disk.Fault Unit × Disk :=
  match trouble.writing with
  | some (fault, none) => (.error fault, disk)
  | some (fault, some part) => (.error fault, (disk.write path part).toOption.getD disk)
  | none =>
    match disk.write path bytes with
    | .ok written => (.ok (), written)
    | .error fault => (.error fault, disk)

/-- A move amid trouble. -/
def Trouble.move (trouble : Trouble) (disk : Disk) (path target : Disk.Path) :
    Except Disk.Fault Disk :=
  match trouble.moving with
  | some fault => .error fault
  | none => disk.move path target

/-- Writes a text for a key amid trouble. -/
def Folder.writeAmid (trouble : Trouble) (folder : Folder) (given key text : String) :
    Except Fault Unit × Folder :=
  let path := folder.file key
  let fail (fault : Disk.Fault) : Except Fault Unit :=
    .error (faultOf given (.unwritable path) fault)
  let encoded := Text.encodeUtf8 text
  match trouble.write folder.disk (folder.draft key) (encoded.toOption.getD ByteArray.empty) with
  | (.error fault, disk) => (fail fault, { folder with disk := disk })
  | (.ok (), disk) =>
    let drafted := { folder with disk := disk }
    match encoded with
    | .error fault => (.error (.encoding fault), drafted)
    | .ok _ =>
      match trouble.move disk (folder.draft key) path with
      | .error fault => (fail fault, drafted)
      | .ok disk => (.ok (), { folder with disk := disk })

/-- Keeps a value under a key amid trouble. -/
def saveAmid (trouble : Trouble) (archive : Archive) (now : Moment) (given : String)
    (value : Value) : Except Fault Unit × Archive :=
  match checkKey given with
  | .error fault => (.error (.key fault), archive)
  | .ok key =>
    match trouble.encoding with
    | some fault => (.error fault, archive)
    | none =>
      match archive with
      | .folder shelf =>
        match Json.print ⟨shelf.indent, false⟩ (wrap now value) with
        | .error fault => (.error (.failed given (.unwritableValue fault)), archive)
        | .ok text =>
          let (result, shelf) := shelf.writeAmid trouble given key text
          (result, .folder shelf)
      | .memory documents =>
        match Json.print ⟨none, true⟩ (wrap now value) with
        | .error fault => (.error (.failed key (.unwritableValue fault)), archive)
        | .ok text => (.ok (), .memory (documents.put key text))

/-- Without trouble a text is written as it always is. -/
theorem Folder.writeAmid_none (folder : Folder) (given key text : String) :
    folder.writeAmid {} given key text = folder.write given key text := by
  dsimp only [writeAmid, write, Trouble.write, Trouble.move]
  cases folder.disk.write (folder.draft key)
      ((Text.encodeUtf8 text).toOption.getD ByteArray.empty) with
  | error fault => rfl
  | ok disk => cases Text.encodeUtf8 text <;> rfl

/-- Without trouble a value is saved as it always is. -/
theorem saveAmid_none (archive : Archive) (now : Moment) (given : String) (value : Value) :
    archive.saveAmid {} now given value = archive.save now given value := by
  unfold saveAmid save
  cases checkKey given with
  | error fault => rfl
  | ok key =>
    cases archive with
    | folder shelf =>
      cases printed : Json.print ⟨shelf.indent, false⟩ (wrap now value) with
      | error fault => simp [printed]
      | ok text => simp [printed, Folder.writeAmid_none]
    | memory documents => rfl

/-! ## Drafts -/

/-- The directory lists no file of a key under the name of a draft. -/
theorem listedName_draftName_ne (key other : String) :
    Text.listedName (draftName key) ≠ Text.listedName (fileName other) := by
  have draftEnds : (Text.listedName (draftName key)).toList.getLast? = some 'p' :=
    Text.getLast?_listedName (by decide) (by simp [draftName, draftSuffix])
  have fileEnds : (Text.listedName (fileName other)).toList.getLast? = some 'n' :=
    Text.getLast?_listedName (by decide) (by simp [fileName, suffix])
  intro same
  rw [same, fileEnds] at draftEnds
  exact absurd draftEnds (by decide)

/-- A draft is not listed as a key. -/
theorem keyOfName?_draft (key : String) :
    Folder.keyOfName? (Text.listedName (draftName key)) = none := by
  cases isKey : Folder.keyOfName? (Text.listedName (draftName key)) with
  | none => rfl
  | some other =>
    have draftEnds : (Text.listedName (draftName key)).toList.getLast? = some 'p' :=
      Text.getLast?_listedName (by decide) (by simp [draftName, draftSuffix])
    rw [(Folder.keyOfName?_eq_some_iff _ other).mp isKey] at draftEnds
    simp [fileName, suffix] at draftEnds

namespace Folder

variable {folder left : Folder} {given key text : String} {trouble : Trouble}

/-- What a save that failed leaves behind: the folder as it was, or some bytes in the draft of
the key. -/
inductive Abandons (folder : Folder) (key : String) : Folder → Prop
  | nothing : Abandons folder key folder
  | draft (bytes : ByteArray) {disk : Disk}
    (written : folder.disk.write (folder.draft key) bytes = .ok disk) :
    Abandons folder key { folder with disk := disk }

/-- Whatever comes of the write of a draft, it leaves no more than a draft. -/
theorem abandons_of_write (trouble : Trouble) (folder : Folder) (key : String)
    (bytes : ByteArray) :
    folder.Abandons key
      { folder with disk := (trouble.write folder.disk (folder.draft key) bytes).2 } := by
  have afterWriting (part : ByteArray) : folder.Abandons key { folder with
      disk := (folder.disk.write (folder.draft key) part).toOption.getD folder.disk } := by
    cases written : folder.disk.write (folder.draft key) part with
    | error fault => exact .nothing
    | ok disk => exact .draft part written
  unfold Trouble.write
  split
  next => exact .nothing
  next part _ => exact afterWriting part
  next =>
    have wrote := afterWriting bytes
    split
    next disk written =>
      rw [written] at wrote
      exact wrote
    next => exact .nothing

/-- Writing for a key either succeeds or leaves no more than a draft. -/
theorem abandons_of_error {fault : Fault}
    (failed : (folder.writeAmid trouble given key text).1 = .error fault) :
    folder.Abandons key (folder.writeAmid trouble given key text).2 := by
  have drafted := abandons_of_write trouble folder key
    ((Text.encodeUtf8 text).toOption.getD ByteArray.empty)
  unfold writeAmid at failed ⊢
  dsimp only at failed ⊢
  split at failed
  next fault disk written =>
    simpa only [written] using drafted
  next disk written =>
    simp only [written] at drafted ⊢
    split at failed
    next => exact drafted
    next =>
      split at failed
      next => exact drafted
      next => nomatch failed

/-- A draft that was written is shown in the directory, and nothing else changes. -/
theorem shows_of_draft {disk : Disk} {bytes : ByteArray}
    (written : folder.disk.write (folder.draft key) bytes = .ok disk) :
    ∃ entries, folder.Shows entries ∧ { folder with disk := disk }.Shows
      (entries.put (Text.listedName (draftName key)) (.file bytes)) := by
  have written : folder.disk.write (folder.path.child (draftName key)) bytes = .ok disk := written
  obtain ⟨place, entries, shows⟩ := Disk.exists_shows_of_write written
  exact ⟨entries, ⟨place, shows⟩, place, shows.of_write (draftName_ne_above key) written⟩

/-- A folder with another draft in it answers every key as before. -/
theorem Abandons.load (abandons : folder.Abandons key left) (asked other : String) :
    left.load asked other = folder.load asked other := by
  cases abandons with
  | nothing => rfl
  | draft bytes written =>
    obtain ⟨entries, shows, showsDraft⟩ := shows_of_draft written
    apply load_congr shows showsDraft
    rw [Entries.get?_put, if_neg (listedName_draftName_ne key other)]

/-- The keys are those of the files among the entries. -/
theorem keys_of_shows {entries : Entries Node} (shows : folder.Shows entries) :
    folder.keys = entries.filterMap fun entry => (Disk.nameOfFile? entry).bind keyOfName? := by
  obtain ⟨place, shows⟩ := shows
  rw [keys_eq, shows.fileNames_eq, List.filterMap_filterMap]

/-- A file whose name is that of no key brings no key and takes none away. -/
theorem keysOfFiles_put {name : String} (noKey : keyOfName? name = none) (bytes : ByteArray)
    (entries : Entries Node) :
    (entries.put name (.file bytes)).filterMap
        (fun entry => (Disk.nameOfFile? entry).bind keyOfName?) =
      entries.filterMap fun entry => (Disk.nameOfFile? entry).bind keyOfName? := by
  have isNone (node : Node) : (Disk.nameOfFile? (name, node)).bind keyOfName? = none := by
    cases node with
    | file bytes => exact noKey
    | directory inner => rfl
  induction entries with
  | nil => simp [Entries.put, isNone]
  | cons entry rest inductionHypothesis =>
    obtain ⟨other, node⟩ := entry
    by_cases same : other = name
    · subst same
      simp [Entries.put, isNone]
    · simp only [Entries.put, if_neg same, List.filterMap_cons, inductionHypothesis]

/-- A folder with another draft in it lists the same keys. -/
theorem Abandons.keys (abandons : folder.Abandons key left) : left.keys = folder.keys := by
  cases abandons with
  | nothing => rfl
  | draft bytes written =>
    obtain ⟨entries, shows, showsDraft⟩ := shows_of_draft written
    rw [keys_of_shows shows, keys_of_shows showsDraft, keysOfFiles_put (keyOfName?_draft key)]

end Folder

/-! ## Archives -/

/-- A save that fails, at whatever place and amid whatever trouble, leaves every key with the
answer that it had, value or fault, and the same keys in the list. What is said amid trouble is
said of the save that runs, which is the one without any. -/
theorem failed_save_loses_nothing (archive : Archive) (now : Moment) (given : String)
    (value : Value) :
    archive.saveAmid {} now given value = archive.save now given value ∧
      ∀ trouble fault, (archive.saveAmid trouble now given value).1 = .error fault →
        (∀ asked, (archive.saveAmid trouble now given value).2.load asked = archive.load asked) ∧
          (archive.saveAmid trouble now given value).2.keys = archive.keys := by
  refine ⟨saveAmid_none archive now given value, fun trouble fault failed => ?_⟩
  unfold saveAmid at failed ⊢
  cases checked : checkKey given with
  | error refusal => exact ⟨fun _ => rfl, rfl⟩
  | ok key =>
    cases givesUp : trouble.encoding with
    | some fault => exact ⟨fun _ => rfl, rfl⟩
    | none =>
      simp only [checked, givesUp] at failed ⊢
      cases archive with
      | memory documents =>
        cases printed : Json.print ⟨none, true⟩ (wrap now value) with
        | error fault => exact ⟨fun _ => rfl, rfl⟩
        | ok text =>
          simp only [printed] at failed
          nomatch failed
      | folder shelf =>
        cases printed : Json.print ⟨shelf.indent, false⟩ (wrap now value) with
        | error fault =>
          simp only [printed]
          exact ⟨fun _ => trivial, trivial⟩
        | ok text =>
          simp only [printed] at failed ⊢
          have abandons := Folder.abandons_of_error failed
          refine ⟨fun asked => ?_, congrArg sortTexts abandons.keys⟩
          unfold load
          cases checkKey asked with
          | error refusal => rfl
          | ok other => exact abandons.load asked other

/-- A directory with a single document. -/
def caveEntries : Entries Node :=
  [("cave.json", .file "\x7b\"data\": \"dark\"\x7d".toUTF8)]

/-- An archive in that directory. -/
def caveShelf : Folder where
  disk := { root := .directory [("store", .directory caveEntries)] }
  path := ⟨.here, ["store"]⟩

/-- A disk that is full. -/
def fullFault : Disk.Fault :=
  .refused (.other 28 "No space left on device") (caveShelf.draft "cave")

theorem failed_save_loses_nothing_full :
    let trouble : Trouble := { writing := some (fullFault, some "\x7b\"version".toUTF8) }
    let after := (folder caveShelf).saveAmid trouble lampStory.created "cave" (.text "lit")
    after.1 = .error (.failed "cave" (.unwritable (caveShelf.file "cave") fullFault)) ∧
      (after.2.load "cave").toOption.join.bind Value.text? = some "dark" ∧
      after.2.keys = ["cave"] := by
  intro trouble after
  have failed : after.1 = .error (.failed "cave" (.unwritable (caveShelf.file "cave") fullFault)) :=
    by decide +kernel
  have held : ((folder caveShelf).load "cave").toOption.join.bind Value.text? = some "dark" := by
    decide +kernel
  have listed : (folder caveShelf).keys = ["cave"] := by
    have only : caveShelf.keys = ["cave"] := by decide +kernel
    rw [keys, only, sortTexts, List.mergeSort_singleton]
  obtain ⟨loads, keys⟩ := (failed_save_loses_nothing (folder caveShelf) lampStory.created "cave"
    (.text "lit")).2 trouble _ failed
  exact ⟨failed, (loads "cave").symm ▸ held, keys.trans listed⟩

end Gamebook.Archive
