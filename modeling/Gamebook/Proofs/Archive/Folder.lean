import Gamebook.Archive
import Gamebook.Proofs.Disk
import Mathlib.Data.List.Nodup

/-!
# Files of an archive

The directory of a folder is all that its operations look at and change. Writing for a key
changes nothing, leaves a draft beside the file of the key, or puts the file in its place and
takes the draft away; which of them, the result tells. Whatever happens, nothing changes under
another name than those of the file and its draft, and a document depends on nothing but the
file of its key.
-/

namespace Gamebook.Archive

/-! ## Names -/

/-- The name of the file of a key. -/
def fileName (key : String) : String := key ++ suffix

/-- The name under which the file of a key is written first. -/
def draftName (key : String) : String := key ++ suffix ++ draftSuffix

theorem fileName_ne_above (key : String) : fileName key ≠ ".." := by
  intro same
  have last := congrArg (fun name => name.toList.getLast?) same
  simp [fileName, suffix] at last

theorem draftName_ne_above (key : String) : draftName key ≠ ".." := by
  intro same
  have last := congrArg (fun name => name.toList.getLast?) same
  simp [draftName, draftSuffix] at last

/-- No file of a key is the draft of a key. -/
theorem fileName_ne_draftName (key other : String) : fileName key ≠ draftName other := by
  intro same
  have last := congrArg (fun name => name.toList.getLast?) same
  simp [fileName, draftName, suffix, draftSuffix] at last

theorem fileName_inj {key other : String} (same : fileName key = fileName other) :
    key = other := by
  have characters := congrArg String.toList same
  rw [fileName, fileName, String.toList_append, String.toList_append] at characters
  exact String.toList_inj.mp (List.append_cancel_right characters)

/-- The names under which an operation on a key can change the directory. -/
def touched (key : String) : List String :=
  [Text.listedName (fileName key), Text.listedName (draftName key)]

namespace Folder

/-- The path of a folder leads to a directory with the given entries. -/
def Shows (folder : Folder) (entries : Entries Node) : Prop :=
  ∃ place, folder.disk.Shows folder.path place entries

/-- An archive in an empty directory. -/
def emptyShelf : Folder where
  disk := { root := .directory [("store", .directory [])] }
  path := ⟨.here, ["store"]⟩

theorem emptyShelf_shows : emptyShelf.Shows [] := ⟨["store"], rfl, rfl⟩

variable {folder : Folder} {entries : Entries Node} {given key text : String}

/-- The entries after a text was written for a key. -/
def written (key text : String) (entries : Entries Node) : Entries Node :=
  ((entries.put (Text.listedName (draftName key)) (.file text.toUTF8)).erase
    (Text.listedName (draftName key))).put (Text.listedName (fileName key)) (.file text.toUTF8)

theorem get?_written (key text : String) (entries : Entries Node) :
    (written key text entries).get? (Text.listedName (fileName key)) =
      some (.file text.toUTF8) := by
  rw [written, Entries.get?_put_self]

/-- All that writing can come to: nothing, a draft, or the file of the key in its place. -/
theorem write_cases (shows : folder.Shows entries) {result : Except Fault Unit} {left : Folder}
    (wrote : folder.write given key text = (result, left)) :
    ((∃ fault, result = .error fault) ∧ left = folder) ∨
    ((∃ fault, result = .error fault) ∧ ∃ disk bytes, left = { folder with disk := disk } ∧
      left.Shows (entries.put (Text.listedName (draftName key)) (.file bytes))) ∨
    (result = .ok () ∧ folder.path.childFault? (fileName key) = none ∧
      ∃ disk, left = { folder with disk := disk } ∧ left.Shows (written key text entries)) := by
  obtain ⟨place, shows⟩ := shows
  unfold write at wrote
  cases drafted : folder.disk.write (folder.draft key)
      ((Text.encodeUtf8 text).toOption.getD ByteArray.empty) with
  | error fault =>
    simp only [drafted, Prod.mk.injEq] at wrote
    obtain ⟨rfl, rfl⟩ := wrote
    exact .inl ⟨⟨_, rfl⟩, rfl⟩
  | ok disk =>
    have showsDraft := shows.of_write (draftName_ne_above key) drafted
    simp only [drafted] at wrote
    cases encoded : Text.encodeUtf8 text with
    | error fault =>
      simp only [encoded, Prod.mk.injEq] at wrote
      obtain ⟨rfl, rfl⟩ := wrote
      exact .inr (.inl ⟨⟨_, rfl⟩, disk, _, rfl, place, showsDraft⟩)
    | ok bytes =>
      obtain ⟨_, rfl⟩ := (Text.encodeUtf8_ok_iff text bytes).mp encoded
      simp only [encoded] at wrote showsDraft
      cases moved : disk.move (folder.draft key) (folder.file key) with
      | error fault =>
        simp only [moved, Prod.mk.injEq] at wrote
        obtain ⟨rfl, rfl⟩ := wrote
        exact .inr (.inl ⟨⟨_, rfl⟩, disk, _, rfl, place, showsDraft⟩)
      | ok final =>
        simp only [moved, Prod.mk.injEq] at wrote
        obtain ⟨rfl, rfl⟩ := wrote
        obtain ⟨speakable, held, isDraft, showsFile⟩ :=
          showsDraft.of_move (draftName_ne_above key) (fileName_ne_above key) moved
        rw [Entries.get?_put_self] at isDraft
        obtain rfl := Node.file.inj (Option.some.inj isDraft)
        exact .inr (.inr ⟨rfl, speakable, final, rfl, place, showsFile⟩)

/-- What a writing that succeeded has done. -/
theorem write_done (shows : folder.Shows entries) {left : Folder}
    (wrote : folder.write given key text = (.ok (), left)) :
    folder.path.childFault? (fileName key) = none ∧
      ∃ disk, left = { folder with disk := disk } ∧ left.Shows (written key text entries) := by
  rcases write_cases shows wrote with ⟨⟨_, failed⟩, _⟩ | ⟨⟨_, failed⟩, _⟩ | ⟨_, done⟩
  · cases failed
  · cases failed
  · exact done

/-- The directory can hold the file of a key and its draft. -/
structure Admits (folder : Folder) (entries : Entries Node) (key : String) : Prop where
  file : folder.path.childFault? (fileName key) = none
  draft : folder.path.childFault? (draftName key) = none
  noDirectory : ∀ name ∈ touched key, Disk.NoDirectory entries name

/-- In an empty directory no directory is in the way. -/
theorem Admits.of_empty (file : folder.path.childFault? (fileName key) = none)
    (draft : folder.path.childFault? (draftName key) = none) : folder.Admits [] key where
  file := file
  draft := draft
  noDirectory name _ inner := by
    rw [Entries.get?_nil]
    exact (Option.some_ne_none _).symm

/-- A text without halves is written for a key that the directory can hold. -/
theorem write_ok (shows : folder.Shows entries) (admits : folder.Admits entries key)
    (whole : Text.Whole text.toList) (given : String) :
    (folder.write given key text).1 = .ok () := by
  obtain ⟨place, shows⟩ := shows
  have encoded := (Text.encodeUtf8_ok_iff text text.toUTF8).mpr ⟨whole, rfl⟩
  obtain ⟨disk, drafted⟩ := shows.write_ok (draftName_ne_above key) admits.draft
    (admits.noDirectory _ (by simp [touched])) text.toUTF8
  have showsDraft := shows.of_write (draftName_ne_above key) drafted
  have free : Disk.NoDirectory
      (entries.put (Text.listedName (draftName key)) (.file text.toUTF8))
      (Text.listedName (fileName key)) := by
    intro inner
    rw [Entries.get?_put]
    split
    next => nofun
    next => exact admits.noDirectory _ (by simp [touched]) inner
  obtain ⟨final, moved⟩ := showsDraft.move_ok (draftName_ne_above key) (fileName_ne_above key)
    admits.draft admits.file (Entries.get?_put_self _ _ _) free
  have moved : disk.move (folder.draft key) (folder.file key) = .ok final := moved
  have drafted : folder.disk.write (folder.draft key) text.toUTF8 = .ok disk := drafted
  simp only [write, encoded, Except.toOption, Option.getD_some, drafted, moved]

/-- All that deleting can come to: nothing, or the file of the key is gone. -/
theorem delete_cases (shows : folder.Shows entries) {result : Except Fault Unit} {left : Folder}
    (deleted : folder.delete given key = (result, left)) :
    ((∃ fault, result = .error fault) ∧ left = folder) ∨
    (result = .ok () ∧ ∃ disk, left = { folder with disk := disk } ∧
      left.Shows (entries.erase (Text.listedName (fileName key)))) := by
  obtain ⟨place, shows⟩ := shows
  unfold delete at deleted
  cases removed : folder.disk.remove (folder.file key) with
  | error fault =>
    simp only [removed, Prod.mk.injEq] at deleted
    obtain ⟨rfl, rfl⟩ := deleted
    exact .inl ⟨⟨_, rfl⟩, rfl⟩
  | ok disk =>
    simp only [removed, Prod.mk.injEq] at deleted
    obtain ⟨rfl, rfl⟩ := deleted
    exact .inr ⟨rfl, disk, rfl, place, shows.of_remove (fileName_ne_above key) removed⟩

/-- A key that the directory can hold is deleted. -/
theorem delete_ok (shows : folder.Shows entries) (admits : folder.Admits entries key)
    (given : String) : (folder.delete given key).1 = .ok () := by
  obtain ⟨place, shows⟩ := shows
  obtain ⟨disk, removed⟩ := shows.remove_ok (fileName_ne_above key) admits.file
    (admits.noDirectory _ (by simp [touched]))
  have removed : folder.disk.remove (folder.file key) = .ok disk := removed
  simp only [delete, removed]

/-! ## Other names -/

/-- Writing for a key changes nothing under other names. -/
theorem write_outside (shows : folder.Shows entries) (given key text : String) :
    ∃ disk after, (folder.write given key text).2 = { folder with disk := disk } ∧
      (folder.write given key text).2.Shows after ∧
      after.outside (touched key) = entries.outside (touched key) := by
  cases wrote : folder.write given key text with
  | mk result left =>
    rcases write_cases shows wrote with
      ⟨_, rfl⟩ | ⟨_, disk, bytes, same, shown⟩ | ⟨_, _, disk, same, shown⟩
    · exact ⟨left.disk, entries, rfl, shows, rfl⟩
    · refine ⟨disk, _, same, shown, Entries.outside_put ?_ _ _⟩
      simp [touched]
    · refine ⟨disk, _, same, shown, ?_⟩
      rw [written, Entries.outside_put, Entries.outside_erase, Entries.outside_put]
      all_goals simp [touched]

/-- Deleting a key changes nothing under other names. -/
theorem delete_outside (shows : folder.Shows entries) (given key : String) :
    ∃ disk after, (folder.delete given key).2 = { folder with disk := disk } ∧
      (folder.delete given key).2.Shows after ∧
      after.outside (touched key) = entries.outside (touched key) := by
  cases deleted : folder.delete given key with
  | mk result left =>
    rcases delete_cases shows deleted with ⟨_, rfl⟩ | ⟨_, disk, same, shown⟩
    · exact ⟨left.disk, entries, rfl, shows, rfl⟩
    · refine ⟨disk, _, same, shown, Entries.outside_erase ?_ _⟩
      simp [touched]

/-! ## Reading -/

/-- A document depends on nothing but the file of its key. -/
theorem load_congr {disk : Disk} {after : Entries Node} (shows : folder.Shows entries)
    (showsAfter : { folder with disk := disk }.Shows after)
    (same : entries.get? (Text.listedName (fileName key)) =
      after.get? (Text.listedName (fileName key))) :
    { folder with disk := disk }.load given key = folder.load given key := by
  obtain ⟨place, shows⟩ := shows
  obtain ⟨placeAfter, showsAfter⟩ := showsAfter
  have showsAfter : disk.Shows folder.path placeAfter after := showsAfter
  have entry : folder.disk.entry (folder.file key) = disk.entry (folder.file key) :=
    shows.entry_child_congr showsAfter (fileName_ne_above key) same
  have has : disk.has (folder.file key) = folder.disk.has (folder.file key) := by
    rw [Disk.has, Disk.has, entry]
  have read : disk.read (folder.file key) = folder.disk.read (folder.file key) := by
    rw [Disk.read, Disk.read, entry]
  have file : { folder with disk := disk }.file key = folder.file key := rfl
  simp only [load, file, has, read]

/-- What is loaded from the file of a key. -/
theorem load_file (shows : folder.Shows entries)
    (speakable : folder.path.childFault? (fileName key) = none) {bytes : ByteArray}
    (held : entries.get? (Text.listedName (fileName key)) = some (.file bytes)) :
    folder.load given key =
      match parse (folder.file key) bytes with
      | .error cause => .error (.failed given cause)
      | .ok envelope => (unwrap given envelope).map some := by
  obtain ⟨place, shows⟩ := shows
  have entry : folder.disk.entry (folder.file key) = .ok (.file bytes) := by
    have known := shows.entry_child (fileName_ne_above key)
    simp only [speakable, held] at known
    exact known
  cases parsed : parse (folder.file key) bytes <;>
    simp only [load, Disk.has, Disk.read, entry, parsed]

/-- Where there is no file of a key, nothing is loaded. -/
theorem load_missing (shows : folder.Shows entries)
    (speakable : folder.path.childFault? (fileName key) = none)
    (absent : entries.get? (Text.listedName (fileName key)) = none) :
    folder.load given key = .ok none := by
  obtain ⟨place, shows⟩ := shows
  have entry : folder.disk.entry (folder.file key) =
      .error (.refused .missing (folder.file key)) := by
    have known := shows.entry_child (fileName_ne_above key)
    simp only [speakable, absent] at known
    exact known
  simp only [load, Disk.has, entry]

/-! ## Keys -/

/-- The key of which a name is that of its file, if it is one. -/
def keyOfName? (name : String) : Option String :=
  if suffix.toList.isSuffixOf name.toList then
    some (String.ofList (name.toList.take (name.toList.length - suffix.length)))
  else none

theorem keyOfName?_eq_some_iff (name key : String) :
    keyOfName? name = some key ↔ name = fileName key := by
  unfold keyOfName?
  constructor
  · intro found
    split at found
    next isSuffix =>
      obtain ⟨front, characters⟩ := List.isSuffixOf_iff_suffix.mp isSuffix
      obtain rfl := Option.some.inj found
      apply String.toList_inj.mp
      rw [fileName, String.toList_append, String.toList_ofList, ← characters,
        ← String.length_toList, List.length_append, Nat.add_sub_cancel, List.take_left]
    next => cases found
  · rintro rfl
    have isSuffix : suffix.toList.isSuffixOf (fileName key).toList = true := by
      rw [List.isSuffixOf_iff_suffix, fileName, String.toList_append]
      exact List.suffix_append _ _
    rw [if_pos isSuffix, fileName, String.toList_append, ← String.length_toList,
      List.length_append, Nat.add_sub_cancel, List.take_left, String.ofList_toList]

theorem keys_eq (folder : Folder) :
    folder.keys = (folder.disk.fileNames folder.path).filterMap keyOfName? := rfl

/-- The keys are those that have a file. -/
theorem mem_keys (shows : folder.Shows entries) (key : String) :
    key ∈ folder.keys ↔ ∃ bytes, (fileName key, .file bytes) ∈ entries := by
  obtain ⟨place, shows⟩ := shows
  rw [keys_eq, shows.fileNames_eq, List.mem_filterMap]
  constructor
  · rintro ⟨name, isName, isKey⟩
    obtain rfl := (keyOfName?_eq_some_iff name key).mp isKey
    obtain ⟨entry, member, isFile⟩ := List.mem_filterMap.mp isName
    obtain ⟨bytes, rfl⟩ := (Disk.nameOfFile?_eq_some_iff entry _).mp isFile
    exact ⟨bytes, member⟩
  · rintro ⟨bytes, member⟩
    exact ⟨fileName key, List.mem_filterMap.mpr ⟨_, member, rfl⟩,
      (keyOfName?_eq_some_iff _ key).mpr rfl⟩

/-- In a directory in which no name comes twice, no key comes twice. -/
theorem keys_nodup (shows : folder.Shows entries) (distinct : entries.keys.Nodup) :
    folder.keys.Nodup := by
  obtain ⟨place, shows⟩ := shows
  rw [keys_eq, shows.fileNames_eq]
  refine List.Nodup.filterMap ?_ ((Disk.nameOfFile?_sublist entries).nodup distinct)
  intro name other key isKey otherIsKey
  rw [(keyOfName?_eq_some_iff name key).mp isKey, (keyOfName?_eq_some_iff other key).mp otherIsKey]

end Folder

end Gamebook.Archive
