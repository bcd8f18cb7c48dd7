import Gamebook.Proofs.Archive.Envelope
import Gamebook.Proofs.Archive.Folder
import Gamebook.Proofs.Archive.Key
import Gamebook.Proofs.Text.Order

/-!
# What saving and deleting a key change

Saving under a key and deleting it leave alone what is kept under every other key, whether they
succeed or not. In a directory this is said of keys in which no half stands for a byte: two
other keys can name one file, and one can be listed as another. After a save that succeeds, the
document of the key is the value that was saved, and the key is listed. A save succeeds when
the value can be kept and the archive has room for the key.
-/

namespace Gamebook.Archive

/-! ## Keys that are their own names -/

/-- No half of the text stands for a byte. -/
def Plain (text : String) : Prop := ∀ c ∈ text.toList, Text.isByteHalf c = false

instance (text : String) : Decidable (Plain text) := List.decidableBAll _ text.toList

theorem Plain.append {front rest : String} (frontPlain : Plain front) (restPlain : Plain rest) :
    Plain (front ++ rest) := by
  intro c member
  rw [String.toList_append] at member
  rcases List.mem_append.mp member with before | behind
  · exact frontPlain c before
  · exact restPlain c behind

theorem plain_suffix : Plain suffix := by decide +kernel

theorem plain_draftSuffix : Plain draftSuffix := by decide +kernel

theorem Plain.fileName {key : String} (plain : Plain key) :
    Text.listedName (fileName key) = fileName key :=
  Text.listedName_eq (plain.append plain_suffix)

theorem Plain.draftName {key : String} (plain : Plain key) :
    Text.listedName (draftName key) = draftName key :=
  Text.listedName_eq ((plain.append plain_suffix).append plain_draftSuffix)

/-- The file of another key is not touched. -/
theorem fileName_not_touched {key other : String} (plain : Plain key) (apart : key ≠ other) :
    fileName other ∉ touched key := by
  rw [touched, plain.fileName, plain.draftName]
  intro member
  rcases List.mem_cons.mp member with same | draft
  · exact apart (fileName_inj same.symm)
  · exact fileName_ne_draftName _ _ (List.mem_singleton.mp draft)

/-- Whether keys of an archive are names of files, so that they must be plain to tell them apart. -/
def Names (archive : Archive) (text : String) : Prop :=
  match archive with
  | .memory _ => True
  | .folder _ => Plain text

/-! ## Other keys -/

/-- What is kept under a key, and whether the key is listed, is the same in both archives. -/
structure Spares (archive after : Archive) (key : String) : Prop where
  load : ∀ given, Text.trim given = key → after.load given = archive.load given
  listed : key ∈ after.keys ↔ key ∈ archive.keys

theorem Spares.refl (archive : Archive) (key : String) : Spares archive archive key :=
  ⟨fun _ _ => rfl, Iff.rfl⟩

/-- An archive in memory depends on nothing but what is written under the key. -/
theorem memory_spares {documents after : Entries String} {key : String}
    (same : after.get? key = documents.get? key) :
    Spares (.memory documents) (.memory after) key where
  load given trimmed := by
    unfold Archive.load
    cases checked : checkKey given with
    | error fault => rfl
    | ok found =>
      obtain rfl : found = key := (trim_of_checkKey checked).symm.trans trimmed
      simp only [same]
  listed := by
    rw [Archive.keys, Archive.keys, mem_sortTexts, mem_sortTexts, ← Entries.get?_isSome_iff,
      ← Entries.get?_isSome_iff, same]

/-- An archive in a directory depends on nothing but the file of the key. -/
theorem folder_spares {shelf : Folder} {disk : Disk} {entries after : Entries Node}
    (shows : shelf.Shows entries) (showsAfter : { shelf with disk := disk }.Shows after)
    {key other : String} (plain : Plain key) (otherPlain : Plain other) (apart : key ≠ other)
    (same : after.outside (touched key) = entries.outside (touched key)) :
    Spares (.folder shelf) (.folder { shelf with disk := disk }) other := by
  have untouched := fileName_not_touched plain apart
  constructor
  · intro given trimmed
    unfold Archive.load
    cases checked : checkKey given with
    | error fault => rfl
    | ok found =>
      obtain rfl : found = other := (trim_of_checkKey checked).symm.trans trimmed
      apply Folder.load_congr shows showsAfter
      rw [otherPlain.fileName, ← Entries.get?_outside untouched, ← same,
        Entries.get?_outside untouched]
  · have member (bytes : ByteArray) : (fileName other, .file bytes) ∈ after ↔
        (fileName other, .file bytes) ∈ entries := by
      rw [← Entries.mem_outside untouched after, same, Entries.mem_outside untouched]
    rw [Archive.keys, Archive.keys, mem_sortTexts, mem_sortTexts, Folder.mem_keys shows,
      Folder.mem_keys showsAfter]
    exact exists_congr member

/-- An archive that can be worked with: in memory, or in a directory that is there. -/
inductive Stands : Archive → Prop
  | memory (documents : Entries String) : Stands (.memory documents)
  | folder {shelf : Folder} {entries : Entries Node} (shows : shelf.Shows entries) :
    Stands (.folder shelf)

/-- What an operation on a key leaves behind: an archive of the same sort that can be worked
with, in which other keys have what they had. -/
structure Leaves (archive after : Archive) (key : String) : Prop where
  stands : after.Stands
  names : ∀ text, after.Names text ↔ archive.Names text
  spares : ∀ other, key ≠ other → archive.Names key → archive.Names other →
    Spares archive after other

theorem Leaves.refl {archive : Archive} (stands : archive.Stands) (key : String) :
    Leaves archive archive key where
  stands := stands
  names _ := Iff.rfl
  spares other _ _ _ := .refl archive other

theorem leaves_memory {documents after : Entries String} {key : String}
    (same : ∀ other, key ≠ other → after.get? other = documents.get? other) :
    Leaves (.memory documents) (.memory after) key where
  stands := .memory after
  names _ := Iff.rfl
  spares other apart _ _ := memory_spares (same other apart)

theorem leaves_folder {shelf left : Folder} {entries : Entries Node} (shows : shelf.Shows entries)
    {key : String} (changed : ∃ disk after, left = { shelf with disk := disk } ∧
      left.Shows after ∧ after.outside (touched key) = entries.outside (touched key)) :
    Leaves (.folder shelf) (.folder left) key := by
  obtain ⟨disk, after, rfl, showsAfter, same⟩ := changed
  exact {
    stands := .folder showsAfter
    names := fun _ => Iff.rfl
    spares := fun other apart plain otherPlain =>
      folder_spares shows showsAfter plain otherPlain apart same }

section Equations

variable {given key : String} (checked : checkKey given = .ok key)

include checked

theorem save_memory (documents : Entries String) (now : Moment) (value : Value) :
    (memory documents).save now given value =
      match Json.print ⟨none, true⟩ (wrap now value) with
      | .error fault => (.error (.failed key (.unwritableValue fault)), .memory documents)
      | .ok text => (.ok (), .memory (documents.put key text)) := by
  cases printed : Json.print ⟨none, true⟩ (wrap now value) <;>
    simp only [save, checked, printed]

theorem save_folder (shelf : Folder) (now : Moment) (value : Value) :
    (folder shelf).save now given value =
      match Json.print ⟨shelf.indent, false⟩ (wrap now value) with
      | .error fault => (.error (.failed given (.unwritableValue fault)), .folder shelf)
      | .ok text => ((shelf.write given key text).1, .folder (shelf.write given key text).2) := by
  cases printed : Json.print ⟨shelf.indent, false⟩ (wrap now value) <;>
    simp only [save, checked, printed]

theorem delete_memory (documents : Entries String) :
    (memory documents).delete given = (.ok (), .memory (documents.erase key)) := by
  simp only [delete, checked]

theorem delete_folder (shelf : Folder) :
    (folder shelf).delete given =
      ((shelf.delete given key).1, .folder (shelf.delete given key).2) := by
  simp only [delete, checked]

end Equations

theorem save_refused {given : String} {fault : KeyFault} (checked : checkKey given = .error fault)
    (archive : Archive) (now : Moment) (value : Value) :
    archive.save now given value = (.error (.key fault), archive) := by
  simp only [save, checked]

theorem delete_refused {given : String} {fault : KeyFault}
    (checked : checkKey given = .error fault) (archive : Archive) :
    archive.delete given = (.error (.key fault), archive) := by
  simp only [delete, checked]

/-- Saving under a key leaves other keys alone. -/
theorem save_leaves {archive : Archive} (stands : archive.Stands) (now : Moment) (given : String)
    (value : Value) : Leaves archive (archive.save now given value).2 (Text.trim given) := by
  cases checked : checkKey given with
  | error fault =>
    rw [save_refused checked]
    exact .refl stands _
  | ok key =>
    rw [trim_of_checkKey checked]
    cases stands with
    | memory documents =>
      rw [save_memory checked]
      cases Json.print ⟨none, true⟩ (wrap now value) with
      | error fault => exact .refl (.memory documents) key
      | ok text =>
        apply leaves_memory
        intro other apart
        rw [Entries.get?_put, if_neg apart]
    | @folder shelf entries shows =>
      rw [save_folder checked]
      cases Json.print ⟨shelf.indent, false⟩ (wrap now value) with
      | error fault => exact .refl (.folder shows) key
      | ok text => exact leaves_folder shows (Folder.write_outside shows given key text)

/-- Deleting a key leaves other keys alone. -/
theorem delete_leaves {archive : Archive} (stands : archive.Stands) (given : String) :
    Leaves archive (archive.delete given).2 (Text.trim given) := by
  cases checked : checkKey given with
  | error fault =>
    rw [delete_refused checked]
    exact .refl stands _
  | ok key =>
    rw [trim_of_checkKey checked]
    cases stands with
    | memory documents =>
      rw [delete_memory checked]
      apply leaves_memory
      intro other apart
      rw [Entries.get?_erase, if_neg apart]
    | @folder shelf entries shows =>
      rw [delete_folder checked]
      exact leaves_folder shows (Folder.delete_outside shows given key)

/-! ## The key itself -/

/-- A value that was saved can be written. -/
theorem fault?_of_saved {archive kept : Archive} {now : Moment} {given : String} {value : Value}
    (saved : archive.save now given value = (.ok (), kept)) : Json.fault? value = none := by
  have part {layout : Json.Layout} {text : String}
      (printed : Json.print layout (wrap now value) = .ok text) : Json.fault? value = none := by
    cases wrapped : Json.fault? (wrap now value) with
    | some fault =>
      rw [Json.print, wrapped] at printed
      cases printed
    | none => exact (Value.membersFault?_eq_none_iff _).mp wrapped ("data", value) (by simp)
  cases checked : checkKey given with
  | error fault =>
    rw [save_refused checked] at saved
    cases saved
  | ok key =>
    cases archive with
    | memory documents =>
      rw [save_memory checked] at saved
      cases printed : Json.print ⟨none, true⟩ (wrap now value) with
      | error fault =>
        rw [printed] at saved
        cases saved
      | ok text => exact part printed
    | folder shelf =>
      rw [save_folder checked] at saved
      cases printed : Json.print ⟨shelf.indent, false⟩ (wrap now value) with
      | error fault =>
        rw [printed] at saved
        cases saved
      | ok text => exact part printed

/-- A document that was saved in a directory is what every key loads whose file has the name of
that of the document. -/
theorem load_shared {shelf : Folder} {entries : Entries Node} (shows : shelf.Shows entries)
    {given asked key other : String} (checked : checkKey given = .ok key)
    (askedChecked : checkKey asked = .ok other)
    (sameName : Text.listedName (fileName other) = Text.listedName (fileName key))
    (speakable : shelf.path.childFault? (fileName key) = none →
      shelf.path.childFault? (fileName other) = none)
    {now : Moment} {value : Value} (keepable : Keepable value) {kept : Archive}
    (saved : (folder shelf).save now given value = (.ok (), kept)) :
    kept.load asked = .ok (some value) ∧ (Plain key → key ∈ kept.keys) := by
  rw [save_folder checked, keepable.print_eq] at saved
  cases wrote : shelf.write given key (documentText ⟨shelf.indent, false⟩ now value) with
  | mk result left =>
    simp only [wrote, Prod.mk.injEq] at saved
    obtain ⟨rfl, rfl⟩ := saved
    obtain ⟨keySpeakable, disk, rfl, shown⟩ := Folder.write_done shows wrote
    have held := Folder.get?_written key (documentText ⟨shelf.indent, false⟩ now value) entries
    constructor
    · rw [← sameName] at held
      have loaded : Folder.load _ asked other = _ :=
        Folder.load_file shown (speakable keySpeakable) held
      rw [keepable.parse_eq] at loaded
      simp only [load, askedChecked]
      exact loaded
    · intro plain
      rw [plain.fileName] at held
      rw [keys, mem_sortTexts, Folder.mem_keys shown]
      exact ⟨_, Entries.mem_of_get? held⟩

/-- A value that can be kept is loaded as it was saved, whatever blanks stand around the key. -/
theorem load_saved {archive kept : Archive} (stands : archive.Stands) {now : Moment}
    {given : String} {value : Value} (keepable : Keepable value)
    (saved : archive.save now given value = (.ok (), kept)) :
    (∀ asked, Text.trim asked = Text.trim given → kept.load asked = .ok (some value)) ∧
      (archive.Names (Text.trim given) → Text.trim given ∈ kept.keys) := by
  cases checked : checkKey given with
  | error fault =>
    rw [save_refused checked] at saved
    cases saved
  | ok key =>
    have same {asked : String} (trimmed : Text.trim asked = key) : checkKey asked = .ok key :=
      (checkKey_ok_iff asked key).mpr ⟨trimmed, ((checkKey_ok_iff given key).mp checked).2⟩
    rw [trim_of_checkKey checked]
    cases stands with
    | memory documents =>
      rw [save_memory checked, keepable.print_eq] at saved
      obtain ⟨-, rfl⟩ := Prod.mk.inj saved
      constructor
      · intro asked trimmed
        simp only [load, same trimmed, Entries.get?_put_self, keepable.read_eq, unwrap_wrap]
        rfl
      · intro _
        rw [keys, mem_sortTexts, Entries.mem_keys_put]
        exact .inl rfl
    | folder shows =>
      constructor
      · intro asked trimmed
        exact (load_shared shows checked (same trimmed) rfl id keepable saved).1
      · exact (load_shared shows checked checked rfl id keepable saved).2

/-- An archive has room for a key: it is in memory, or its directory can hold the file. -/
inductive HasRoom : Archive → String → Prop
  | memory (documents : Entries String) (key : String) : HasRoom (.memory documents) key
  | folder {shelf : Folder} {entries : Entries Node} {key : String} (shows : shelf.Shows entries)
    (admits : shelf.Admits entries key) : HasRoom (.folder shelf) key

theorem HasRoom.stands {archive : Archive} {key : String} (room : archive.HasRoom key) :
    archive.Stands := by
  cases room with
  | memory documents key => exact .memory documents
  | folder shows admits => exact .folder shows

/-- A value that can be kept is saved where there is room for its key. -/
theorem save_ok {archive : Archive} {given key : String} (checked : checkKey given = .ok key)
    (room : archive.HasRoom key) (now : Moment) {value : Value} (keepable : Keepable value) :
    ∃ kept, archive.save now given value = (.ok (), kept) := by
  cases room with
  | memory documents key =>
    rw [save_memory checked, keepable.print_eq]
    exact ⟨_, rfl⟩
  | @folder shelf entries key shows admits =>
    rw [save_folder checked, keepable.print_eq]
    refine ⟨.folder (shelf.write given key _).2, Prod.ext ?_ rfl⟩
    exact Folder.write_ok shows admits (keepable.printed _ now).whole given

end Gamebook.Archive
