import Gamebook.Proofs.Disk.Path
import Gamebook.Proofs.Disk.Tree
import Gamebook.Proofs.Fallible
import Gamebook.Proofs.Text.Utf8

/-!
# Files of one directory

A path that leads to a directory is said to show its entries. What an operation on a file of
this directory does depends on nothing but the entries and on whether a path can have the
name at all, and it shows in the entries alone: the path leads to the same place afterwards,
since no operation on files turns a directory into anything else.
-/

namespace Gamebook

namespace Disk

/-! ## Following names -/

/-- Names are followed one part after the other. -/
theorem follow_append (disk : Disk) (place names more : List String) :
    disk.follow place (names ++ more) =
      (disk.follow place names).bind fun goal => disk.follow goal more := by
  induction names generalizing place with
  | nil => rfl
  | cons name rest inductionHypothesis =>
    rw [List.cons_append, follow, follow]
    cases disk.root.find place with
    | error refusal => rfl
    | ok node =>
      cases node with
      | file bytes => rfl
      | directory entries =>
        by_cases above : name = ".."
        · simpa only [above, if_true] using inductionHypothesis place.dropLast
        · by_cases long : nameLimit < Text.nameSize name
          · simp only [above, long, if_true, if_false]
            rfl
          · simpa only [above, long, if_false] using
              inductionHypothesis (place ++ [Text.listedName name])

/-- Where every directory stays, names lead to the same place. -/
theorem follow_of_keepsDirectories {disk : Disk} {after : Node}
    (keeps : disk.root.KeepsDirectories after) {place names goal : List String}
    (followed : disk.follow place names = .ok goal) :
    { disk with root := after }.follow place names = .ok goal := by
  induction names generalizing place with
  | nil => exact followed
  | cons name rest inductionHypothesis =>
    rw [follow] at followed ⊢
    cases found : disk.root.find place with
    | error refusal => simp [found] at followed
    | ok node =>
      cases node with
      | file bytes => simp [found] at followed
      | directory entries =>
        obtain ⟨others, stays⟩ := keeps place entries found
        simp only [found] at followed
        simp only [stays]
        by_cases above : name = ".."
        · simp only [above, if_true] at followed ⊢
          exact inductionHypothesis followed
        · by_cases long : nameLimit < Text.nameSize name
          · simp [above, long] at followed
          · simp only [above, long, if_false] at followed ⊢
            exact inductionHypothesis followed

/-! ## Locating -/

/-- The place where paths with an anchor begin. -/
def origin (disk : Disk) (anchor : Anchor) : List String :=
  if anchor = .here then disk.here else []

/-- A path leads to a place when its text can be a path and its names lead there. -/
theorem locate_ok_iff (disk : Disk) (path : Path) (place : List String) :
    disk.locate path = .ok place ↔ Text.pathFault? path.text.toList = none ∧
      '\x00' ∉ path.text.toList ∧
      disk.follow (disk.origin path.anchor) path.names = .ok place := by
  unfold locate origin
  cases Text.pathFault? path.text.toList with
  | some fault => simp
  | none =>
    by_cases null : '\x00' ∈ path.text.toList
    · simp [null]
    · cases disk.follow (if path.anchor = .here then disk.here else []) path.names <;>
        simp [null]

/-! ## What an operation that ends well did -/

theorem read_ok_iff (disk : Disk) (path : Path) (bytes : ByteArray) :
    disk.read path = .ok bytes ↔ disk.entry path = .ok (.file bytes) := by
  unfold read
  split
  next known => simp [known]
  next known => simp [known]
  next known => simp [known]

theorem write_ok_iff (disk : Disk) (path : Path) (bytes : ByteArray) (after : Disk) :
    disk.write path bytes = .ok after ↔
      ∃ place, disk.locate path = .ok place ∧ disk.isDirectory path = false ∧
        { disk with root := disk.root.put place (.file bytes) } = after := by
  cases isDirectory : disk.isDirectory path <;> simp [write, Except.bind_ok_iff, isDirectory]

theorem move_ok_iff (disk : Disk) (path target : Path) (after : Disk) :
    disk.move path target = .ok after ↔
      ∃ bytes, disk.entry path = .ok (.file bytes) ∧
        ∃ place, disk.locate path = .ok place ∧
          ∃ goal, disk.locate target = .ok goal ∧ disk.isDirectory target = false ∧
            { disk with root := (disk.root.erase place).put goal (.file bytes) } = after := by
  cases isDirectory : disk.isDirectory target <;>
    simp [move, Except.bind_ok_iff, read_ok_iff, isDirectory]

/-- What was removed is a file that was there, or nothing was there to remove. -/
theorem remove_ok_iff (disk : Disk) (path : Path) (after : Disk) :
    disk.remove path = .ok after ↔
      (∃ bytes, disk.entry path = .ok (.file bytes) ∧
        ∃ place, disk.locate path = .ok place ∧
          { disk with root := disk.root.erase place } = after) ∨
      (∃ other, disk.entry path = .error (.refused .missing other)) ∧ disk = after := by
  unfold remove
  split
  next known => simp [known, Except.map_ok_iff]
  next known => simp [known]
  next known => simp [known]
  next fault notMissing known =>
    have notMissing (other : Path) : fault ≠ .refused .missing other := notMissing other
    simp [known, notMissing]

/-! ## A directory that is shown -/

/-- A path leads to a directory with the given entries. -/
structure Shows (disk : Disk) (path : Path) (place : List String) (entries : Entries Node) :
    Prop where
  located : disk.locate path = .ok place
  found : disk.root.find place = .ok (.directory entries)

/-- Why no disk can have an entry with a name where a path leads. -/
def Path.childFault? (path : Path) (name : String) : Option Fault :=
  match Text.pathFault? (path.child name).text.toList with
  | some fault => some (.encoding fault)
  | none =>
    if (path.child name).text.toList.contains '\x00' then some .nullByte
    else if nameLimit < Text.nameSize name then some (.refused .nameTooLong (path.child name))
    else none

/-- Such a fault is never that an entry is missing. -/
theorem Path.childFault?_ne_missing (path : Path) (name : String) (other : Path) :
    path.childFault? name ≠ some (.refused .missing other) := by
  intro missing
  unfold childFault? at missing
  split at missing
  · nomatch missing
  · split at missing
    · nomatch missing
    · split at missing <;> nomatch missing

/-- The entries have no directory with a name, so a file can stand there. -/
def NoDirectory (entries : Entries Node) (name : String) : Prop :=
  ∀ inner, entries.get? name ≠ some (.directory inner)

theorem noDirectory_of_file {entries : Entries Node} {name : String} {bytes : ByteArray}
    (isFile : entries.get? name = some (.file bytes)) : NoDirectory entries name := by
  intro inner isDirectory
  nomatch isFile.symm.trans isDirectory

theorem NoDirectory.erase {entries : Entries Node} {name : String}
    (noDirectory : NoDirectory entries name) (erased : String) :
    NoDirectory (entries.erase erased) name := by
  intro inner
  rw [Entries.get?_erase]
  split
  next => nofun
  next => exact noDirectory inner

section Shown

variable {disk : Disk} {path : Path} {place : List String} {entries : Entries Node}

/-- The name of an entry that is a file. -/
def nameOfFile? : String × Node → Option String
  | (name, .file _) => some name
  | (_, .directory _) => none

theorem nameOfFile?_eq_some_iff (entry : String × Node) (name : String) :
    nameOfFile? entry = some name ↔ ∃ bytes, entry = (name, .file bytes) := by
  obtain ⟨given, node⟩ := entry
  cases node <;> simp [nameOfFile?]

/-- The names of the files are names of entries, in the order of the entries. -/
theorem nameOfFile?_sublist (entries : Entries Node) :
    (entries.filterMap nameOfFile?).Sublist entries.keys := by
  induction entries with
  | nil => exact .slnil
  | cons entry rest inductionHypothesis =>
    obtain ⟨name, node⟩ := entry
    cases node with
    | file bytes => exact inductionHypothesis.cons_cons name
    | directory inner => exact inductionHypothesis.cons name

theorem Shows.fileNames_eq (shows : disk.Shows path place entries) :
    disk.fileNames path = entries.filterMap nameOfFile? := by
  have isDirectory : disk.entry path = .ok (.directory entries) := by
    simp [entry, shows.located, shows.found]
  rw [fileNames, isDirectory]
  rfl

/-- Where the path of an entry leads. -/
theorem Shows.locate_child (shows : disk.Shows path place entries) {name : String}
    (below : name ≠ "..") : disk.locate (path.child name) =
      match path.childFault? name with
      | some fault => .error fault
      | none => .ok (place ++ [Text.listedName name]) := by
  obtain ⟨_, _, followed⟩ := (locate_ok_iff disk path place).mp shows.located
  have last : disk.follow (disk.origin path.anchor) (path.names ++ [name]) =
      if nameLimit < Text.nameSize name then .error .nameTooLong
      else .ok (place ++ [Text.listedName name]) := by
    rw [follow_append, followed]
    simp [Except.bind, follow, shows.found, below]
  unfold locate Path.childFault?
  cases Text.pathFault? (path.child name).text.toList with
  | some fault => rfl
  | none =>
    by_cases null : '\x00' ∈ (path.child name).text.toList
    · simp [null]
    · have same : disk.follow (if (path.child name).anchor = .here then disk.here else [])
          (path.child name).names = _ := last
      rw [same]
      by_cases long : nameLimit < Text.nameSize name <;> simp [null, long]

theorem Shows.locate_child_ok_iff (shows : disk.Shows path place entries) {name : String}
    (below : name ≠ "..") (goal : List String) :
    disk.locate (path.child name) = .ok goal ↔
      path.childFault? name = none ∧ place ++ [Text.listedName name] = goal := by
  rw [shows.locate_child below]
  cases path.childFault? name <;> simp

theorem Shows.find_listed (shows : disk.Shows path place entries) (listed : String) :
    disk.root.find (place ++ [listed]) =
      match entries.get? listed with
      | some node => .ok node
      | none => .error .missing := by
  rw [Node.find_append, shows.found]
  cases known : entries.get? listed with
  | none => exact Node.find_new known []
  | some node => exact (Node.find_known known []).trans (Node.find_nil node)

/-- The entry that the path of an entry leads to. -/
theorem Shows.entry_child (shows : disk.Shows path place entries) {name : String}
    (below : name ≠ "..") : disk.entry (path.child name) =
      match path.childFault? name with
      | some fault => .error fault
      | none =>
        match entries.get? (Text.listedName name) with
        | some node => .ok node
        | none => .error (.refused .missing (path.child name)) := by
  rw [entry, shows.locate_child below]
  cases path.childFault? name with
  | some fault => rfl
  | none =>
    dsimp only
    rw [Except.ok_bind, shows.find_listed]
    cases entries.get? (Text.listedName name) <;> rfl

theorem Shows.entry_child_ok_iff (shows : disk.Shows path place entries) {name : String}
    (below : name ≠ "..") (node : Node) :
    disk.entry (path.child name) = .ok node ↔
      path.childFault? name = none ∧ entries.get? (Text.listedName name) = some node := by
  rw [shows.entry_child below]
  cases path.childFault? name with
  | some fault => simp
  | none => cases entries.get? (Text.listedName name) <;> simp

theorem Shows.get?_of_missing (shows : disk.Shows path place entries) {name : String}
    (below : name ≠ "..") {other : Path}
    (missing : disk.entry (path.child name) = .error (.refused .missing other)) :
    entries.get? (Text.listedName name) = none := by
  rw [shows.entry_child below] at missing
  cases speakable : path.childFault? name with
  | some fault =>
    simp only [speakable] at missing
    obtain rfl := Except.error.inj missing
    exact absurd speakable (path.childFault?_ne_missing name other)
  | none =>
    cases known : entries.get? (Text.listedName name) with
    | none => rfl
    | some node => simp [speakable, known] at missing

/-- Whatever two disks show under other names, they have the same entry under a name. -/
theorem Shows.entry_child_congr {other : Disk} {goal : List String} {others : Entries Node}
    (shows : disk.Shows path place entries) (otherShows : other.Shows path goal others)
    {name : String} (below : name ≠ "..")
    (same : entries.get? (Text.listedName name) = others.get? (Text.listedName name)) :
    disk.entry (path.child name) = other.entry (path.child name) := by
  rw [shows.entry_child below, otherShows.entry_child below, same]

/-- Where a path leads somewhere, it can have every entry with a short name that has neither a
half nor a null. -/
theorem Shows.speakable (shows : disk.Shows path place entries) {name : String}
    (whole : Text.Whole name.toList) (noNull : '\x00' ∉ name.toList)
    (short : Text.nameSize name ≤ nameLimit) : path.childFault? name = none := by
  obtain ⟨spelled, noNullBefore, _⟩ := (locate_ok_iff disk path place).mp shows.located
  have noFault : Text.pathFault? (path.child name).text.toList = none := by
    rw [Text.pathFault?_eq_none_iff] at spelled ⊢
    intro c member
    rcases Path.mem_child member with before | rfl | inName
    · exact spelled c before
    · rfl
    · rw [whole c inName, Bool.false_and]
  have noNullChild : '\x00' ∉ (path.child name).text.toList := by
    intro member
    rcases Path.mem_child member with before | slash | inName
    · exact noNullBefore before
    · exact absurd slash (by decide)
    · exact noNull inName
  simp [Path.childFault?, noFault, noNullChild, Nat.not_lt.mpr short]

/-! ## Changing the files of a directory -/

theorem Shows.noDirectory_find (shows : disk.Shows path place entries) {listed : String}
    (noDirectory : NoDirectory entries listed) (inner : Entries Node) :
    disk.root.find (place ++ [listed]) ≠ .ok (.directory inner) := by
  rw [shows.find_listed]
  cases known : entries.get? listed with
  | none => nofun
  | some node =>
    rintro isDirectory
    obtain rfl := Except.ok.inj isDirectory
    exact noDirectory inner known

/-- A change below the place of a path that keeps directories leaves the path leading there. -/
theorem Shows.of_keepsDirectories (shows : disk.Shows path place entries) {root : Node}
    {others : Entries Node} (keeps : disk.root.KeepsDirectories root)
    (found : root.find place = .ok (.directory others)) :
    { disk with root := root }.Shows path place others where
  located := by
    obtain ⟨spelled, noNull, followed⟩ := (locate_ok_iff disk path place).mp shows.located
    exact (locate_ok_iff _ path place).mpr
      ⟨spelled, noNull, follow_of_keepsDirectories keeps followed⟩
  found := found

/-- Where no directory is, a file can be put. -/
theorem Shows.put_file (shows : disk.Shows path place entries) {listed : String}
    (noDirectory : NoDirectory entries listed) (bytes : ByteArray) :
    { disk with root := disk.root.put (place ++ [listed]) (.file bytes) }.Shows path place
      (entries.put listed (.file bytes)) := by
  apply shows.of_keepsDirectories
  · exact Node.keepsDirectories_put (shows.noDirectory_find noDirectory) _
  · rw [Node.find_put_append shows.found, Node.put_child]

/-- Where no directory is, the entry can be erased. -/
theorem Shows.erase_file (shows : disk.Shows path place entries) {listed : String}
    (noDirectory : NoDirectory entries listed) :
    { disk with root := disk.root.erase (place ++ [listed]) }.Shows path place
      (entries.erase listed) := by
  apply shows.of_keepsDirectories
  · exact Node.keepsDirectories_erase (shows.noDirectory_find noDirectory)
  · rw [Node.find_erase_append shows.found]
    rfl

/-- Whether the path of an entry leads to a directory. -/
theorem Shows.isDirectory_child (shows : disk.Shows path place entries) {name : String}
    (below : name ≠ "..") (speakable : path.childFault? name = none) :
    disk.isDirectory (path.child name) = false ↔ NoDirectory entries (Text.listedName name) := by
  rw [isDirectory, shows.entry_child below, speakable, NoDirectory]
  cases entries.get? (Text.listedName name) with
  | none => simp
  | some node => cases node <;> simp

/-- What was written as a file of the directory is shown in it, and nothing else changes. -/
theorem Shows.of_write (shows : disk.Shows path place entries) {name : String}
    (below : name ≠ "..") {bytes : ByteArray} {after : Disk}
    (written : disk.write (path.child name) bytes = .ok after) :
    after.Shows path place (entries.put (Text.listedName name) (.file bytes)) := by
  obtain ⟨_, located, isDirectory, rfl⟩ := (write_ok_iff ..).mp written
  obtain ⟨speakable, rfl⟩ := (shows.locate_child_ok_iff below _).mp located
  exact shows.put_file ((shows.isDirectory_child below speakable).mp isDirectory) bytes

/-- A file can be written under a name that the path can have and no directory has. -/
theorem Shows.write_ok (shows : disk.Shows path place entries) {name : String}
    (below : name ≠ "..") (speakable : path.childFault? name = none)
    (noDirectory : NoDirectory entries (Text.listedName name)) (bytes : ByteArray) :
    ∃ after, disk.write (path.child name) bytes = .ok after := by
  have located := (shows.locate_child_ok_iff below _).mpr ⟨speakable, rfl⟩
  have isDirectory := (shows.isDirectory_child below speakable).mpr noDirectory
  exact ⟨_, (write_ok_iff ..).mpr ⟨_, located, isDirectory, rfl⟩⟩

/-- A file of the directory that was moved within it is shown under the new name alone. -/
theorem Shows.of_move (shows : disk.Shows path place entries) {name target : String}
    (below : name ≠ "..") (targetBelow : target ≠ "..") {after : Disk}
    (moved : disk.move (path.child name) (path.child target) = .ok after) :
    path.childFault? target = none ∧
      ∃ bytes, entries.get? (Text.listedName name) = some (.file bytes) ∧
        after.Shows path place ((entries.erase (Text.listedName name)).put
          (Text.listedName target) (.file bytes)) := by
  obtain ⟨bytes, isFile, _, located, _, targetLocated, isDirectory, rfl⟩ :=
    (move_ok_iff ..).mp moved
  obtain ⟨_, known⟩ := (shows.entry_child_ok_iff below _).mp isFile
  obtain ⟨_, rfl⟩ := (shows.locate_child_ok_iff below _).mp located
  obtain ⟨speakable, rfl⟩ := (shows.locate_child_ok_iff targetBelow _).mp targetLocated
  have goal := (shows.isDirectory_child targetBelow speakable).mp isDirectory
  have erased := shows.erase_file (noDirectory_of_file known)
  exact ⟨speakable, bytes, known, erased.put_file (goal.erase _) bytes⟩

/-- A file of the directory can be moved to a name that the path can have and no directory has. -/
theorem Shows.move_ok (shows : disk.Shows path place entries) {name target : String}
    (below : name ≠ "..") (targetBelow : target ≠ "..")
    (speakable : path.childFault? name = none) (targetSpeakable : path.childFault? target = none)
    {bytes : ByteArray} (isFile : entries.get? (Text.listedName name) = some (.file bytes))
    (noDirectory : NoDirectory entries (Text.listedName target)) :
    ∃ after, disk.move (path.child name) (path.child target) = .ok after := by
  have readFile := (shows.entry_child_ok_iff below _).mpr ⟨speakable, isFile⟩
  have located := (shows.locate_child_ok_iff below _).mpr ⟨speakable, rfl⟩
  have targetLocated := (shows.locate_child_ok_iff targetBelow _).mpr ⟨targetSpeakable, rfl⟩
  have isDirectory := (shows.isDirectory_child targetBelow targetSpeakable).mpr noDirectory
  exact ⟨_, (move_ok_iff ..).mpr
    ⟨bytes, readFile, _, located, _, targetLocated, isDirectory, rfl⟩⟩

/-- A file that was removed from the directory is shown no longer, and nothing else changes. -/
theorem Shows.of_remove (shows : disk.Shows path place entries) {name : String}
    (below : name ≠ "..") {after : Disk} (removed : disk.remove (path.child name) = .ok after) :
    after.Shows path place (entries.erase (Text.listedName name)) := by
  rcases (remove_ok_iff ..).mp removed with ⟨bytes, isFile, _, located, rfl⟩ | ⟨⟨_, missing⟩, rfl⟩
  · obtain ⟨_, known⟩ := (shows.entry_child_ok_iff below _).mp isFile
    obtain ⟨_, rfl⟩ := (shows.locate_child_ok_iff below _).mp located
    exact shows.erase_file (noDirectory_of_file known)
  · have unknown := shows.get?_of_missing below missing
    rw [Entries.erase_of_not_mem ((Entries.get?_eq_none_iff _ _).mp unknown)]
    exact shows

/-- A name that the path can have and no directory has can be removed. -/
theorem Shows.remove_ok (shows : disk.Shows path place entries) {name : String}
    (below : name ≠ "..") (speakable : path.childFault? name = none)
    (noDirectory : NoDirectory entries (Text.listedName name)) :
    ∃ after, disk.remove (path.child name) = .ok after := by
  rw [remove, shows.entry_child below, shows.locate_child below, speakable]
  cases known : entries.get? (Text.listedName name) with
  | none => exact ⟨disk, rfl⟩
  | some node =>
    cases node with
    | directory inner => exact absurd known (noDirectory inner)
    | file bytes => exact ⟨_, rfl⟩

end Shown

/-! ## Writing -/

/-- No bytes can be written under a path, for one fault. -/
def Rejects (disk : Disk) (path : Path) (fault : Fault) : Prop :=
  ∀ bytes, disk.write path bytes = .error fault

/-- Whether a file can be written does not depend on its bytes. -/
theorem rejects_of_write {disk : Disk} {path : Path} {bytes : ByteArray} {fault : Fault}
    (refused : disk.write path bytes = .error fault) : disk.Rejects path fault := by
  intro others
  unfold write at refused ⊢
  cases located : disk.locate path with
  | error same => simpa [located] using refused
  | ok place =>
    by_cases isDirectory : disk.isDirectory path = true
    · simpa [located, isDirectory] using refused
    · simp [located, isDirectory] at refused

/-! ## Where the directory is -/

/-- Where the path of an entry leads somewhere, the path itself leads to a directory. -/
theorem exists_shows_of_locate {disk : Disk} {path : Path} {name : String} {place : List String}
    (located : disk.locate (path.child name) = .ok place) :
    ∃ place entries, disk.Shows path place entries := by
  obtain ⟨spelled, noNull, followed⟩ := (locate_ok_iff disk _ place).mp located
  have followed : disk.follow (disk.origin path.anchor) (path.names ++ [name]) = .ok place :=
    followed
  rw [follow_append] at followed
  cases led : disk.follow (disk.origin path.anchor) path.names with
  | error refusal => simp [led, Except.bind] at followed
  | ok goal =>
    have known {c : Char} (member : c ∈ path.text.toList) :
        c = '.' ∨ c = '/' ∨ c ∈ (path.child name).text.toList := by
      refine (Path.mem_text member).imp_right (Or.imp_right ?_)
      rintro ⟨step, isStep, inStep⟩
      exact Path.mem_name (List.mem_append_left [name] isStep) inStep
    have pathSpelled : Text.pathFault? path.text.toList = none := by
      rw [Text.pathFault?_eq_none_iff] at spelled ⊢
      intro c member
      rcases known member with rfl | rfl | inChild
      · rfl
      · rfl
      · exact spelled c inChild
    have pathNoNull : '\x00' ∉ path.text.toList := by
      intro member
      rcases known member with dot | slash | inChild
      · exact absurd dot (by decide)
      · exact absurd slash (by decide)
      · exact noNull inChild
    simp only [led, Except.bind, follow] at followed
    cases found : disk.root.find goal with
    | error refusal => simp [found] at followed
    | ok node =>
      cases node with
      | file bytes => simp [found] at followed
      | directory entries =>
        have located := (locate_ok_iff disk path goal).mpr ⟨pathSpelled, pathNoNull, led⟩
        exact ⟨goal, entries, located, found⟩

/-- Where a file of a directory can be written, the path of the directory leads to it. -/
theorem exists_shows_of_write {disk after : Disk} {path : Path} {name : String} {bytes : ByteArray}
    (written : disk.write (path.child name) bytes = .ok after) :
    ∃ place entries, disk.Shows path place entries := by
  obtain ⟨_, located, _, _⟩ := (write_ok_iff ..).mp written
  exact exists_shows_of_locate located

end Disk

end Gamebook
