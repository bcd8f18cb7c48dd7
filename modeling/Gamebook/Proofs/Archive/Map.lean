import Gamebook.Proofs.Archive.Frame

/-!
# Archives as one finite map

What the operations on an archive answer is said without an archive, by the operations that
came before: a load gives the value of the last save of its key that no later delete has
removed, and the keys are those under which such a value is found, in order and each once. An
archive in memory and one in a directory that was empty answer every sequence of operations
so, whatever the layout of the files. Outer blanks of a given key do not count. Nothing is
asked of the numbers of a value but that whole ones can be written.
-/

namespace Gamebook.Archive

/-! ## Operations -/

/-- An operation on an archive. -/
inductive Operation
  | save (now : Moment) (given : String) (value : Value)
  | load (given : String)
  | delete (given : String)
  | keys

/-- What an operation answers. -/
inductive Reply
  | done (result : Except Fault Unit)
  | found (result : Except Fault (Option Value))
  | listed (keys : List String)

/-- The answer of an operation, and the archive after it. -/
def answer (archive : Archive) : Operation → Reply × Archive
  | .save now given value =>
    (.done (archive.save now given value).1, (archive.save now given value).2)
  | .load given => (.found (archive.load given), archive)
  | .delete given => (.done (archive.delete given).1, (archive.delete given).2)
  | .keys => (.listed archive.keys, archive)

/-- The answers of operations in order. -/
def replies (archive : Archive) : List Operation → List Reply
  | [] => []
  | operation :: rest => (archive.answer operation).1 :: (archive.answer operation).2.replies rest

/-! ## The map -/

/-- What an operation makes of what is kept under a key. -/
def Operation.keeps (key : String) (kept : Option Value) : Operation → Option Value
  | .save _ given value => if Text.trim given = key then some value else kept
  | .delete given => if Text.trim given = key then none else kept
  | .load _ | .keys => kept

/-- What is kept under a key after operations: the value of the last save of the key that no
later delete removed. -/
def keptUnder (earlier : List Operation) (key : String) : Option Value :=
  earlier.foldl (Operation.keeps key) none

/-- The key that an operation saves, if it saves. -/
def Operation.savedKey? : Operation → Option String
  | .save _ given _ => some (Text.trim given)
  | _ => none

/-- The keys under which something is kept after operations, in order. -/
def liveKeys (earlier : List Operation) : List String :=
  sortedSet ((earlier.filterMap Operation.savedKey?).filter fun key =>
    (keptUnder earlier key).isSome)

/-- What an operation answers after others. -/
def expected (earlier : List Operation) : Operation → Reply
  | .save .. | .delete _ => .done (.ok ())
  | .load given => .found (.ok (keptUnder earlier (Text.trim given)))
  | .keys => .listed (liveKeys earlier)

/-- What operations answer in order after others. -/
def expectedReplies (earlier : List Operation) : List Operation → List Reply
  | [] => []
  | operation :: rest =>
    expected earlier operation :: expectedReplies (earlier ++ [operation]) rest

theorem keptUnder_append (earlier : List Operation) (operation : Operation) (key : String) :
    keptUnder (earlier ++ [operation]) key = operation.keeps key (keptUnder earlier key) := by
  rw [keptUnder, List.foldl_append]
  rfl

/-- Something is kept after an operation only if the operation saves it or it was kept before. -/
theorem Operation.saves_of_keeps {operation : Operation} {key : String} {kept : Option Value}
    (keeps : (operation.keeps key kept).isSome = true) :
    operation.savedKey? = some key ∨ kept.isSome = true := by
  cases operation with
  | save now given value =>
    by_cases same : Text.trim given = key
    · exact .inl (congrArg some same)
    · rw [Operation.keeps, if_neg same] at keeps
      exact .inr keeps
  | delete given =>
    rw [Operation.keeps] at keeps
    split at keeps
    next => cases keeps
    next => exact .inr keeps
  | load given => exact .inr keeps
  | keys => exact .inr keeps

/-- Something is kept only under keys that were saved. -/
theorem saved_of_kept {earlier : List Operation} {key : String}
    (kept : (keptUnder earlier key).isSome = true) :
    key ∈ earlier.filterMap Operation.savedKey? := by
  induction earlier using List.reverseRecOn with
  | nil => nomatch kept
  | append_singleton earlier operation inductionHypothesis =>
    rw [keptUnder_append] at kept
    rw [List.filterMap_append, List.mem_append]
    rcases operation.saves_of_keeps kept with saves | before
    · exact .inr (List.mem_filterMap.mpr ⟨operation, List.mem_singleton_self operation, saves⟩)
    · exact .inl (inductionHypothesis before)

/-- The live keys are those under which something is kept. -/
theorem mem_liveKeys (earlier : List Operation) (key : String) :
    key ∈ liveKeys earlier ↔ (keptUnder earlier key).isSome = true := by
  rw [liveKeys, mem_sortedSet, List.mem_filter]
  exact ⟨And.right, fun kept => ⟨saved_of_kept kept, kept⟩⟩

/-- The live keys are in order and none comes twice. -/
theorem liveKeys_ordered (earlier : List Operation) :
    (liveKeys earlier).Pairwise fun a b => a ≠ b ∧ textAtMost a b = true :=
  List.pairwise_and_iff.mpr ⟨sortedSet_nodup _, sortTexts_ordered _⟩

/-! ## Usable operations -/

/-- A given key that passes the check and is the name of a file. -/
structure UsableKey (given : String) : Prop where
  checked : checkKey given = .ok (Text.trim given)
  whole : Text.Whole (Text.trim given).toList
  noNull : '\x00' ∉ (Text.trim given).toList
  short : Text.nameSize (draftName (Text.trim given)) ≤ Disk.nameLimit

/-- An operation with a usable key, and with a value that can be kept. -/
def Operation.Usable : Operation → Prop
  | .save _ given value => UsableKey given ∧ Keepable value
  | .load given | .delete given => UsableKey given
  | .keys => True

theorem UsableKey.plain {given : String} (usable : UsableKey given) :
    Plain (Text.trim given) :=
  fun c member => Text.isByteHalf_eq_false (usable.whole c member)

/-! ## Archives that hold the map -/

/-- What stands for a kept value is its document, and nothing for nothing. -/
inductive Stores {α : Type} (document : Moment → Value → α) : Option Value → Option α → Prop
  | nothing : Stores document none none
  | value {value : Value} (keepable : Keepable value) (now : Moment) :
    Stores document (some value) (some (document now value))

section Documents

variable {α : Type} {document : Moment → Value → α} {kept : String → Option Value}
  {entries : Entries α} {name : String → String}

theorem Stores.isSome_eq {value : Option Value} {found : Option α}
    (stores : Stores document value found) : found.isSome = value.isSome := by
  cases stores <;> rfl

/-- Writing a document keeps its value under its key. -/
theorem stores_put (injective : Function.Injective name)
    (stores : ∀ key, Stores document (kept key) (entries.get? (name key))) (key : String)
    {value : Value} (keepable : Keepable value) (now : Moment) (other : String) :
    Stores document (if key = other then some value else kept other)
      ((entries.put (name key) (document now value)).get? (name other)) := by
  rw [Entries.get?_put]
  by_cases same : key = other
  · rw [if_pos same, if_pos (same ▸ rfl)]
    exact .value keepable now
  · rw [if_neg same, if_neg fun sameName => same (injective sameName)]
    exact stores other

/-- Erasing a document leaves nothing under its key. -/
theorem stores_erase (injective : Function.Injective name)
    (stores : ∀ key, Stores document (kept key) (entries.get? (name key))) (key other : String) :
    Stores document (if key = other then none else kept other)
      ((entries.erase (name key)).get? (name other)) := by
  rw [Entries.get?_erase]
  by_cases same : key = other
  · rw [if_pos same, if_pos (same ▸ rfl)]
    exact .nothing
  · rw [if_neg same, if_neg fun sameName => same (injective sameName)]
    exact stores other

end Documents

/-- The file of a value. -/
def fileNode (indent : Option Nat) (now : Moment) (value : Value) : Node :=
  .file (documentText ⟨indent, false⟩ now value).toUTF8

/-- An archive holds the documents of what is kept, and nothing else. -/
inductive Mirrors (kept : String → Option Value) : Archive → Prop
  | memory {documents : Entries String} (distinct : documents.keys.Nodup)
      (stores : ∀ key, Stores (documentText ⟨none, true⟩) (kept key) (documents.get? key)) :
    Mirrors kept (.memory documents)
  | folder {shelf : Folder} {entries : Entries Node} (shows : shelf.Shows entries)
      (distinct : entries.keys.Nodup) (names : ∀ name ∈ entries.keys, ∃ key, name = fileName key)
      (stores : ∀ key, Stores (fileNode shelf.indent) (kept key) (entries.get? (fileName key))) :
    Mirrors kept (.folder shelf)

section Steps

variable {kept : String → Option Value} {archive : Archive} {given : String}

/-- There is no draft among the files. -/
theorem draft_not_mem {entries : Entries Node}
    (names : ∀ name ∈ entries.keys, ∃ key, name = fileName key) (key : String) :
    draftName key ∉ entries.keys := by
  intro member
  obtain ⟨other, same⟩ := names _ member
  exact fileName_ne_draftName other key same.symm

/-- What begins with a usable key, and goes on without halves and nulls, is the name of a file
if it is short. -/
theorem UsableKey.speakable (usable : UsableKey given) {shelf : Folder} {entries : Entries Node}
    (shows : shelf.Shows entries) {rest : String} (whole : Text.Whole rest.toList)
    (noNull : '\x00' ∉ rest.toList)
    (short : Text.nameSize (Text.trim given ++ rest) ≤ Disk.nameLimit) :
    shelf.path.childFault? (Text.trim given ++ rest) = none := by
  obtain ⟨place, shows⟩ := shows
  apply shows.speakable _ _ short
  · rw [String.toList_append]
    exact Text.whole_append usable.whole whole
  · rw [String.toList_append, List.mem_append, not_or]
    exact ⟨usable.noNull, noNull⟩

/-- A directory that holds documents only can hold the file of a usable key. -/
theorem UsableKey.admits (usable : UsableKey given) {shelf : Folder} {entries : Entries Node}
    (shows : shelf.Shows entries) (names : ∀ name ∈ entries.keys, ∃ key, name = fileName key)
    (stores : ∀ key, Stores (fileNode shelf.indent) (kept key) (entries.get? (fileName key))) :
    shelf.Admits entries (Text.trim given) := by
  constructor
  · apply usable.speakable shows (by decide +kernel) (by decide +kernel)
    exact Nat.le_trans (Text.nameSize_append _ draftSuffix) usable.short
  · have short := usable.short
    rw [draftName, String.append_assoc] at short ⊢
    exact usable.speakable shows (by decide +kernel) (by decide +kernel) short
  · rw [touched, usable.plain.fileName, usable.plain.draftName]
    intro name isName inner
    rcases List.mem_cons.mp isName with rfl | draft
    · intro isDirectory
      have document := stores (Text.trim given)
      rw [isDirectory] at document
      generalize kept (Text.trim given) = value at document
      cases document
    · rw [List.mem_singleton.mp draft,
        (Entries.get?_eq_none_iff _ _).mpr (draft_not_mem names _)]
      exact (Option.some_ne_none _).symm

theorem Mirrors.save (mirrors : Mirrors kept archive) (usable : UsableKey given) {value : Value}
    (keepable : Keepable value) (now : Moment) :
    (archive.save now given value).1 = .ok () ∧
      Mirrors (fun key => if Text.trim given = key then some value else kept key)
        (archive.save now given value).2 := by
  cases mirrors with
  | memory distinct stores =>
    rw [save_memory usable.checked, keepable.print_eq]
    exact ⟨rfl, .memory (Entries.keys_put_nodup _ _ distinct)
      (stores_put Function.injective_id stores _ keepable now)⟩
  | @folder shelf entries shows distinct names stores =>
    have done := Folder.write_ok shows (usable.admits shows names stores)
      (keepable.printed ⟨shelf.indent, false⟩ now).whole given
    rw [save_folder usable.checked, keepable.print_eq]
    cases wrote : shelf.write given (Text.trim given)
        (documentText ⟨shelf.indent, false⟩ now value) with
    | mk result left =>
      rw [wrote] at done
      obtain rfl : result = .ok () := done
      obtain ⟨-, disk, rfl, shown⟩ := Folder.write_done shows wrote
      rw [Folder.written, usable.plain.fileName, usable.plain.draftName,
        Entries.erase_put_of_not_mem _ (draft_not_mem names _)] at shown
      simp only [wrote, true_and]
      refine .folder shown (Entries.keys_put_nodup _ _ distinct) ?_
        (stores_put (fun _ _ => fileName_inj) stores _ keepable now)
      intro name member
      rcases (Entries.mem_keys_put _ _ _ _).mp member with rfl | before
      · exact ⟨_, rfl⟩
      · exact names name before

theorem Mirrors.delete (mirrors : Mirrors kept archive) (usable : UsableKey given) :
    (archive.delete given).1 = .ok () ∧
      Mirrors (fun key => if Text.trim given = key then none else kept key)
        (archive.delete given).2 := by
  cases mirrors with
  | memory distinct stores =>
    rw [delete_memory usable.checked]
    exact ⟨rfl, .memory (Entries.keys_erase_nodup _ distinct)
      (stores_erase Function.injective_id stores _)⟩
  | @folder shelf entries shows distinct names stores =>
    have done := Folder.delete_ok shows (usable.admits shows names stores) given
    rw [delete_folder usable.checked]
    cases deleted : shelf.delete given (Text.trim given) with
    | mk result left =>
      rw [deleted] at done
      obtain rfl : result = .ok () := done
      rcases Folder.delete_cases shows deleted with ⟨⟨_, failed⟩, _⟩ | ⟨_, disk, rfl, shown⟩
      · cases failed
      · rw [usable.plain.fileName] at shown
        refine ⟨rfl, .folder shown (Entries.keys_erase_nodup _ distinct) ?_
          (stores_erase (fun _ _ => fileName_inj) stores _)⟩
        intro name member
        exact names name ((Entries.mem_keys_erase _ _ _).mp member).2

theorem Mirrors.load (mirrors : Mirrors kept archive) (usable : UsableKey given) :
    archive.load given = .ok (kept (Text.trim given)) := by
  cases mirrors with
  | @memory documents distinct stores =>
    have document := stores (Text.trim given)
    simp only [Archive.load, usable.checked]
    generalize kept (Text.trim given) = value at document ⊢
    generalize documents.get? (Text.trim given) = found at document ⊢
    cases document with
    | nothing => rfl
    | value keepable now =>
      simp only [keepable.read_eq, unwrap_wrap]
      rfl
  | @folder shelf entries shows distinct names stores =>
    have speakable := (usable.admits shows names stores).file
    have document := stores (Text.trim given)
    simp only [Archive.load, usable.checked]
    generalize kept (Text.trim given) = value at document ⊢
    generalize found_eq : entries.get? (fileName (Text.trim given)) = found at document
    rw [← usable.plain.fileName] at found_eq
    cases document with
    | nothing => exact Folder.load_missing shows speakable found_eq
    | value keepable now =>
      rw [Folder.load_file shows speakable found_eq, keepable.parse_eq]
      rfl

theorem Mirrors.keys (mirrors : Mirrors kept archive) {live : List String}
    (isLive : ∀ key, key ∈ live ↔ (kept key).isSome = true) :
    archive.keys = sortedSet live := by
  cases mirrors with
  | memory distinct stores =>
    apply sortTexts_eq_sortedSet distinct
    intro key
    rw [isLive, ← Entries.get?_isSome_iff, (stores key).isSome_eq]
  | @folder shelf entries shows distinct names stores =>
    apply sortTexts_eq_sortedSet (Folder.keys_nodup shows distinct)
    intro key
    have document := stores key
    rw [isLive, Folder.mem_keys shows, ← document.isSome_eq]
    constructor
    · rintro ⟨bytes, member⟩
      rw [Entries.get?_of_mem distinct member]
      rfl
    · intro found
      obtain ⟨node, held⟩ := Option.isSome_iff_exists.mp found
      rw [held] at document
      generalize kept key = value at document
      cases document with
      | value keepable now => exact ⟨_, Entries.mem_of_get? held⟩

end Steps

/-! ## Runs -/

/-- An archive that holds the map after some operations answers the next one from the map, and
holds the map after it. -/
theorem Mirrors.answer {archive : Archive} {earlier : List Operation}
    (mirrors : Mirrors (keptUnder earlier) archive) {operation : Operation}
    (usable : operation.Usable) :
    (archive.answer operation).1 = expected earlier operation ∧
      Mirrors (keptUnder (earlier ++ [operation])) (archive.answer operation).2 := by
  have later : keptUnder (earlier ++ [operation]) =
      fun key => operation.keeps key (keptUnder earlier key) :=
    funext (keptUnder_append earlier operation)
  rw [later]
  cases operation with
  | save now given value =>
    obtain ⟨done, saved⟩ := mirrors.save usable.1 usable.2 now
    exact ⟨congrArg Reply.done done, saved⟩
  | load given => exact ⟨congrArg (Reply.found ·) (mirrors.load usable), mirrors⟩
  | delete given =>
    obtain ⟨done, deleted⟩ := mirrors.delete usable
    exact ⟨congrArg Reply.done done, deleted⟩
  | keys =>
    have isLive (key : String) : key ∈ (earlier.filterMap Operation.savedKey?).filter
        (fun key => (keptUnder earlier key).isSome) ↔ (keptUnder earlier key).isSome = true := by
      rw [← mem_liveKeys, liveKeys, mem_sortedSet]
    exact ⟨congrArg Reply.listed (mirrors.keys isLive), mirrors⟩

/-- So it answers every sequence of operations. -/
theorem Mirrors.replies {archive : Archive} {earlier operations : List Operation}
    (mirrors : Mirrors (keptUnder earlier) archive)
    (usable : ∀ operation ∈ operations, operation.Usable) :
    archive.replies operations = expectedReplies earlier operations := by
  induction operations generalizing archive earlier with
  | nil => rfl
  | cons operation rest inductionHypothesis =>
    obtain ⟨here, there⟩ := List.forall_mem_cons.mp usable
    obtain ⟨answered, after⟩ := mirrors.answer here
    rw [Archive.replies, expectedReplies, answered, inductionHypothesis after there]

/-- An archive in memory and one in an empty directory, with any layout, answer every sequence of
usable operations alike: loads give the value of the last save that no later delete removed, and
the keys are the keys of such values, in order and each once. -/
theorem archives_are_maps {operations : List Operation}
    (usable : ∀ operation ∈ operations, operation.Usable) {shelf : Folder}
    (empty : shelf.Shows []) :
    (memory []).replies operations = expectedReplies [] operations ∧
      (folder shelf).replies operations = expectedReplies [] operations ∧
      ∀ earlier, (liveKeys earlier).Pairwise (fun a b => a ≠ b ∧ textAtMost a b = true) ∧
        ∀ key, key ∈ liveKeys earlier ↔ (keptUnder earlier key).isSome = true := by
  have inMemory : Mirrors (keptUnder []) (.memory []) :=
    .memory List.nodup_nil fun _ => .nothing
  have inFolder : Mirrors (keptUnder []) (.folder shelf) :=
    .folder empty List.nodup_nil (List.forall_mem_nil _) fun _ => .nothing
  exact ⟨inMemory.replies usable, inFolder.replies usable, fun earlier =>
    ⟨liveKeys_ordered earlier, mem_liveKeys earlier⟩⟩

/-- Keys with blanks around them and with the endings of files in them. -/
theorem archives_are_maps_padded :
    let operations : List Operation := [.save lampStory.created " a.json" (.list [.int 1]),
      .save lampStory.created "b.tmp" .null, .load "a.json ", .keys, .delete "a.json",
      .load "a.json"]
    let answers : List Reply := [.done (.ok ()), .done (.ok ()),
      .found (.ok (some (.list [.int 1]))), .listed ["a.json", "b.tmp"], .done (.ok ()),
      .found (.ok none)]
    (∀ operation ∈ operations, operation.Usable) ∧ Folder.emptyShelf.Shows [] ∧
      (memory []).replies operations = answers ∧
      (folder Folder.emptyShelf).replies operations = answers := by
  intro operations answers
  have usableKeys : ∀ given ∈ [" a.json", "b.tmp", "a.json ", "a.json"], UsableKey given := by
    simp only [List.forall_mem_cons]
    refine ⟨?_, ?_, ?_, ?_, List.forall_mem_nil _⟩ <;>
      exact ⟨by decide +kernel, by decide +kernel, by decide +kernel, by decide +kernel⟩
  have one : Keepable (.list [.int 1]) :=
    ⟨by decide +kernel, by simp [Value.Distinct, Value.DistinctItems], by decide⟩
  have null : Keepable .null := ⟨by decide +kernel, trivial, by decide⟩
  have usable : ∀ operation ∈ operations, operation.Usable := by
    simp only [List.forall_mem_cons] at usableKeys
    obtain ⟨saved, other, asked, deleted, -⟩ := usableKeys
    simp only [operations, List.forall_mem_cons]
    exact ⟨⟨saved, one⟩, ⟨other, null⟩, asked, trivial, deleted, deleted, List.forall_mem_nil _⟩
  have listed : liveKeys (operations.take 3) = ["a.json", "b.tmp"] := by
    have live : (((operations.take 3).filterMap Operation.savedKey?).filter fun key =>
        (keptUnder (operations.take 3) key).isSome).eraseDups = ["a.json", "b.tmp"] := by
      decide +kernel
    rw [liveKeys, sortedSet, live]
    exact List.mergeSort_of_pairwise (by decide +kernel)
  have expects : expectedReplies [] operations = answers := by
    show [.done (.ok ()), .done (.ok ()), .found (.ok (keptUnder (operations.take 2) "a.json")),
      .listed (liveKeys (operations.take 3)), .done (.ok ()),
      .found (.ok (keptUnder (operations.take 5) "a.json"))] = answers
    rw [listed]
    rfl
  obtain ⟨inMemory, inFolder, -⟩ := archives_are_maps usable Folder.emptyShelf_shows
  exact ⟨usable, Folder.emptyShelf_shows, inMemory.trans expects, inFolder.trans expects⟩

end Gamebook.Archive
