import Gamebook.Archive.Envelope
import Gamebook.Json.Reader
import Gamebook.Text.Line

/-!
# Archives

An archive keeps one document per key, in memory or as files of a directory. What
was saved under a key is what the next load of that key gives, and saving or
deleting one key touches no other. A file is written beside its place and then
moved there, so a save that fails leaves the earlier document. A text that has no
encoding leaves the file beside it empty.

Every operation that can change the archive gives the archive back, also when it
fails.
-/

namespace Gamebook

namespace Archive

/-- The files of a directory, one for each key. -/
structure Folder where
  disk : Disk
  path : Disk.Path
  /-- Blanks for each level of a document; none writes it on one line. -/
  indent : Option Nat := some 2

end Archive

/-- Where documents are kept. -/
inductive Archive
  | memory (documents : Entries String)
  | folder (folder : Archive.Folder)

namespace Archive

/-- What follows the key in the name of its file. -/
def suffix : String := ".json"

/-- What follows the name of a file while it is written. -/
def draftSuffix : String := ".tmp"

namespace Folder

/-- The path of the file of a key. -/
def file (folder : Folder) (key : String) : Disk.Path := folder.path.child (key ++ suffix)

/-- The path where the file of a key is written first. -/
def draft (folder : Folder) (key : String) : Disk.Path :=
  folder.path.child (key ++ suffix ++ draftSuffix)

/-- The directory of an archive, which is made when it is missing. -/
def openAt (disk : Disk) (path : Disk.Path) (indent : Option Nat) :
    Except Disk.Fault Folder :=
  (disk.makeDirectories path).map fun disk => ⟨disk, path, indent⟩

/-- The document that the bytes of a file hold. -/
def parse (path : Disk.Path) (bytes : ByteArray) : Except Cause Value :=
  match Text.decodeUtf8 bytes with
  | .error fault => .error (.notText path fault)
  | .ok text =>
    let source := Text.unifyReturns text.toList
    match Json.readCharacters .stored source with
    | .ok value => .ok value
    | .error fault => .error (.notDocument path (fault.storedMessage source))

/-- What is kept under a key. -/
def load (folder : Folder) (given key : String) : Except Fault (Option Value) :=
  let path := folder.file key
  match folder.disk.has path with
  | .error fault => .error (.disk fault)
  | .ok false => .ok none
  | .ok true =>
    match folder.disk.read path with
    | .error fault => .error (.failed given (.unreadable path fault))
    | .ok bytes =>
      match parse path bytes with
      | .error cause => .error (.failed given cause)
      | .ok envelope => (unwrap given envelope).map some

/-- The fault of an operation on a file. A path that no disk can hold has no cause of its own. -/
def faultOf (given : String) (cause : Disk.Fault → Cause) (fault : Disk.Fault) : Fault :=
  if fault.isUnspeakable then .disk fault else .failed given (cause fault)

/-- Writes a text for a key. -/
def write (folder : Folder) (given key text : String) : Except Fault Unit × Folder :=
  let path := folder.file key
  let fail (fault : Disk.Fault) : Except Fault Unit :=
    .error (faultOf given (.unwritable path) fault)
  let encoded := Text.encodeUtf8 text
  match folder.disk.write (folder.draft key) (encoded.toOption.getD ByteArray.empty) with
  | .error fault => (fail fault, folder)
  | .ok disk =>
    let drafted := { folder with disk := disk }
    match encoded with
    | .error fault => (.error (.encoding fault), drafted)
    | .ok _ =>
      match disk.move (folder.draft key) path with
      | .error fault => (fail fault, drafted)
      | .ok disk => (.ok (), { folder with disk := disk })

/-- Removes the file of a key. -/
def delete (folder : Folder) (given key : String) : Except Fault Unit × Folder :=
  let path := folder.file key
  match folder.disk.remove path with
  | .error fault => (.error (faultOf given (.undeletable path) fault), folder)
  | .ok disk => (.ok (), { folder with disk := disk })

/-- The keys of the files, in no particular order. -/
def keys (folder : Folder) : List String :=
  (folder.disk.fileNames folder.path).filterMap fun name =>
    let cs := name.toList
    if suffix.toList.isSuffixOf cs then some (String.ofList (cs.take (cs.length - suffix.length)))
    else none

end Folder

/-- What is kept under a key. -/
def load (archive : Archive) (given : String) : Except Fault (Option Value) :=
  match checkKey given with
  | .error fault => .error (.key fault)
  | .ok key =>
    match archive with
    | .folder shelf => shelf.load given key
    | .memory documents =>
      match documents.get? key with
      | none => .ok none
      | some text =>
        match Json.read .stored text with
        | .ok envelope => (unwrap key envelope).map some
        | .error _ => .error (.failed key .noEnvelope)

/-- Keeps a value under a key in place of what was there. -/
def save (archive : Archive) (now : Moment) (given : String) (value : Value) :
    Except Fault Unit × Archive :=
  match checkKey given with
  | .error fault => (.error (.key fault), archive)
  | .ok key =>
    match archive with
    | .folder shelf =>
      match Json.print ⟨shelf.indent, false⟩ (wrap now value) with
      | .error fault => (.error (.failed given (.unwritableValue fault)), archive)
      | .ok text =>
        let (result, shelf) := shelf.write given key text
        (result, .folder shelf)
    | .memory documents =>
      match Json.print ⟨none, true⟩ (wrap now value) with
      | .error fault => (.error (.failed key (.unwritableValue fault)), archive)
      | .ok text => (.ok (), .memory (documents.put key text))

/-- Forgets what is kept under a key, if anything is. -/
def delete (archive : Archive) (given : String) : Except Fault Unit × Archive :=
  match checkKey given with
  | .error fault => (.error (.key fault), archive)
  | .ok key =>
    match archive with
    | .folder shelf =>
      let (result, shelf) := shelf.delete given key
      (result, .folder shelf)
    | .memory documents => (.ok (), .memory (documents.erase key))

/-- The keys in order. -/
def keys : Archive → List String
  | .memory documents => sortTexts documents.keys
  | .folder shelf => sortTexts shelf.keys

end Archive

end Gamebook
