import Gamebook.Archive.Key
import Gamebook.Disk
import Gamebook.Json.Printer
import Gamebook.Play.State
import Gamebook.Schema.Loose
import Gamebook.Schema.Problem

/-!
# Faults of an archive

An operation on an archive fails because its key is refused, because the disk
cannot even say whether the file exists, because a project or its text cannot be
written at all, or because what is kept cannot be read, written or understood. Only
the last kind names the key.
-/

namespace Gamebook.Archive

/-- Why what is kept under a key cannot be used. -/
inductive Cause
  | noEnvelope
  | unwritableValue (fault : Json.PrintFault)
  | unreadable (path : Disk.Path) (fault : Disk.Fault)
  | unwritable (path : Disk.Path) (fault : Disk.Fault)
  | undeletable (path : Disk.Path) (fault : Disk.Fault)
  | notText (path : Disk.Path) (fault : Text.EncodingFault)
  | notDocument (path : Disk.Path) (detail : String)
  | notProject (mismatch : Schema.Mismatch)
  | notObject
  | notState (fault : PlayerState.Fault)
  deriving DecidableEq, Repr

/-- The cause in words. -/
def Cause.text : Cause → String
  | .noEnvelope => "stored value is not a storage envelope"
  | .unwritableValue fault => "payload is not JSON serialisable: " ++ fault.message
  | .unreadable path fault => "could not read " ++ path.text ++ ": " ++ fault.message
  | .unwritable path fault => "could not write " ++ path.text ++ ": " ++ fault.message
  | .undeletable path fault => "could not delete " ++ path.text ++ ": " ++ fault.message
  | .notText path fault => path.text ++ " is not valid UTF-8 JSON: " ++ fault.message
  | .notDocument path detail => path.text ++ " is not valid UTF-8 JSON: " ++ detail
  | .notProject mismatch => "stored project is invalid: " ++ mismatch.message
  | .notObject => "stored save game is not an object"
  | .notState fault => fault.message

/-- Why an operation failed. -/
inductive Fault
  | key (fault : KeyFault)
  | disk (fault : Disk.Fault)
  | project (fault : Schema.WriteFault)
  | encoding (fault : Text.HalfFault)
  | failed (key : String) (cause : Cause)
  | noProject (id : String)
  deriving DecidableEq, Repr

/-- Whether the fault refuses what was given, and not what is kept. -/
def Fault.isRefusal : Fault → Bool
  | .key _ | .disk _ | .project _ | .encoding _ => true
  | .failed .. | .noProject _ => false

/-- The fault as a sentence. -/
def Fault.message : Fault → String
  | .key fault => fault.message
  | .disk fault => fault.message
  | .project fault => fault.message
  | .encoding fault => fault.message
  | .failed given cause => "Storage operation for '" ++ given ++ "' failed: " ++ cause.text
  | .noProject id => "Project '" ++ id ++ "' does not exist."

end Gamebook.Archive
