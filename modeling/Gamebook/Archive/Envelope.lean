import Gamebook.Archive.Fault
import Gamebook.Story.Moment

/-!
# Envelopes

Everything that is kept lies in an envelope, which tells the version of the format
and when it was written. Taking something out of an envelope does not look at the
version, so it gives back what was put in.
-/

namespace Gamebook.Archive

/-- The version that new envelopes carry. -/
def version : String := "1.0.0"

/-- An envelope around a value. -/
def wrap (now : Moment) (data : Value) : Value :=
  .object [("version", .text version), ("updated", .text now.offsetStyleText), ("data", data)]

/-- What lies in an envelope. -/
def unwrap (key : String) (envelope : Value) : Except Fault Value :=
  match envelope.member? "data" with
  | some data => .ok data
  | none => .error (.failed key .noEnvelope)

end Gamebook.Archive
