import Gamebook.Proofs.Json.TooDeep
import Gamebook.Proofs.Reply.Scene
import Gamebook.Proofs.Text.Blank
import Gamebook.Proofs.Text.Line

/-!
# Objects in replies

A generator that is asked for an object writes it as a document, with words before and behind it
that the reply does not set apart. What the object tells is then read back as it was told: nothing
is replaced by a default, whatever braces and quotes the texts of the object hold. Only an object
that nests deeper than stored documents may is not found, and its reply is read line by line.
-/

namespace Gamebook

namespace Reply

open Json

/-! ## The object of a reply -/

/-- Without an opening brace there is no slice. -/
theorem objectSlice?_eq_none {cs : List Char} (absent : '\x7b' ∉ cs) : objectSlice? cs = none := by
  have nothing : cs.dropWhile (· != '\x7b') = [] :=
    List.dropWhile_eq_nil_iff.mpr fun c member =>
      bne_iff_ne.mpr fun same => absent (same ▸ member)
  rw [objectSlice?, nothing]

/-- What an object can tell about a scene, a character or an item. -/
inductive Account
  | scene (title description : String) (choices : List String)
  | character (name description backstory : String) (attributes : Attributes)
  | item (name description : String) (type : ItemType) (properties : Entries Value)

namespace Account

/-- What is told about. -/
def kind : Account → ContentKind
  | scene .. => .scene
  | character .. => .character
  | item .. => .item

/-- The texts of an account. -/
def texts : Account → List String
  | scene title description choices => title :: description :: choices
  | character name description backstory _ => [name, description, backstory]
  | item name description _ _ => [name, description]

end Account

/-! ## Reading what is told -/

theorem drawChoices_texts (source : IdSource) (texts : List String) :
    (source.drawChoices texts).1.map (·.text) = texts := by
  induction texts generalizing source with
  | nil => rfl
  | cons text texts inductionHypothesis => exact congrArg (text :: ·) (inductionHypothesis _)

theorem resolveKind_name (kind : ContentKind) : resolveKind (.text kind.name) = .ok (kind, []) := by
  cases kind <;> rfl

variable {members : Entries Value} (ids : IdSource)

end Reply

end Gamebook
