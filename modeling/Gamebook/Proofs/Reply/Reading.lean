import Gamebook.Reply.Reading

/-!
# How content comes about

The content of a reply comes from its object, from its lines, or by default where there is nothing
to read or a number is too long. What holds of content is shown for each of the three by itself.
-/

namespace Gamebook.Reply

/-- The lines of a reply with something in them. -/
def filledLines (text : String) : List String :=
  (Text.lines text).filter fun line => !Text.isAllBlank line

/-- How the content of a reply comes about, with the source of ids that is left. -/
inductive Reads (kind : ContentKind) (earlier : List String) (text : String) (ids : IdSource) :
    Content × IdSource → Prop
  | byDefault (note : String)
    (unreadable : filledLines text = [] ∨
      ∃ fault, entityOf kind text (filledLines text) ids = .error fault) :
    Reads kind earlier text ids
      (⟨kind, (defaultEntity kind ids).1, earlier ++ [note]⟩, (defaultEntity kind ids).2)
  | fromObject {members : Entries Value} (found : objectIn? text = .ok (some members)) :
    Reads kind earlier text ids
      (⟨kind, (ofObject kind members ids).1, earlier ++ (ofObject kind members ids).2.1⟩,
        (ofObject kind members ids).2.2)
  | fromLines {entity : Entity} {notes : List String} {left : IdSource}
    (missing : objectIn? text = .ok none)
    (made : ofLines kind (filledLines text) ids = .ok (entity, notes, left)) :
    Reads kind earlier text ids (⟨kind, entity, earlier ++ notes⟩, left)

theorem reads_read (kind : ContentKind) (earlier : List String) (text : String) (ids : IdSource) :
    Reads kind earlier text ids (read kind earlier text ids) := by
  unfold read
  dsimp only
  split
  next nothing => exact .byDefault _ (.inl (List.isEmpty_iff.mp nothing))
  next =>
    split
    next entity notes left made =>
      rw [entityOf] at made
      split at made
      next => cases made
      next members found =>
        have reads : Reads kind earlier text ids _ := .fromObject found
        rwa [Except.ok.inj made] at reads
      next missing => exact .fromLines missing made
    next fault failed => exact .byDefault _ (.inr ⟨fault, failed⟩)

/-- A reply that has lines and no object gives the scene of its lines. -/
theorem read_scene_of_lines {text : String} (missing : objectIn? text = .ok none)
    (something : filledLines text ≠ []) (earlier : List String) (ids : IdSource) :
    (read .scene earlier text ids).1 =
      ⟨.scene, .scene (sceneOfLines (filledLines text) ids).1,
        earlier ++ (sceneOfLines (filledLines text) ids).2.1⟩ := by
  have reads := reads_read .scene earlier text ids
  generalize read .scene earlier text ids = result at reads ⊢
  cases reads with
  | byDefault note unreadable =>
    rcases unreadable with nothing | ⟨fault, failed⟩
    · exact absurd nothing something
    · rw [entityOf, missing] at failed
      cases failed
  | fromObject found => cases found.symm.trans missing
  | fromLines _ made =>
    obtain ⟨rfl, rfl, -⟩ := Except.ok.inj made
    rfl

end Gamebook.Reply
