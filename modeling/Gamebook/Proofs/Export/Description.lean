import Gamebook.Proofs.Export.Script

/-!
# Descriptions read back

A description stands in a script line by line between the header of its scene and the links of
the choices, and only what could be read as a header is guarded. So a line in the full shape of
a link is a link to the reader, and every other line is text of the body. What is read of a line
that looks guarded before the guard is put on is not said here.
-/

namespace Gamebook.Script

/-! ## Reading the lines of a description -/

/-- A line is the link, in full shape from end to end. -/
def LinkShaped (line : String) (link : Link) : Prop :=
  ∃ text target, Escaped text ∧ Escaped target ∧ line.toList = linkCharacters text target ∧
    link = Link.ofLabels text target

/-- A line begins the way a guarded line does. -/
def LooksGuarded (line : String) : Prop := ∃ rest, line.toList = '\\' :: ':' :: ':' :: rest

/-- The body lines and the links that lines of a description are read as. -/
inductive ReadAs : List String → List String → List Link → Prop
  | nil : ReadAs [] [] []
  | link {line : String} {link : Link} {lines body : List String} {links : List Link}
      (shaped : LinkShaped line link) (rest : ReadAs lines body links) :
      ReadAs (line :: lines) body (link :: links)
  | text {line : String} {lines body : List String} {links : List Link}
      (unshaped : ∀ link, ¬LinkShaped line link) (rest : ReadAs lines body links) :
      ReadAs (line :: lines) (line :: body) links
  | guarded {line back : String} {lines body : List String} {links : List Link}
      (looks : LooksGuarded line) (rest : ReadAs lines body links) :
      ReadAs (line :: lines) (back :: body) links

/-- Lines that are no links and do not look guarded are read as they are. -/
theorem ReadAs.unchanged {lines body : List String} {links : List Link}
    (readAs : ReadAs lines body links)
    (plain : ∀ line ∈ lines, ¬LooksGuarded line ∧ ∀ link, ¬LinkShaped line link) :
    body = lines ∧ links = [] := by
  induction readAs with
  | nil => exact ⟨rfl, rfl⟩
  | link shaped _ _ => exact absurd shaped ((plain _ List.mem_cons_self).2 _)
  | text _ _ inductionHypothesis =>
    obtain ⟨rfl, rfl⟩ := inductionHypothesis (List.forall_mem_cons.mp plain).2
    exact ⟨rfl, rfl⟩
  | guarded looks _ _ => exact absurd looks (plain _ List.mem_cons_self).1

/-! ## Passages and their descriptions -/

/-- The body of a passage is the description without blank lines at its end, and its links are
those of the choices. -/
structure Keeps (scenes : List Scene) (scene : Scene) (passage : Passage) : Prop where
  body : passage.body = String.intercalate "\n" (dropBlankEnd (Text.lines scene.description))
  links : passage.links = scene.choices.map (choiceLink scenes)

end Gamebook.Script
