import Gamebook.Export.Artifact
import Gamebook.Proofs.Export.Page
import Gamebook.Proofs.Story.Written
import Gamebook.Proofs.Validation.Codes

/-!
# What a project that was read is written as

Each format admits some projects: a document admits every project, a page those that keep the
structural rules, and a script those whose passages can be told apart by their titles as well. A
project that was read from a text is written exactly when its format admits it. The one exception
is a document, in which a name with half a character cannot stand.
-/

namespace Gamebook

/-- The projects that can be written in a format. -/
def ExportFormat.Admits : ExportFormat → Project → Prop
  | .json, _ => True
  | .html, project => project.WellStructured
  | .twine, project => project.WellStructured ∧
      (project.scenes.map fun scene => Validation.passageTitle scene.title).Nodup ∧
      ∀ scene ∈ project.scenes, Validation.passageTitle scene.title ≠ Validation.endTitle

namespace Export

/-- What writing a project in a format comes to. -/
inductive Writes (project : Project) (format : ExportFormat) : Except Fault String → Prop
  | done {artifact : String} (admitted : format.Admits project) :
      Writes project format (.ok artifact)
  | refused {issues : List Issue} (inadmissible : ¬format.Admits project) :
      Writes project format (.error (.invalid issues))
  | halved {half : Text.HalfFault} (isDocument : format = .json)
      (unwritten : project.write = .error (.name half)) :
      Writes project format (.error (.write (.name half)))

variable {project : Project} (spelt : project.Spelt)
include spelt

theorem json_writes (indent : Option Nat) : Writes project .json (json indent project) := by
  unfold json
  rcases spelt.write_cases with written | ⟨half, unwritten⟩
  · simp only [written, Json.print, spelt.printable.fault?_eq_none]
    exact .done trivial
  · rw [unwritten]
    exact .halved rfl unwritten

theorem page_writes : Writes project .html (page project) := by
  unfold page Validation.Report.require
  by_cases sound : (Validation.report project).isValid = true
  · have printable : (Page.storyData project).Printable false := by
      refine (Json.printable_record_iff _).mpr ?_
      simp only [List.forall_mem_cons]
      exact ⟨rfl, Value.printable_ofText? _, rfl, Value.printable_list_map spelt.scenes,
        List.forall_mem_nil _⟩
    rw [if_pos sound, (Page.dataBlock_eq_ok_iff project _).mpr ⟨printable.fault?_eq_none, rfl⟩]
    exact .done ((Validation.isValid_iff_wellStructured project).mp sound)
  · rw [if_neg sound]
    exact .refused (mt (Validation.isValid_iff_wellStructured project).mpr sound)

omit spelt in
theorem script_writes (project : Project) : Writes project .twine (script project) := by
  have valid_iff : (Validation.scriptReport project).isValid = true ↔
      ExportFormat.twine.Admits project := by
    rw [Validation.scriptReport_isValid_iff, Validation.structured_iff]
    rfl
  unfold script Validation.Report.require
  by_cases sound : (Validation.scriptReport project).isValid = true
  · rw [if_pos sound]
    exact .done (valid_iff.mp sound)
  · rw [if_neg sound]
    exact .refused (mt valid_iff.mpr sound)

/-- Writing a project that was read comes to one of three things, whatever the format. -/
theorem artifactWith_writes (indent : Nat) (format : ExportFormat) :
    Writes project format (artifactWith indent project format) := by
  cases format with
  | json => exact json_writes spelt (some indent)
  | html => exact page_writes spelt
  | twine => exact script_writes project

/-- A project that its format does not admit is refused with the issues. -/
theorem artifactWith_refused {format : ExportFormat} (inadmissible : ¬format.Admits project)
    (indent : Nat) : ∃ issues, artifactWith indent project format = .error (.invalid issues) := by
  have writes := artifactWith_writes spelt indent format
  cases result : artifactWith indent project format with
  | ok artifact =>
    rw [result] at writes
    cases writes with
    | done admitted => exact absurd admitted inadmissible
  | error fault =>
    rw [result] at writes
    cases writes with
    | refused => exact ⟨_, rfl⟩
    | halved isDocument =>
      subst isDocument
      exact absurd trivial inadmissible

end Export

end Gamebook
