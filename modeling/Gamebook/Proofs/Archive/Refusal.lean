import Gamebook.Proofs.Archive.Damage

/-!
# Refused ids in an archive

Whatever is asked of an archive under an id with a path separator in it is refused, in memory and
in a directory, and the archive is left as it was. An archive in memory stays one, and under any
other id it has no faults but that there is no project or that what is kept cannot be used.
-/

namespace Gamebook

namespace Archive

variable {archive : Archive} {mark id : String} {now : Moment}

/-! ## An id with a separator -/

section Refused

variable (separated : HasSeparator id)
include separated

theorem load_refused (archive : Archive) (isMark : mark ∈ marks) :
    archive.load (mark ++ id) = .error (.key (.pathLike (mark ++ id))) := by
  simp only [load, checkKey_marked isMark, if_pos separated]

theorem loadProject_refused (archive : Archive) (now : Moment) :
    archive.loadProject now id = .error (.key (.pathLike (projectMark ++ id))) := by
  simp only [loadProject, load_refused separated archive projectMark_isMark]

theorem loadGame_refused (archive : Archive) :
    archive.loadGame id = .error (.key (.pathLike (gameMark ++ id))) := by
  simp only [loadGame, load_refused separated archive gameMark_isMark]

theorem deleteProject_refused (archive : Archive) :
    archive.deleteProject id = (.error (.key (.pathLike (projectMark ++ id))), archive) := by
  simp only [deleteProject, delete, checkKey_marked projectMark_isMark, if_pos separated]

end Refused

theorem saveProject_refused {project : Project} (separated : HasSeparator project.id)
    {value : Value} (written : project.write = .ok value) (archive : Archive) (now : Moment) :
    archive.saveProject now project =
      (.error (.key (.pathLike (projectMark ++ project.id))), archive) := by
  simp only [saveProject, written, save, checkKey_marked projectMark_isMark, if_pos separated]

theorem message_key (fault : KeyFault) : (Fault.key fault).message = fault.message := rfl

/-! ## An archive in memory -/

/-- The documents are kept in memory. -/
def InMemory (archive : Archive) : Prop := ∃ documents, archive = .memory documents

namespace InMemory

variable (inMemory : archive.InMemory)
include inMemory

theorem save (now : Moment) (given : String) (value : Value) :
    (archive.save now given value).2.InMemory := by
  obtain ⟨documents, rfl⟩ := inMemory
  unfold Archive.save
  split
  next => exact ⟨documents, rfl⟩
  next key =>
    dsimp only
    split
    · exact ⟨documents, rfl⟩
    · exact ⟨_, rfl⟩

theorem delete (given : String) : (archive.delete given).2.InMemory := by
  obtain ⟨documents, rfl⟩ := inMemory
  unfold Archive.delete
  split
  · exact ⟨documents, rfl⟩
  · exact ⟨_, rfl⟩

theorem saveProject (now : Moment) (project : Project) :
    (archive.saveProject now project).2.InMemory := by
  unfold Archive.saveProject
  split
  · exact inMemory
  · exact inMemory.save now _ _

theorem deleteProject (id : String) : (archive.deleteProject id).2.InMemory := by
  have first := inMemory.delete (projectMark ++ id)
  unfold Archive.deleteProject
  split
  next deleted => exact deleted ▸ first
  next deleted => exact (deleted ▸ first).delete _

section Accepted

variable (accepted : ¬HasSeparator id)
include accepted

theorem fault_of_load (isMark : mark ∈ marks) {fault : Fault}
    (failed : archive.load (mark ++ id) = .error fault) :
    ∃ key cause, fault = .failed key cause := by
  obtain ⟨documents, rfl⟩ := inMemory
  simp only [load, checkKey_marked isMark, if_neg accepted] at failed
  split at failed
  next => cases failed
  next text found =>
    split at failed
    next envelope read =>
      cases unwrapped : unwrap (mark ++ Text.trimEnd id) envelope with
      | ok value =>
        rw [unwrapped] at failed
        cases failed
      | error known =>
        rw [unwrapped] at failed
        obtain rfl := Except.error.inj failed
        exact ⟨_, _, noEnvelope_of_unwrap unwrapped⟩
    next => exact ⟨_, _, (Except.error.inj failed).symm⟩

theorem fault_of_loadProject {fault : Fault}
    (failed : archive.loadProject now id = .error fault) :
    fault = .noProject id ∨ ∃ key cause, fault = .failed key cause := by
  rcases loadProject_of_load archive now id with
    ⟨project, answered⟩ | ⟨_, missing⟩ | ⟨cause, known⟩ | ⟨known, notLoaded, sameFault⟩
  · exact nomatch answered.symm.trans failed
  · exact .inl (Except.error.inj (failed.symm.trans missing))
  · exact .inr ⟨_, cause, Except.error.inj (failed.symm.trans known)⟩
  · obtain rfl := Except.error.inj (failed.symm.trans sameFault)
    exact .inr (inMemory.fault_of_load accepted projectMark_isMark notLoaded)

theorem fault_of_loadGame {fault : Fault} (failed : archive.loadGame id = .error fault) :
    ∃ key cause, fault = .failed key cause := by
  rcases loadGame_of_load archive id with
    none | ⟨_, _, _, _, answered⟩ | ⟨cause, known⟩ | ⟨known, notLoaded, sameFault⟩
  · exact nomatch none.symm.trans failed
  · exact nomatch answered.symm.trans failed
  · exact ⟨_, cause, Except.error.inj (failed.symm.trans known)⟩
  · obtain rfl := Except.error.inj (failed.symm.trans sameFault)
    exact inMemory.fault_of_load accepted gameMark_isMark notLoaded

theorem deleteProject_ok : (archive.deleteProject id).1 = .ok () := by
  obtain ⟨documents, rfl⟩ := inMemory
  simp only [Archive.deleteProject, Archive.delete, clearGame,
    checkKey_marked projectMark_isMark, checkKey_marked gameMark_isMark, if_neg accepted]

end Accepted

end InMemory

end Archive

end Gamebook
