import Gamebook.Proofs.Archive.Frame
import Gamebook.Proofs.Play.SavedState
import Gamebook.Proofs.Story.Shape

/-!
# Resuming a run

A run is a run of its first choices with a run of the others behind it, and the choices that
are tried determine what becomes of them. So a run goes on from a state that was saved and
loaded as it would have gone on without, as long as what is loaded is the state. It is, in
memory and in a directory, for every state of a run of a project without halves whose whole
numbers can be written: the texts of such a state are ids and keys of the project.
-/

namespace Gamebook

namespace Project

variable {project : Project}

/-! ## Parts of runs -/

/-- A run goes on where another one ended. -/
theorem Run.append {start middle final : PlayerState} {earlier later : List Attempt}
    (first : Run project start earlier middle) (second : Run project middle later final) :
    Run project start (earlier ++ later) final := by
  induction second with
  | begin => rwa [List.append_nil]
  | attempt choiceId outcome before selected inductionHypothesis =>
    rw [← List.append_assoc]
    exact .attempt choiceId outcome inductionHypothesis selected

/-- A run of several attempts ends with the last of them. -/
theorem Run.last {start final : PlayerState} {earlier : List Attempt} {last : Attempt}
    (run : Run project start (earlier ++ [last]) final) :
    ∃ middle, Run project start earlier middle ∧
      project.select middle last.choiceId = .ok last.outcome ∧ final = last.outcome.state := by
  generalize attempts_eq : earlier ++ [last] = attempts at run
  cases run with
  | begin => exact absurd attempts_eq (by simp)
  | @attempt before middle choiceId outcome reached selected =>
    obtain ⟨rfl, rfl⟩ := List.append_singleton_inj.mp attempts_eq
    exact ⟨middle, reached, selected, rfl⟩

/-- The choices that are tried determine the attempts and where they lead. -/
theorem Run.unique {start final other : PlayerState} {attempts others : List Attempt}
    (run : Run project start attempts final) (otherRun : Run project start others other)
    (same : others.map (·.choiceId) = attempts.map (·.choiceId)) :
    others = attempts ∧ other = final := by
  induction run generalizing others other with
  | begin =>
    obtain rfl : others = [] := List.map_eq_nil_iff.mp same
    generalize none_eq : ([] : List Attempt) = attempts at otherRun
    cases otherRun with
    | begin => exact ⟨none_eq.symm, rfl⟩
    | attempt => exact absurd none_eq (by simp)
  | @attempt before middle choiceId outcome reached selected inductionHypothesis =>
    rw [List.map_append] at same
    obtain ⟨first, rest, rfl, firstSame, restSame⟩ := List.map_eq_append_iff.mp same
    obtain ⟨last, rfl, rfl⟩ := List.map_eq_singleton_iff.mp restSame
    obtain ⟨otherMiddle, otherReached, otherSelected, rfl⟩ := otherRun.last
    obtain ⟨rfl, rfl⟩ := inductionHypothesis otherReached firstSame
    have outcomes : last.outcome = outcome :=
      Except.ok.inj (otherSelected.symm.trans selected)
    rw [outcomes]
    exact ⟨by rw [← outcomes], rfl⟩

/-- The rest of a run is a run from the state that its first part leads to. -/
theorem Run.behind {start middle final : PlayerState} {earlier later : List Attempt}
    (run : Run project start (earlier ++ later) final) (first : Run project start earlier middle) :
    Run project middle later final := by
  induction later using List.reverseRecOn generalizing final with
  | nil =>
    rw [List.append_nil] at run
    obtain ⟨-, rfl⟩ := first.unique run rfl
    exact .begin
  | append_singleton others last inductionHypothesis =>
    rw [← List.append_assoc] at run
    obtain ⟨before, reached, selected, rfl⟩ := run.last
    exact .attempt last.choiceId last.outcome (inductionHypothesis reached) selected

/-! ## Texts of states -/

/-- The ids and keys of a project, which are all that a run puts into a state, have no halves. -/
structure WholeIds (project : Project) : Prop where
  scenes : ∀ scene ∈ project.scenes, Text.holdsHalf scene.id = false
  choices : ∀ scene ∈ project.scenes, ∀ choice ∈ scene.choices, Text.holdsHalf choice.id = false ∧
    Text.holdsHalf choice.target = false
  keys : ∀ scene ∈ project.scenes, ∀ choice ∈ scene.choices, ∀ consequence ∈ choice.consequences,
    Text.holdsHalf consequence.key = false

/-- A project without halves has ids and keys without halves. -/
theorem wholeIds (whole : project.toValue.holdsHalf = false) : project.WholeIds := by
  have scenes (scene : Scene) (inProject : scene ∈ project.scenes) :
      scene.toValue.holdsHalf = false :=
    Value.holdsHalf_of_list_map (Value.holdsHalf_of_member whole "scenes" _ (by simp)) inProject
  have choices (scene : Scene) (inProject : scene ∈ project.scenes) (choice : Choice)
      (inScene : choice ∈ scene.choices) : choice.toValue.holdsHalf = false :=
    Value.holdsHalf_of_list_map
      (Value.holdsHalf_of_member (scenes scene inProject) "choices" _ (by simp)) inScene
  constructor
  · intro scene inProject
    exact Value.holdsHalf_of_member (scenes scene inProject) "id" (.text _) (by simp)
  · intro scene inProject choice inScene
    have written := choices scene inProject choice inScene
    exact ⟨Value.holdsHalf_of_member written "id" (.text _) (by simp),
      Value.holdsHalf_of_member written "nextSceneId" (.text _) (by simp)⟩
  · intro scene inProject choice inScene consequence inChoice
    have written := choices scene inProject choice inScene
    have rule : consequence.toValue.holdsHalf = false :=
      Value.holdsHalf_of_list_map
        (Value.holdsHalf_of_member written "consequences" _ (by simp)) inChoice
    exact Value.holdsHalf_of_member rule "key" (.text _) (by simp)

end Project

/-- The texts of a state have no halves. -/
structure PlayerState.Whole (state : PlayerState) : Prop where
  scene : Text.holdsHalf state.sceneId = false
  keys : ∀ key ∈ state.kinds.keys, Text.holdsHalf key = false
  history : ∀ id ∈ state.history, Text.holdsHalf id = false

namespace Project

variable {project : Project}

/-- A choice that is taken puts nothing but ids and keys of the project into a state. -/
theorem WholeIds.of_accepted (ids : project.WholeIds) {state next : PlayerState}
    {choiceId : String} {choice : Choice} (whole : state.Whole)
    (selected : project.select state choiceId = .ok (.accepted choice next)) : next.Whole := by
  obtain ⟨scene, store, here, inScene, _, _, applied, rfl⟩ := taken_of_accepted selected
  have inProject : scene ∈ project.scenes := mem_of_scene? here
  obtain ⟨idWhole, targetWhole⟩ := ids.choices scene inProject choice inScene
  constructor
  · unfold advance
    split
    next => exact whole.scene
    next => exact targetWhole
  · intro key isKey
    rcases Store.mem_kinds_applyAll applied isKey with before | ⟨consequence, inChoice, rfl⟩
    · exact whole.keys key before
    · exact ids.keys scene inProject choice inScene consequence inChoice
  · intro id member
    rcases List.mem_append.mp member with before | last
    · exact whole.history id before
    · exact List.mem_singleton.mp last ▸ idWhole

/-- Every state of a run from the start of a project without halves has none. -/
theorem Run.whole (ids : project.WholeIds) {start state : PlayerState}
    (started : project.reset = .ok start) {attempts : List Attempt}
    (run : Run project start attempts state) : state.Whole := by
  obtain ⟨scene, found, rfl⟩ := (reset_ok_iff project start).mp started
  have begins : PlayerState.Whole { sceneId := scene.id } :=
    ⟨ids.scenes scene (mem_of_startScene? found), nofun, nofun⟩
  exact run.keeps PlayerState.Whole begins fun _ _ _ _ whole selected =>
    ids.of_accepted whole selected

end Project

/-! ## States that can be kept -/

namespace PlayerState

/-- Every whole number of a state has few enough digits to be written. -/
def Writable (state : PlayerState) : Prop :=
  ∀ key n, (key, Scalar.int n) ∈ state.values → Numeral.isWritable n = true

theorem portable_ofScalar {x : Scalar} (writable : ∀ n, x = .int n → Numeral.isWritable n = true) :
    (Value.ofScalar x).Portable := by
  cases x with
  | int n =>
    have digits := writable n rfl
    simp [Value.ofScalar, Value.Portable, Value.anyPart, Value.isUnportable, digits]
  | bool b => rfl
  | float x => rfl

theorem whole_kindName (kind : Kind) : Text.holdsHalf kind.name = false := by
  cases kind <;> decide +kernel

theorem whole_statusName (status : Status) : Text.holdsHalf status.name = false := by
  cases status <;> decide +kernel

/-- What a state is written as has distinct names and nests two deep. -/
theorem toValue_shaped {state : PlayerState} (sound : state.Sound) :
    state.toValue.Shaped 2 := by
  refine Value.shaped_object (by simp) ?_
  simp only [List.forall_mem_cons]
  exact ⟨Value.shaped_text _ _,
    Value.shaped_table sound.store.values fun entry _ => Value.shaped_ofScalar 0 entry.2,
    @Value.shaped_table Kind 0 (fun kind => .text kind.name) state.kinds sound.store.kinds
      fun entry _ => Value.shaped_text 0 entry.2.name,
    Value.shaped_text _ _, Value.shaped_list_map fun id _ => Value.shaped_text 0 id,
    List.forall_mem_nil _⟩

/-- A state without halves whose whole numbers can be written is portable. -/
theorem toValue_portable {state : PlayerState} (sound : state.Sound) (whole : state.Whole)
    (writable : state.Writable) : state.toValue.Portable := by
  have isKey {key : String} {x : Scalar} (isEntry : (key, x) ∈ state.values) :
      key ∈ state.kinds.keys := (sound.store.keys key).mp (List.mem_map_of_mem isEntry)
  have values : (Value.object
      (state.values.map fun entry => (entry.1, .ofScalar entry.2))).Portable :=
    Value.portable_table fun entry isEntry => ⟨whole.keys entry.1 (isKey isEntry),
      portable_ofScalar fun n same => writable entry.1 n (same ▸ isEntry)⟩
  have kinds : (Value.object
      (state.kinds.map fun entry => (entry.1, .text entry.2.name))).Portable :=
    @Value.portable_table Kind (fun kind => .text kind.name) state.kinds fun entry isEntry =>
      ⟨whole.keys entry.1 (List.mem_map_of_mem isEntry), whole_kindName entry.2⟩
  have history : (Value.ofTexts state.history).Portable := by
    rw [Value.ofTexts, Value.portable_list_iff]
    intro item isItem
    obtain ⟨id, member, rfl⟩ := List.mem_map.mp isItem
    exact whole.history id member
  have names : ∀ name ∈ ["currentSceneId", "variables", "kinds", "status", "history"],
      Text.holdsHalf name = false := by decide +kernel
  rw [toValue_eq, toMembers, Value.portable_object_iff]
  simp only [List.forall_mem_cons] at names ⊢
  exact ⟨⟨names.1, whole.scene⟩, ⟨names.2.1, values⟩, ⟨names.2.2.1, kinds⟩,
    ⟨names.2.2.2.1, whole_statusName state.status⟩, ⟨names.2.2.2.2.1, history⟩,
    List.forall_mem_nil _⟩

/-- Such a sound state can be kept. -/
theorem keepable {state : PlayerState} (sound : state.Sound) (whole : state.Whole)
    (writable : state.Writable) : Archive.Keepable state.toValue where
  portable := toValue_portable sound whole writable
  distinct := (toValue_shaped sound).distinct
  shallow := Nat.lt_of_le_of_lt (toValue_shaped sound).shallow (by decide)

end PlayerState

namespace Project

variable {project : Project}

/-- Wherever a run is stopped, its state is saved and loaded as it was, in memory and in every
directory that can hold the file; and from the state that is loaded the run goes on as it did
without: the same choices are taken, the others refused for the same reasons, and the states
are the same. Nothing else can become of the choices that are tried. -/
theorem resumed_run_goes_on {project : Project} (fits : project.FitsSchema)
    (whole : project.toValue.holdsHalf = false) {start state final : PlayerState}
    (started : project.reset = .ok start) {earlier later : List Attempt}
    (run : Run project start (earlier ++ later) final) (stopped : Run project start earlier state)
    (writable : state.Writable) {archive : Archive} {key : String}
    (storable : Archive.checkKey (Archive.gameMark ++ project.id) = .ok key)
    (room : archive.HasRoom key) (now : Moment) :
    ∃ kept resumed, archive.saveGame now project.id state = (.ok (), kept) ∧
      kept.loadGame project.id = .ok (some resumed) ∧
      Run project resumed later final ∧
      ∀ others last, Run project resumed others last →
        others.map (·.choiceId) = later.map (·.choiceId) → others = later ∧ last = final := by
  have sound : state.Sound := stopped.sound fits (.reset started)
  have keepable := PlayerState.keepable sound (stopped.whole (wholeIds whole) started) writable
  have rest : Run project state later final := run.behind stopped
  obtain ⟨kept, saved⟩ := Archive.save_ok storable room now keepable
  have loaded := (Archive.load_saved room.stands keepable saved).1 _ rfl
  refine ⟨kept, state, saved, ?_, rest, fun others last other same => rest.unique other same⟩
  rw [PlayerState.toValue_eq] at loaded
  simp only [Archive.loadGame, loaded, sound.read_back]

/-- The state in the cellar, to which the lamp was carried. -/
def lampBelow : PlayerState where
  sceneId := "cellar"
  values := [("lamp", .int 1), ("courage", .int 0), ("lit", .bool true)]
  kinds := [("lamp", .item), ("courage", .attribute), ("lit", .flag)]
  history := ["take", "down"]

/-- A choice that leads down, and one of the hall that the cellar does not have. -/
def lampDescent (down : Choice) : List Attempt :=
  [⟨"down", .accepted down lampBelow⟩,
    ⟨"take", .rejected "take" (.elsewhere "hall" "cellar") lampBelow⟩]

/-- Before the way down the lamp's state is saved in an archive, and the way down is taken from the
state that is loaded. -/
def LampDescends (archive : Archive) : Prop :=
  ∃ kept resumed down,
    archive.saveGame lampStory.created lampStory.id lampTaken = (.ok (), kept) ∧
    kept.loadGame lampStory.id = .ok (some resumed) ∧
    Run lampStory resumed (lampDescent down) lampBelow

/-- The lamp's run is stopped before the way down, in memory and in an empty directory. -/
theorem resumed_run_goes_on_below :
    LampDescends (.memory []) ∧ LampDescends (.folder Archive.Folder.emptyShelf) := by
  have started : lampStory.reset = .ok { sceneId := "hall" } := rfl
  have descent : Run lampStory lampTaken (lampDescent (lampStory.scenes[0].choices[1])) lampBelow :=
    .attempt "take" (.rejected "take" (.elsewhere "hall" "cellar") lampBelow)
      (.attempt "down" (.accepted (lampStory.scenes[0].choices[1]) lampBelow) .begin rfl) rfl
  have writable : lampTaken.Writable := by
    intro key n member
    have numbers : key = "lamp" ∧ n = 2 ∨ key = "courage" ∧ n = 0 := by
      simpa [lampTaken] using member
    rcases numbers with ⟨-, rfl⟩ | ⟨-, rfl⟩ <;> decide +kernel
  have descends (archive : Archive) (room : archive.HasRoom (Archive.gameMark ++ lampStory.id)) :
      LampDescends archive := by
    obtain ⟨kept, resumed, saved, loaded, rest, -⟩ := resumed_run_goes_on lampStory_fits
      (by decide +kernel) started (lamp_run.append descent) lamp_run writable (by decide +kernel)
      room lampStory.created
    exact ⟨kept, resumed, _, saved, loaded, rest⟩
  constructor
  · exact descends _ (.memory [] _)
  · exact descends _ (.folder Archive.Folder.emptyShelf_shows
      (.of_empty (by decide +kernel) (by decide +kernel)))

end Project

end Gamebook
