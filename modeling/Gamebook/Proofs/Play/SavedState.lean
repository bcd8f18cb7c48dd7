import Gamebook.Proofs.Json.Distinct
import Gamebook.Proofs.Play.Kinds
import Gamebook.Proofs.Play.Run
import Gamebook.Proofs.Story.Schema

/-!
# Saving a state and reading it back

A state is sound when it names a scene and its store is typed. Sound states are exactly
as safe as saved ones: a saved state that is read is sound, a sound state that is written
is read back as it was, and taking a choice keeps a state sound. So a state can be saved
at any point of a run.
-/

namespace Gamebook

namespace PlayerState

/-- A state that names some scene and whose values have the kinds of their keys. -/
structure Sound (state : PlayerState) : Prop where
  scene : state.sceneId ≠ ""
  store : state.store.Typed

/-! ## Reading -/

theorem showing_ne_ok {α : Type} (value : Value) (fault : String → Fault) (x : α) :
    showing value fault ≠ .ok x := by
  unfold showing
  cases value.shown <;> simp

/-- The kinds that are read have the names they were read under, in order. -/
theorem readKinds_keys {members : Entries Value} {kinds : Entries Kind}
    (read : readKinds members = .ok kinds) : kinds.keys = members.keys := by
  induction members generalizing kinds with
  | nil =>
    have none : [] = kinds := Except.ok.inj read
    exact none ▸ rfl
  | cons member rest inductionHypothesis =>
    obtain ⟨key, value⟩ := member
    unfold readKinds at read
    split at read
    · exact absurd read (showing_ne_ok _ _ _)
    · split at read
      next others readOthers =>
        have same : (key, _) :: others = kinds := Except.ok.inj read
        rw [← same, Entries.keys_cons, Entries.keys_cons, inductionHypothesis readOthers]
      next => nomatch read

/-- The check passes exactly when every key with a kind has a scalar of that kind. -/
theorem checkValues_ok_iff (values : Entries Value) (kinds : Entries Kind) :
    checkValues values kinds = .ok () ↔ ∀ key kind, (key, kind) ∈ kinds →
      ∃ value x, values.get? key = some value ∧ value.scalar? = some x ∧ x.OfKind kind := by
  induction kinds with
  | nil => simp [checkValues]
  | cons entry rest inductionHypothesis =>
    obtain ⟨key, kind⟩ := entry
    constructor
    · intro checked other otherKind member
      simp only [checkValues] at checked
      split at checked
      · exact absurd checked (showing_ne_ok _ _ _)
      next x isScalar =>
        split at checked
        next fitting =>
          rcases List.mem_cons.mp member with same | later
          · obtain ⟨rfl, rfl⟩ := Prod.mk.inj same
            cases found : values.get? other with
            | none => simp [found, Value.scalar?] at isScalar
            | some value =>
              rw [found] at isScalar
              exact ⟨value, x, rfl, isScalar, (fits_iff _ _).mp fitting⟩
          · exact inductionHypothesis.mp checked other otherKind later
        next => exact absurd checked (showing_ne_ok _ _ _)
    · intro every
      obtain ⟨value, x, found, isScalar, isOfKind⟩ := every key kind List.mem_cons_self
      have fitting : fits kind x = true := (fits_iff kind x).mpr isOfKind
      have others : checkValues values rest = .ok () :=
        inductionHypothesis.mpr fun other otherKind later =>
          every other otherKind (List.mem_cons_of_mem _ later)
      simp [checkValues, found, isScalar, fitting, others]

/-- The keys of two tables match exactly when both tables have the same keys. -/
theorem matched_iff {α β : Type} (values : Entries α) (kinds : Entries β) :
    (!(values.keys.all kinds.has && kinds.keys.all values.has)) = false ↔
      ∀ key, key ∈ values.keys ↔ key ∈ kinds.keys := by
  simp only [Bool.not_eq_false', Bool.and_eq_true, List.all_eq_true, Entries.has_iff]
  exact ⟨fun both key => ⟨both.1 key, both.2 key⟩,
    fun same => ⟨fun key => (same key).mp, fun key => (same key).mpr⟩⟩

/-- What a saved state consists of: a document is read as a state exactly when its parts are
read as the parts of that state. -/
theorem ofMembers_ok_iff (members : Entries Value) (state : PlayerState) :
    ofMembers members = .ok state ↔
      (members.get? "currentSceneId").bind (·.text?) = some state.sceneId ∧
      state.sceneId ≠ "" ∧ ∃ values kindValues, objectOf members "variables" = some values ∧
        objectOf members "kinds" = some kindValues ∧
        (∀ key, key ∈ values.keys ↔ key ∈ kindValues.keys) ∧
        readKinds kindValues = .ok state.kinds ∧ checkValues values state.kinds = .ok () ∧
        readStatus (members.get? "status") = .ok state.status ∧
        readHistory (members.get? "history") = .ok state.history ∧
        state.values = values.filterMap fun (key, value) => value.scalar?.map (key, ·) := by
  constructor
  · intro read
    unfold ofMembers at read
    split at read
    · nomatch read
    next sceneId found =>
    split at read
    · nomatch read
    next named =>
    split at read
    next values kindValues hasValues hasKinds =>
      split at read
      · nomatch read
      next matched =>
        simp only [Except.bind_ok_iff, Except.ok.injEq] at read
        obtain ⟨kinds, readKind, _, checked, status, readsStatus, history, readsHistory, rfl⟩ := read
        exact ⟨found, by simpa using named, values, kindValues, hasValues, hasKinds,
          (matched_iff values kindValues).mp (by simpa using matched), readKind, checked,
          readsStatus, readsHistory, rfl⟩
    · nomatch read
  · rintro ⟨found, named, values, kindValues, hasValues, hasKinds, same, readKind, checked,
      readsStatus, readsHistory, stored⟩
    have matched := (matched_iff values kindValues).mpr same
    have isNamed : state.sceneId.isEmpty = false := by simpa using named
    unfold ofMembers
    simp only [found, isNamed, hasValues, hasKinds, matched, readKind, checked, readsStatus,
      readsHistory, Except.ok_bind, Bool.false_eq_true, if_false, ← stored]

/-- An object that a member holds has distinct names. -/
theorem objectOf_distinct {members : Entries Value} (distinct : Value.Distinct (.object members))
    {name : String} {inner : Entries Value} (found : objectOf members name = some inner) :
    inner.keys.Nodup := by
  unfold objectOf at found
  split at found
  · exact Option.some.inj found ▸ List.nodup_nil
  next value member =>
    have valueDistinct : value.Distinct := Value.distinct_of_get? distinct.2 member
    cases value with
    | object held => exact Option.some.inj found ▸ valueDistinct.1
    | _ => nomatch found

/-- Where every value is a scalar, taking the scalars keeps the keys. -/
theorem scalars_keys {values : Entries Value}
    (scalars : ∀ entry ∈ values, entry.2.scalar?.isSome = true) :
    Entries.keys (values.filterMap fun (key, value) => value.scalar?.map (key, ·)) =
      values.keys := by
  induction values with
  | nil => rfl
  | cons entry rest inductionHypothesis =>
    obtain ⟨key, value⟩ := entry
    obtain ⟨x, isScalar⟩ := Option.isSome_iff_exists.mp (scalars (key, value) List.mem_cons_self)
    have others := inductionHypothesis fun entry later =>
      scalars entry (List.mem_cons_of_mem _ later)
    simp [isScalar, others]

/-- Where every value is a scalar, taking the scalars keeps the answers. -/
theorem scalars_get? {values : Entries Value}
    (scalars : ∀ entry ∈ values, entry.2.scalar?.isSome = true) (key : String) :
    Entries.get? (values.filterMap fun (key, value) => value.scalar?.map (key, ·)) key =
      (values.get? key).bind Value.scalar? := by
  induction values with
  | nil => rfl
  | cons entry rest inductionHypothesis =>
    obtain ⟨k, value⟩ := entry
    obtain ⟨x, isScalar⟩ := Option.isSome_iff_exists.mp (scalars (k, value) List.mem_cons_self)
    have others := inductionHypothesis fun entry later =>
      scalars entry (List.mem_cons_of_mem _ later)
    by_cases same : k = key <;> simp [isScalar, same, others]

/-- A saved state that is read is sound. -/
theorem sound_of_read {members : Entries Value} (distinct : Value.Distinct (.object members))
    {state : PlayerState} (read : ofMembers members = .ok state) : state.Sound := by
  obtain ⟨_, named, values, kindValues, hasValues, hasKinds, matched, readKind, checked, _, _,
    stored⟩ := (ofMembers_ok_iff members state).mp read
  have valuesDistinct : values.keys.Nodup := objectOf_distinct distinct hasValues
  have kindsDistinct : kindValues.keys.Nodup := objectOf_distinct distinct hasKinds
  have kindKeys : state.kinds.keys = kindValues.keys := readKinds_keys readKind
  have every := (checkValues_ok_iff values state.kinds).mp checked
  have scalars : ∀ entry ∈ values, entry.2.scalar?.isSome = true := by
    intro (key, value) member
    have isKey : key ∈ state.kinds.keys := by
      rw [kindKeys, ← matched]
      exact List.mem_map.mpr ⟨(key, value), member, rfl⟩
    obtain ⟨⟨_, kind⟩, bound, rfl⟩ := List.mem_map.mp isKey
    obtain ⟨other, x, found, isScalar, _⟩ := every _ kind bound
    have same : value = other :=
      Option.some.inj ((Entries.get?_of_mem valuesDistinct member).symm.trans found)
    simp [same, isScalar]
  refine ⟨named, ?_, ?_, ?_, ?_⟩
  · simpa [store, stored, scalars_keys scalars] using valuesDistinct
  · simpa [store, kindKeys] using kindsDistinct
  · intro key
    simp only [store, stored, scalars_keys scalars, kindKeys, matched]
  · intro key kind bound
    obtain ⟨value, x, found, isScalar, isOfKind⟩ := every key kind (Entries.mem_of_get? bound)
    refine ⟨x, ?_, isOfKind⟩
    simp only [store, stored, scalars_get? scalars, found, isScalar, Option.bind_some]

/-! ## Writing and reading back -/

/-- The members of a state as a document. -/
def toMembers (state : PlayerState) : Entries Value :=
  [("currentSceneId", .text state.sceneId),
    ("variables", .object (state.values.map fun (key, x) => (key, .ofScalar x))),
    ("kinds", .object (state.kinds.map fun (key, kind) => (key, .text kind.name))),
    ("status", .text state.status.name), ("history", .ofTexts state.history)]

theorem toValue_eq (state : PlayerState) : state.toValue = .object state.toMembers := rfl

/-- The name of a kind is read as that kind. -/
theorem kind_of_name (kind : Kind) : Entries.get? Kind.options kind.name = some kind := by
  cases kind <;> decide

theorem readKinds_names (kinds : Entries Kind) :
    readKinds (kinds.map fun (key, kind) => (key, .text kind.name)) = .ok kinds := by
  induction kinds with
  | nil => rfl
  | cons entry rest inductionHypothesis =>
    obtain ⟨key, kind⟩ := entry
    simp [readKinds, Value.text?, kind_of_name, inductionHypothesis]

theorem readStatus_name (status : Status) :
    readStatus (some (.text status.name)) = .ok status := by
  cases status <;> rfl

theorem readEntries_texts (history : List String) :
    (history.map Value.text).mapM readEntry = .ok history := by
  induction history with
  | nil => rfl
  | cons id rest inductionHypothesis =>
    simp [List.mapM_cons, readEntry, inductionHypothesis, bind, Except.bind, pure, Except.pure]

theorem scalar?_ofScalar (x : Scalar) : (Value.ofScalar x).scalar? = some x := by
  cases x <;> rfl

theorem scalars_ofScalar (values : Entries Scalar) :
    ((values.map fun (key, x) => (key, Value.ofScalar x)).filterMap
      fun (key, value) => value.scalar?.map (key, ·)) = values := by
  induction values with
  | nil => rfl
  | cons entry rest inductionHypothesis =>
    simp only [List.map_cons, List.filterMap_cons, scalar?_ofScalar, Option.map_some,
      inductionHypothesis]

/-- The scalars of a typed store pass the check under its kinds. -/
theorem Sound.checked {state : PlayerState} (sound : state.Sound) :
    checkValues (state.values.map fun (key, x) => (key, .ofScalar x)) state.kinds = .ok () := by
  rw [checkValues_ok_iff]
  intro key kind member
  obtain ⟨x, held, isOfKind⟩ := sound.store.typed key kind
    (Entries.get?_of_mem sound.store.kinds member)
  have held : state.values.get? key = some x := held
  exact ⟨.ofScalar x, x, by simp [Entries.get?_map, held], scalar?_ofScalar x, isOfKind⟩

/-- A sound state that is written is read back as it was. -/
theorem Sound.read_back {state : PlayerState} (sound : state.Sound) :
    ofMembers state.toMembers = .ok state := by
  have sameKeys : ∀ key, key ∈ state.values.keys ↔ key ∈ state.kinds.keys := sound.store.keys
  refine (ofMembers_ok_iff state.toMembers state).mpr ⟨rfl, sound.scene, _, _, rfl, rfl, ?_,
    readKinds_names state.kinds, sound.checked, readStatus_name state.status,
    readEntries_texts state.history, (scalars_ofScalar state.values).symm⟩
  simpa only [Entries.keys_map, Entries.keys_map fun kind : Kind => Value.text kind.name]
    using sameKeys

end PlayerState

namespace Project

/-- The states that a playthrough can go on from: the start of the story, or a saved state that
is read. -/
inductive Begins (project : Project) : PlayerState → Prop
  | reset {state : PlayerState} (started : project.reset = .ok state) : Begins project state
  | saved {state : PlayerState} (members : Entries Value)
      (distinct : Value.Distinct (.object members))
      (read : PlayerState.ofMembers members = .ok state) : Begins project state

/-- The start of the story is the start scene with nothing stored. -/
theorem reset_ok_iff (project : Project) (state : PlayerState) :
    project.reset = .ok state ↔
      ∃ start, project.startScene? = some start ∧ state = { sceneId := start.id } := by
  unfold reset
  cases project.startScene? <;> simp [eq_comm]

/-- A story can be started when it has a start scene. -/
theorem startScene?_isSome_iff (project : Project) :
    project.startScene?.isSome = true ↔ ∃ state, project.reset = .ok state := by
  unfold reset
  cases project.startScene? <;> simp

/-- A playthrough begins with a typed store. -/
theorem Begins.typed {project : Project} {state : PlayerState} (begins : project.Begins state) :
    state.store.Typed := by
  cases begins with
  | reset started =>
    obtain ⟨start, _, rfl⟩ := (reset_ok_iff project state).mp started
    exact Store.typed_empty
  | saved members distinct read => exact (PlayerState.sound_of_read distinct read).store

/-- A choice that is taken keeps the store typed. -/
theorem typed_of_accepted {project : Project} {state next : PlayerState} {choiceId : String}
    {choice : Choice} (typed : state.store.Typed)
    (selected : project.select state choiceId = .ok (.accepted choice next)) :
    next.store.Typed := by
  obtain ⟨_, store, _, _, _, _, applied, rfl⟩ := taken_of_accepted selected
  exact typed.applyAll applied

/-- Every run keeps the store typed. -/
theorem Run.keepsTyped {project : Project} {start state : PlayerState}
    {attempts : List Attempt} (begins : project.Begins start)
    (run : Run project start attempts state) : state.store.Typed :=
  run.keeps (fun state => state.store.Typed) begins.typed
    fun _ _ _ _ typed selected => typed_of_accepted typed selected

/-- A playthrough begins in a sound state. -/
theorem Begins.sound {project : Project} (fits : project.FitsSchema) {state : PlayerState}
    (begins : project.Begins state) : state.Sound := by
  cases begins with
  | reset started =>
    obtain ⟨start, found, rfl⟩ := (reset_ok_iff project state).mp started
    exact ⟨fits.id_of_startScene? found, Store.typed_empty⟩
  | saved members distinct read => exact PlayerState.sound_of_read distinct read

/-- Where a choice that is taken leads: to a scene of the project, or nowhere when it ends the
story in the current scene, which is a scene of the project too. -/
theorem scene_of_accepted {project : Project} {state next : PlayerState} {choiceId : String}
    {choice : Choice} (selected : project.select state choiceId = .ok (.accepted choice next)) :
    (project.scene? next.sceneId).isSome = true := by
  obtain ⟨scene, store, here, _, _, reached, _, rfl⟩ := taken_of_accepted selected
  cases ends : choice.isTerminal with
  | true => simp [advance, ends, here]
  | false => simpa [advance, reaches, ends] using reached

/-- A choice that is taken keeps the state sound. -/
theorem sound_of_accepted {project : Project} (fits : project.FitsSchema)
    {state next : PlayerState} {choiceId : String} {choice : Choice} (sound : state.Sound)
    (selected : project.select state choiceId = .ok (.accepted choice next)) : next.Sound := by
  obtain ⟨scene, found⟩ := Option.isSome_iff_exists.mp (scene_of_accepted selected)
  obtain ⟨_, store, _, _, _, _, applied, rfl⟩ := taken_of_accepted selected
  exact ⟨fits.id_of_scene? found, sound.store.applyAll applied⟩

/-- Every state of a run is sound. -/
theorem Run.sound {project : Project} (fits : project.FitsSchema) {start state : PlayerState}
    {attempts : List Attempt} (begins : project.Begins start)
    (run : Run project start attempts state) : state.Sound :=
  run.keeps PlayerState.Sound (begins.sound fits) fun _ _ _ _ sound selected =>
    sound_of_accepted fits sound selected

/-- Once a choice of a run was taken, the current scene is a scene of the project. -/
theorem Run.scene {project : Project} {start state : PlayerState} {attempts : List Attempt}
    (run : Run project start attempts state) (taken : HasTaken attempts) :
    (project.scene? state.sceneId).isSome = true := by
  induction run with
  | begin =>
    obtain ⟨attempt, member, _⟩ := taken
    exact absurd member List.not_mem_nil
  | attempt choiceId outcome before selected inductionHypothesis =>
    cases outcome with
    | accepted choice next => exact scene_of_accepted selected
    | rejected id refusal left =>
      obtain rfl := select_rejected_state selected
      apply inductionHypothesis
      obtain ⟨attempt, member, accepted⟩ := taken
      rcases List.mem_append.mp member with earlier | last
      · exact ⟨attempt, earlier, accepted⟩
      · rw [List.mem_singleton.mp last] at accepted
        exact absurd accepted (by simp [Outcome.isAccepted])

/-- Every state of a run can be saved: its values and kinds have the same keys, each value has
the kind of its key, its scene exists once a choice was taken, and it is read back as it was. -/
theorem run_state_saves {project : Project} (fits : project.FitsSchema)
    {start state : PlayerState} (begins : project.Begins start) {attempts : List Attempt}
    (run : Run project start attempts state) :
    (∀ key, key ∈ state.values.keys ↔ key ∈ state.kinds.keys) ∧
      (∀ key kind, state.kinds.get? key = some kind →
        ∃ x, state.values.get? key = some x ∧ x.OfKind kind) ∧
      (HasTaken attempts → (project.scene? state.sceneId).isSome = true) ∧
      ∃ members, state.toValue = .object members ∧
        PlayerState.ofMembers members = .ok state := by
  have sound : state.Sound := run.sound fits begins
  exact ⟨sound.store.keys, sound.store.typed, run.scene, state.toMembers, rfl, sound.read_back⟩

/-- The state in which the lamp was taken once and a choice that does not exist was tried. -/
def lampTaken : PlayerState where
  sceneId := "hall"
  values := [("lamp", .int 2), ("courage", .int 0), ("lit", .bool true)]
  kinds := [("lamp", .item), ("courage", .attribute), ("lit", .flag)]
  history := ["take"]

/-- A choice that no scene has, and then the lamp. -/
def lampAttempts : List Attempt :=
  [⟨"swim", .rejected "swim" .unknown { sceneId := "hall" }⟩,
    ⟨"take", .accepted (lampStory.scenes[0].choices[0]) lampTaken⟩]

theorem lamp_run : Run lampStory { sceneId := "hall" } lampAttempts lampTaken :=
  .attempt "take" (.accepted (lampStory.scenes[0].choices[0]) lampTaken)
    (.attempt "swim" (.rejected "swim" .unknown { sceneId := "hall" }) .begin rfl) rfl

theorem run_state_saves_after_lamp :
    lampStory.FitsSchema ∧ lampStory.Begins { sceneId := "hall" } ∧
      Run lampStory { sceneId := "hall" } lampAttempts lampTaken ∧ HasTaken lampAttempts ∧
      (lampStory.scene? lampTaken.sceneId).isSome = true ∧
      ∃ members, lampTaken.toValue = .object members ∧
        PlayerState.ofMembers members = .ok lampTaken := by
  have begins : lampStory.Begins { sceneId := "hall" } := .reset rfl
  have taken : HasTaken lampAttempts := ⟨_, List.mem_cons_of_mem _ List.mem_cons_self, rfl⟩
  obtain ⟨_, _, scene, saved⟩ := run_state_saves lampStory_fits begins lamp_run
  exact ⟨lampStory_fits, begins, lamp_run, taken, scene taken, saved⟩

end Project

end Gamebook
