import Gamebook.Proofs.Play.Session
import Gamebook.Proofs.Play.Validated

/-!
# Choosing by number

The choices of a scene are displayed by their places, but a number is looked up by the id of the
choice at its place, and an id finds the first choice that has it. What a number comes to is
therefore what the first displayed entry with the id of the entry under the number comes to: an open
entry is taken, a locked one is refused with its own reason. This is the entry under the number
exactly when no earlier choice of the scene has the same id. A scene of a draft may repeat an id,
and then the number of a locked entry may be accepted, in that another entry is taken. Nothing is
said of numbers that stand nowhere, or where a fault of numbers leaves the scene without a display
or the number without an answer.
-/

namespace Gamebook

variable {project : Project} {state next : PlayerState}

/-! ## What a displayed entry comes to -/

/-- The state that follows when a choice is taken: its consequences give the store, and its target
the scene or the end of the story. -/
structure PlayerState.Proceeds (state next : PlayerState) (choice : Choice) : Prop where
  store : applyAll state.store choice.consequences = .ok (.store next.store)
  ends : choice.target = terminalTarget → next.sceneId = state.sceneId ∧ next.status = .ended
  moves : choice.target ≠ terminalTarget → next.sceneId = choice.target ∧ next.status = .active

/-- What a displayed entry can come to when it is the one that is chosen. -/
inductive Availability.Decides (entry : Availability) (project : Project) (state : PlayerState) :
    Outcome → Prop
  /-- A locked entry is refused with the reason that is displayed. -/
  | locked (reason : Reason) (displayed : entry.reason = some reason) :
      Decides entry project state (.rejected entry.choice.id (.unmet reason) state)
  /-- An open entry is refused when its target is missing. -/
  | missing (isOpen : entry.isAllowed = true) (unreached : project.reaches entry.choice = false) :
      Decides entry project state
        (.rejected entry.choice.id (.missingTarget entry.choice.target) state)
  /-- An open entry with a target is refused when its consequences are. -/
  | refused (isOpen : entry.isAllowed = true) (reached : project.reaches entry.choice = true)
      (effect : EffectRefusal)
      (applied : applyAll state.store entry.choice.consequences = .ok (.refused effect)) :
      Decides entry project state (.rejected entry.choice.id (.effect effect) state)
  /-- Otherwise an open entry is taken. -/
  | taken (isOpen : entry.isAllowed = true) (reached : project.reaches entry.choice = true)
      (next : PlayerState) (proceeds : state.Proceeds next entry.choice) :
      Decides entry project state (.accepted entry.choice next)

theorem Project.advance_proceeds {choice : Choice} {store : Store}
    (applied : applyAll state.store choice.consequences = .ok (.store store)) :
    state.Proceeds (advance state choice store) choice := by
  refine ⟨applied, ?_, ?_⟩
  · intro terminal
    simp [advance, Choice.isTerminal, terminal]
  · intro goesOn
    simp [advance, Choice.isTerminal, goesOn]

/-- When the id of an entry finds its own choice, selecting this id comes to what the entry does. -/
theorem Availability.decides_of_select {entry : Availability} (active : state.isEnded = false)
    (found : project.currentChoice? state entry.choice.id = some entry.choice)
    (judged : firstReason? state entry.choice.requirements = .ok entry.reason) {outcome : Outcome}
    (selected : project.select state entry.choice.id = .ok outcome) :
    entry.Decides project state outcome := by
  have open_of_none (met : firstReason? state entry.choice.requirements = .ok none) :
      entry.isAllowed = true := by
    have unlocked : entry.reason = none := Except.ok.inj (judged.symm.trans met)
    rw [isAllowed, unlocked, Option.isNone_none]
  rcases Project.select_cases selected with
    ⟨choice, next, rfl, _, foundToo, taken⟩ | ⟨refusal, rfl, ended | stranger | refused⟩
  · obtain rfl := Option.some.inj (found.symm.trans foundToo)
    obtain ⟨met, reached, store, applied, rfl⟩ := (Project.take_accepted_iff _ _ _ _).mp taken
    exact .taken (open_of_none met) reached _ (Project.advance_proceeds applied)
  · cases active.symm.trans ended.1
  · cases found.symm.trans stranger.2.1
  · obtain ⟨_, choice, foundToo, taken⟩ := refused
    obtain rfl := Option.some.inj (found.symm.trans foundToo)
    rcases (Project.take_refused_iff _ _ _ _).mp taken with
      ⟨reason, unmet, rfl⟩ | ⟨met, ⟨unreached, rfl⟩ | ⟨reached, effect, applied, rfl⟩⟩
    · exact .locked reason (Except.ok.inj (judged.symm.trans unmet))
    · exact .missing (open_of_none met) unreached
    · exact .refused (open_of_none met) reached effect applied

/-! ## Places and ids -/

namespace Project

variable {index : Nat} {choices : List Choice} {entries : List Availability}

theorem displayFrom_choices (displayed : displayFrom state index choices = .ok entries) :
    entries.map (·.choice) = choices := by
  induction choices generalizing index entries with
  | nil =>
    obtain rfl := Except.ok.inj displayed
    rfl
  | cons choice rest inductionHypothesis =>
    obtain ⟨reason, others, _, later, rfl⟩ := (displayFrom_cons_iff _ _ _ _ _).mp displayed
    rw [List.map_cons, inductionHypothesis later]

/-- An entry shows its own place. -/
theorem displayFrom_index (displayed : displayFrom state index choices = .ok entries)
    {place : Nat} {entry : Availability} (here : entries[place]? = some entry) :
    entry.index = index + place := by
  induction choices generalizing index entries place with
  | nil =>
    obtain rfl := Except.ok.inj displayed
    nomatch here
  | cons choice rest inductionHypothesis =>
    obtain ⟨reason, others, _, later, rfl⟩ := (displayFrom_cons_iff _ _ _ _ _).mp displayed
    cases place with
    | zero =>
      obtain rfl := Option.some.inj here
      rfl
    | succ place =>
      have shown := inductionHypothesis later (List.getElem?_cons_succ ▸ here)
      omega

/-- An id finds in a scene the choice of the first entry that has it. -/
theorem find?_displayed (displayed : displayFrom state index choices = .ok entries) (id : String) :
    choices.find? (·.id == id) = (entries.find? (·.choice.id == id)).map (·.choice) := by
  rw [← displayFrom_choices displayed, List.find?_map]
  rfl

/-- The first entry with the id of an entry is this one exactly when no entry before has the id. -/
theorem first_eq_iff (displayed : displayFrom state index choices = .ok entries) {place : Nat}
    {entry first : Availability} (here : entries[place]? = some entry)
    (found : entries.find? (·.choice.id == entry.choice.id) = some first) :
    first = entry ↔ ∀ earlier ∈ entries.take place, earlier.choice.id ≠ entry.choice.id := by
  obtain ⟨hasId, firstPlace, inside, rfl, differ⟩ := List.find?_eq_some_iff_getElem.mp found
  simp only [beq_iff_eq, Bool.not_eq_true', beq_eq_false_iff_ne] at hasId differ
  have firstIndex := displayFrom_index displayed (List.getElem?_eq_getElem inside)
  have ownIndex := displayFrom_index displayed here
  constructor
  · intro same earlier member
    have atPlace : firstPlace = place := by
      rw [same] at firstIndex
      omega
    obtain ⟨before, isBefore, rfl⟩ := List.mem_iff_getElem.mp member
    rw [List.length_take] at isBefore
    rw [List.getElem_take]
    exact differ before (by omega)
  · intro fresh
    -- The first entry with the id stands nowhere before the entry itself.
    have notBefore : ¬firstPlace < place := by
      intro before
      exact fresh _ (List.mem_take_iff_getElem.mpr ⟨firstPlace, by omega, rfl⟩) hasId
    have notBehind : ¬place < firstPlace := by
      intro behind
      obtain ⟨bound, isEntry⟩ := List.getElem?_eq_some_iff.mp here
      exact differ place behind (congrArg (·.choice.id) isEntry)
    obtain rfl : firstPlace = place := by omega
    exact (List.getElem?_eq_some_iff.mp here).2

end Project

/-! ## Numbers -/

namespace Session

/-- What a number between one and the number of choices comes to in a session where the choices are
displayed as `entries`. -/
structure TakesFirst (session : Session) (entries : List Availability) (number : Int)
    (entry first : Availability) : Prop where
  /-- The entry under the number. -/
  shown : entries[(number - 1).toNat]? = some entry ∧ (entry.index : Int) + 1 = number
  /-- The first entry with its id. -/
  found : entries.find? (·.choice.id == entry.choice.id) = some first
  /-- They are the same exactly when the id is not used before. -/
  same : first = entry ↔
    ∀ earlier ∈ entries.take (number - 1).toNat, earlier.choice.id ≠ entry.choice.id
  /-- The number comes to what the first entry does, and the session moves to its state. -/
  decided : ∀ outcome next, session.chooseNumber number = .ok (outcome, next) →
    first.Decides session.project session.state outcome ∧ next.state = outcome.state

/-- A number between one and the number of choices comes to what the first displayed entry with the
id of the entry under the number does. -/
theorem number_takes_first (session : Session) (active : session.isEnded = false)
    {entries : List Availability} (displayed : session.choices = .ok entries) {scene : Scene}
    (here : session.scene? = some scene) {number : Int}
    (inside : 1 ≤ number ∧ number ≤ scene.choices.length) :
    ∃ entry first, TakesFirst session entries number entry first := by
  have current : session.project.currentScene? session.state = some scene := here
  have displayedFrom : Project.displayFrom session.state 0 scene.choices = .ok entries := by
    simpa [choices, Project.display, current] using displayed
  have listed := Project.displayFrom_choices displayedFrom
  have bound : (number - 1).toNat < entries.length := by
    have sameLength := congrArg List.length listed
    rw [List.length_map] at sameLength
    omega
  obtain ⟨entry, shown⟩ : ∃ entry, entries[(number - 1).toNat]? = some entry :=
    ⟨_, List.getElem?_eq_getElem bound⟩
  obtain ⟨first, found⟩ : ∃ first,
      entries.find? (·.choice.id == entry.choice.id) = some first :=
    Option.isSome_iff_exists.mp
      (List.find?_isSome.mpr ⟨entry, List.mem_of_getElem? shown, beq_self_eq_true _⟩)
  have sameId : first.choice.id = entry.choice.id := by simpa using List.find?_some found
  have offered : scene.choices[(number - 1).toNat]? = some entry.choice := by
    rw [← listed, List.getElem?_map, shown, Option.map_some]
  have numbered : session.numbered? number = some entry.choice := by
    simp only [numbered?, here, if_pos inside.1, offered]
  refine ⟨entry, first, ⟨shown, ?_⟩, found, Project.first_eq_iff displayedFrom shown found, ?_⟩
  · have atPlace := Project.displayFrom_index displayedFrom shown
    omega
  · intro outcome next chosen
    rw [chooseNumber, numbered] at chosen
    obtain ⟨selected, rfl⟩ := (choose_ok_iff session next entry.choice.id outcome).mp chosen
    refine ⟨Availability.decides_of_select active ?_ ?_ (sameId ▸ selected), rfl⟩
    · rw [Project.currentChoice?, current, Option.bind_some, Scene.choice?,
        Project.find?_displayed displayedFrom, sameId, found, Option.map_some]
    · exact (Project.mem_displayFrom displayedFrom (List.mem_of_find?_eq_some found)).2

/-- A draft whose first scene has two choices of one id, of which the second is locked. -/
def twinStory : Project where
  id := "twins"
  name := "The Twins"
  created := lampStory.created
  updated := lampStory.updated
  scenes :=
    [{ id := "fork", title := "The Fork"
       choices :=
         [{ id := "go", text := "Go left", target := "left" },
          { id := "go", text := "Go right", target := "right"
            requirements := [⟨.flag, "key", .equal, .bool true⟩] }] },
      { id := "left", title := "Left" }, { id := "right", title := "Right" }]

/-- A session at the fork. -/
def twinSession : Session := { id := "draft", project := twinStory, state := { sceneId := "fork" } }

/-- Under the second number at the fork the first entry is taken. -/
theorem number_takes_first_twins :
    let left : Availability := ⟨twinStory.scenes[0].choices[0], 0, none⟩
    let right : Availability :=
      ⟨twinStory.scenes[0].choices[1], 1, some (.flagDiffers "key" true)⟩
    twinSession.isEnded = false ∧ twinSession.choices = .ok [left, right] ∧
      twinSession.scene? = some twinStory.scenes[0] ∧
      TakesFirst twinSession [left, right] 2 right left := by
  refine ⟨rfl, rfl, rfl, ?_⟩
  have inside : (1 : Int) ≤ 2 ∧ (2 : Int) ≤ twinStory.scenes[0].choices.length := by decide
  obtain ⟨entry, first, takes⟩ := number_takes_first twinSession rfl rfl rfl inside
  obtain rfl := Option.some.inj takes.shown.1
  obtain rfl := Option.some.inj takes.found
  exact takes

/-- A number under which a locked entry is displayed, and which is accepted. -/
theorem locked_number_accepted :
    twinSession.isEnded = false ∧ ∃ entries entry outcome next,
      twinSession.choices = .ok entries ∧ entries[1]? = some entry ∧ entry.isAllowed = false ∧
      twinSession.chooseNumber 2 = .ok (outcome, next) ∧ outcome.isAccepted = true ∧
      next.state.sceneId ≠ entry.choice.target :=
  ⟨rfl, _, _, _, _, rfl, rfl, rfl, rfl, rfl, by decide⟩

end Session

end Gamebook
