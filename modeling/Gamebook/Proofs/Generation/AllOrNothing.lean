import Gamebook.Proofs.Generation
import Gamebook.Proofs.Story.Editing

/-!
# Generation is all or nothing

Content is generated in steps of which each can end in a fault: the provider is attempted, the
entity is taken from what it replied, a scene gets a new id, the project is edited and at last
marked as changed. What a step has done before a fault stays done, so nothing is gained by the
fault alone. But all steps before the edit leave the project as it is, an edit that is refused does
so too, and after an edit nothing can fail any more.
-/

namespace Gamebook

/-- A project gains an entity at a moment: the entity comes last among those of its kind, under an
id that none of them has, and besides only the moment of the last change is another one. -/
inductive Project.Gains (project : Project) (now : Moment) : Entity → Project → Prop
  | scene {scene : Scene} (fresh : scene.id ∉ project.scenes.map (·.id)) :
    Gains project now (.scene scene)
      { project with scenes := project.scenes ++ [scene], updated := now }
  | character {character : Character} (fresh : character.id ∉ project.characters.map (·.id)) :
    Gains project now (.character character)
      { project with characters := project.characters ++ [character], updated := now }
  | item {item : Item} (fresh : item.id ∉ project.items.map (·.id)) :
    Gains project now (.item item)
      { project with items := project.items ++ [item], updated := now }

section Gains

variable {project changed : Project} (now : Moment)

theorem Project.gains_of_addScene {scene : Scene} (added : project.addScene scene = .ok changed) :
    project.Gains now (.scene scene) (changed.touch now) := by
  have edited : (Edit.scene (.add scene)).apply project = .ok changed := added
  obtain ⟨_, changes, rfl⟩ := scene_ok_iff.mp edited
  cases changes with
  | add fresh => exact .scene fresh

theorem Project.gains_of_addCharacter {character : Character}
    (added : project.addCharacter character = .ok changed) :
    project.Gains now (.character character) (changed.touch now) := by
  obtain ⟨_, changes, rfl⟩ :=
    (added_ok_iff fun characters => { project with characters := characters }).mp added
  cases changes with
  | add fresh => exact .character fresh

theorem Project.gains_of_addItem {item : Item} (added : project.addItem item = .ok changed) :
    project.Gains now (.item item) (changed.touch now) := by
  obtain ⟨_, changes, rfl⟩ :=
    (added_ok_iff fun items => { project with items := items }).mp added
  cases changes with
  | add fresh => exact .item fresh

end Gains

namespace Generation

variable {σ α β : Type}

/-! ## Work that is all or nothing -/

/-- The project is as it was when work has ended in a fault; otherwise the result, the project
before and the project after are related. -/
def Ends (relation : α → Project → Project → Prop) (before : Project) :
    EStateM.Result GenerationFault (Desk σ) α → Prop
  | .ok result after => relation result before after.project
  | .error _ after => after.project = before

/-- Work is all or nothing wherever it begins. -/
def AllOrNothing (work : Work σ α) (relation : α → Project → Project → Prop) : Prop :=
  ∀ desk : Desk σ, Ends relation desk.project (work.run desk)

/-- Work leaves the project as it was in any case, and its result has a property. -/
def Keeps (work : Work σ α) (property : α → Prop) : Prop :=
  AllOrNothing work fun result before after => after = before ∧ property result

section Steps

variable {work : Work σ α} {next : α → Work σ β} {property : α → Prop}
  {relation : α → Project → Project → Prop} {whole : β → Project → Project → Prop}

theorem run_bind_ok {desk middle : Desk σ} {result : α}
    (worked : work.run desk = .ok result middle) :
    (work >>= next).run desk = (next result).run middle := by
  simp only [EStateM.run, bind, EStateM.bind] at worked ⊢
  rw [worked]

theorem run_bind_error {desk after : Desk σ} {fault : GenerationFault}
    (failed : work.run desk = .error fault after) :
    (work >>= next).run desk = .error fault after := by
  simp only [EStateM.run, bind, EStateM.bind] at failed ⊢
  rw [failed]

theorem run_get (desk : Desk σ) : (get : Work σ (Desk σ)).run desk = .ok desk desk := rfl

theorem run_set (before after : Desk σ) :
    (set after : Work σ PUnit).run before = .ok ⟨⟩ after := rfl

/-- Work that keeps the project can come before work that is all or nothing. -/
theorem Keeps.bind (keeps : Keeps work property)
    (later : ∀ result, property result → AllOrNothing (next result) whole) :
    AllOrNothing (work >>= next) whole := by
  intro desk
  have first := keeps desk
  cases worked : work.run desk with
  | error fault after =>
    rw [worked] at first
    rw [run_bind_error worked]
    exact first
  | ok result middle =>
    rw [worked] at first
    obtain ⟨same, holds⟩ := first
    have second := later result holds middle
    rw [run_bind_ok worked]
    rwa [same] at second

/-- Work that never ends in a fault can come after work that is all or nothing. -/
theorem AllOrNothing.bind (first : AllOrNothing work relation)
    (later : ∀ result before middle, relation result before middle.project →
      ∃ last after, (next result).run middle = .ok last after ∧ whole last before after.project) :
    AllOrNothing (work >>= next) whole := by
  intro desk
  have ends := first desk
  cases worked : work.run desk with
  | error fault after =>
    rw [worked] at ends
    rw [run_bind_error worked]
    exact ends
  | ok result middle =>
    rw [worked] at ends
    obtain ⟨last, after, finished, related⟩ := later result desk.project middle ends
    rw [run_bind_ok worked, finished]
    exact related

end Steps

/-! ## The steps -/

section Request

variable (generator : Generator) (provider : Provider σ) (kind : ContentKind)
  (description : String)

/-- What is left of a desk after a step of generation. -/
def Desk.after (desk : Desk σ) (step : Step σ α) : Desk σ :=
  { desk with state := step.state, ids := step.ids, delays := desk.delays ++ step.delays }

theorem run_request_ok {desk : Desk σ} {content : Content}
    (asked : (generate generator provider kind description desk.ids desk.state).result =
      .ok content) :
    (request generator provider kind description).run desk =
      .ok content
        (desk.after (generate generator provider kind description desk.ids desk.state)) := by
  rw [request, run_bind_ok (run_get desk), run_bind_ok (run_set desk _), asked]
  rfl

theorem run_request_error {desk : Desk σ} {fault : GenerationFault}
    (asked : (generate generator provider kind description desk.ids desk.state).result =
      .error fault) :
    (request generator provider kind description).run desk =
      .error fault
        (desk.after (generate generator provider kind description desk.ids desk.state)) := by
  rw [request, run_bind_ok (run_get desk), run_bind_ok (run_set desk _), asked]
  rfl

/-- A request leaves the project as it is. -/
theorem request_keeps : Keeps (request generator provider kind description) fun _ => True := by
  intro desk
  cases asked : (generate generator provider kind description desk.ids desk.state).result with
  | error fault =>
    rw [run_request_error generator provider kind description asked]
    rfl
  | ok content =>
    rw [run_request_ok generator provider kind description asked]
    exact ⟨rfl, trivial⟩

end Request

/-- The entity of content is of the kind that was requested, or nothing is done. -/
theorem expect_keeps (content : Content) (kind : ContentKind) :
    Keeps (expect content kind : Work σ Entity) fun entity => entity.kind = kind := by
  intro desk
  unfold expect Content.expect
  by_cases same : content.entity.kind = kind
  · rw [if_pos same]
    exact ⟨rfl, same⟩
  · rw [if_neg same]
    rfl

theorem run_freshen (scene : Scene) (desk : Desk σ) :
    let tries := desk.ids.given.length + desk.project.scenes.length + 1
    (freshen scene).run desk =
      .ok (freshScene desk.project scene desk.ids tries).1
        { desk with ids := (freshScene desk.project scene desk.ids tries).2 } := rfl

/-- New ids leave the project as it is. -/
theorem freshen_keeps (scene : Scene) : Keeps (freshen scene : Work σ Scene) fun _ => True :=
  fun _ => ⟨rfl, trivial⟩

theorem run_edit_ok {change : Project → Except EditError Project} {desk : Desk σ}
    {changed : Project} (done : change desk.project = .ok changed) :
    (edit change).run desk = .ok () { desk with project := changed } := by
  rw [edit, run_bind_ok (run_get desk), done]
  rfl

theorem run_edit_error {change : Project → Except EditError Project} {desk : Desk σ}
    {refusal : EditError} (refused : change desk.project = .error refusal) :
    (edit change).run desk = .error (.edit refusal) desk := by
  rw [edit, run_bind_ok (run_get desk), refused]
  rfl

/-- An edit that is refused leaves the project as it is. -/
theorem edit_allOrNothing (change : Project → Except EditError Project) :
    AllOrNothing (edit change : Work σ Unit) fun _ before after => change before = .ok after := by
  intro desk
  cases changed : change desk.project with
  | ok project =>
    rw [run_edit_ok changed]
    exact changed
  | error refusal =>
    rw [run_edit_error changed]
    rfl

/-- An entity that is placed is gained, once the project has been marked as changed. -/
theorem place_allOrNothing (now : Moment) (entity : Entity) :
    AllOrNothing (place entity : Work σ Entity) fun placed before after =>
      placed.kind = entity.kind ∧ before.Gains now placed (after.touch now) := by
  cases entity with
  | scene scene =>
    refine (freshen_keeps scene).bind fun scene _ =>
      (edit_allOrNothing (·.addScene scene)).bind fun _ before middle added => ?_
    exact ⟨_, middle, rfl, rfl, Project.gains_of_addScene now added⟩
  | character character =>
    refine (edit_allOrNothing (·.addCharacter character)).bind fun _ before middle added => ?_
    exact ⟨_, middle, rfl, rfl, Project.gains_of_addCharacter now added⟩
  | item item =>
    refine (edit_allOrNothing (·.addItem item)).bind fun _ before middle added => ?_
    exact ⟨_, middle, rfl, rfl, Project.gains_of_addItem now added⟩

/-- Generation ends in a fault and leaves the project as it was, or it returns an entity of the
kind that was asked for, which the project has gained. -/
theorem generation_all_or_nothing (generator : Generator) (provider : Provider σ) (now : Moment)
    (kind : ContentKind) (description : String) :
    AllOrNothing (generateAt generator provider now kind description) fun content before after =>
      content.entity.kind = kind ∧ before.Gains now content.entity after := by
  refine (request_keeps generator provider kind description).bind fun content _ =>
    (expect_keeps content kind).bind fun entity isKind =>
      (place_allOrNothing now entity).bind fun placed before middle gained => ?_
  exact ⟨_, _, rfl, gained.1.trans isKind, gained.2⟩

/-! ## The project as a value -/

end Generation

namespace Reply

theorem ofLines_kind {kind : ContentKind} {lines notes : List String} {ids left : IdSource}
    {entity : Entity} (made : ofLines kind lines ids = .ok (entity, notes, left)) :
    entity.kind = kind := by
  cases kind with
  | scene => exact (Prod.mk.inj (Except.ok.inj made)).1 ▸ rfl
  | item => exact (Prod.mk.inj (Except.ok.inj made)).1 ▸ rfl
  | character =>
    rw [ofLines] at made
    cases characters : characterOfLines lines ids with
    | error fault =>
      rw [characters] at made
      cases made
    | ok parts =>
      rw [characters] at made
      exact (Prod.mk.inj (Except.ok.inj made)).1 ▸ rfl

/-- Any reply gives an entity of the kind that is asked for. -/
theorem read_kind (kind : ContentKind) (earlier : List String) (text : String) (ids : IdSource) :
    (read kind earlier text ids).1.entity.kind = kind := by
  have reads := reads_read kind earlier text ids
  generalize read kind earlier text ids = result at reads ⊢
  cases reads with
  | byDefault => cases kind <;> rfl
  | fromObject => cases kind <;> rfl
  | fromLines _ made => exact ofLines_kind made

end Reply

namespace Generation

variable {generator : Generator} {provider : Provider σ} {kind : ContentKind}
  {description : String} {desk : Desk σ}

/-- What is generated is of the kind that is asked for. -/
theorem generate_kind {ids : IdSource} {state : σ} {content : Content}
    (generated : (generate generator provider kind description ids state).result = .ok content) :
    content.entity.kind = kind := by
  unfold generate at generated
  dsimp only at generated
  split at generated
  next => nomatch generated
  next text replied =>
    obtain rfl := Except.ok.inj generated
    exact Reply.read_kind kind [] text ids

/-- What is left of a desk when an edit of its project has been tried. -/
def Desk.edited (desk : Desk σ) (ids : IdSource) :
    Except EditError (α × Project) → EStateM.Result GenerationFault (Desk σ) α
  | .ok (result, project) => .ok result { desk with project := project, ids := ids }
  | .error refusal => .error (.edit refusal) { desk with ids := ids }

/-- An edit that places an entity, and what follows it. -/
theorem run_placed (change : Project → Except EditError Project) (now : Moment)
    (given : Content) (desk : Desk σ) :
    (do
      edit change
      edit fun project => .ok (project.touch now)
      return given : Work σ Content).run desk =
      desk.edited desk.ids
        ((change desk.project).map fun project => (given, project.touch now)) := by
  cases changed : change desk.project with
  | ok project =>
    rw [run_bind_ok (run_edit_ok changed)]
    rfl
  | error refusal =>
    rw [run_bind_error (run_edit_error changed)]
    rfl

theorem run_place (now : Moment) (content : Content) (desk : Desk σ) :
    (do
      let placed ← place content.entity
      edit fun project => .ok (project.touch now)
      return { content with entity := placed } : Work σ Content).run desk =
      desk.edited (addContent desk.project now content desk.ids).2
        (addContent desk.project now content desk.ids).1 := by
  obtain ⟨kind, entity, notes⟩ := content
  cases entity with
  | scene scene =>
    simp only [place, bind_assoc, pure_bind]
    rw [run_bind_ok (run_freshen scene desk), run_placed (·.addScene _)]
    rfl
  | character character =>
    simp only [place, bind_assoc, pure_bind]
    exact run_placed (·.addCharacter character) now ⟨kind, .character character, notes⟩ desk
  | item item =>
    simp only [place, bind_assoc, pure_bind]
    exact run_placed (·.addItem item) now ⟨kind, .item item, notes⟩ desk

/-- What is done at a desk is what is done to its project as a value. -/
theorem run_generateAt (now : Moment) :
    (generateAt generator provider now kind description).run desk =
      let step := generateInto generator provider desk.project now kind description desk.ids
        desk.state
      match step.result with
      | .ok (content, project) => .ok content { desk.after step with project := project }
      | .error fault => .error fault (desk.after step) := by
  dsimp only
  unfold generateAt generateInto
  cases asked : (generate generator provider kind description desk.ids desk.state).result with
  | error fault =>
    rw [run_bind_error (run_request_error generator provider kind description asked)]
    simp only [asked]
    rfl
  | ok content =>
    have isKind : content.expect kind = .ok content.entity := if_pos (generate_kind asked)
    have expected (desk : Desk σ) :
        (expect content kind).run desk = .ok content.entity desk := by
      unfold expect
      rw [isKind]
      rfl
    rw [run_bind_ok (run_request_ok generator provider kind description asked),
      run_bind_ok (expected _), run_place]
    simp only [asked, Desk.after]
    cases (addContent desk.project now content
      (generate generator provider kind description desk.ids desk.state).ids).1 with
    | ok added => rfl
    | error refusal => rfl

end Generation

end Gamebook
