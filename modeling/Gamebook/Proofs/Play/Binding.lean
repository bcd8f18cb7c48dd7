import Gamebook.Proofs.Play.Resume
import Gamebook.Proofs.Story.Rule

/-!
# Kinds that stay

The kind of a key is written with its first value and never changes. A consequence is applied only
where its key has its kind or none, and it leaves the key with this kind, whether it sets, adds or
removes; so a batch binds all of its keys and keeps every kind that was there, also one that it
wrote itself. A choice that is refused leaves the table as it was. From then on a condition that
takes the key for anything else fails with a reason, and no choice that does so is taken.
-/

namespace Gamebook

/-- Every key that has a kind in one table has the same kind in another. -/
def KeepsKinds (before after : Entries Kind) : Prop :=
  ∀ key kind, before.get? key = some kind → after.get? key = some kind

theorem KeepsKinds.refl (kinds : Entries Kind) : KeepsKinds kinds kinds := fun _ _ bound => bound

theorem KeepsKinds.trans {first second third : Entries Kind} (keeps : KeepsKinds first second)
    (keepsOn : KeepsKinds second third) : KeepsKinds first third :=
  fun key kind bound => keepsOn key kind (keeps key kind bound)

/-! ## Consequences -/

/-- A consequence that is applied binds its key to its kind, and keeps every kind. -/
theorem Consequence.apply_binds {consequence : Consequence} {store next : Store}
    (applied : consequence.apply store = .ok (.store next)) :
    next.kinds.get? consequence.key = some consequence.kind ∧
      KeepsKinds store.kinds next.kinds := by
  obtain ⟨_, free, value, _, rfl⟩ := (apply_store_iff consequence store next).mp applied
  refine ⟨Entries.get?_put_self _ _ _, ?_⟩
  intro key kind bound
  rw [Entries.get?_put]
  by_cases same : consequence.key = key
  · -- A key that the consequence may write has its kind already.
    subst same
    rcases (Condition.conflict?_eq_none_iff _ _ _).mp free with fresh | bound'
    · cases bound.symm.trans fresh
    · rw [if_pos rfl, ← bound', bound]
  · rwa [if_neg same]

/-- A batch that is applied binds every key of its own to the kind it is written as, and keeps every
kind. -/
theorem applyAll_binds {consequences : List Consequence} {store next : Store}
    (applied : applyAll store consequences = .ok (.store next)) :
    (∀ consequence ∈ consequences,
      next.kinds.get? consequence.key = some consequence.kind) ∧
      KeepsKinds store.kinds next.kinds := by
  induction consequences generalizing store with
  | nil =>
    obtain rfl := (applyAll_nil_iff store next).mp applied
    exact ⟨List.forall_mem_nil _, KeepsKinds.refl store.kinds⟩
  | cons consequence rest inductionHypothesis =>
    obtain ⟨middle, first, others⟩ := (applyAll_cons_iff store next consequence rest).mp applied
    obtain ⟨binds, keeps⟩ := Consequence.apply_binds first
    obtain ⟨bindsOthers, keepsOn⟩ := inductionHypothesis others
    exact ⟨List.forall_mem_cons.mpr ⟨keepsOn _ _ binds, bindsOthers⟩, keeps.trans keepsOn⟩

/-! ## Conditions -/

/-- A condition that takes a key for another kind than it has fails, and there is a reason. -/
theorem Condition.reason?_of_bound {condition : Condition} {state : PlayerState} {kind : Kind}
    (bound : state.kinds.get? condition.key = some kind) (other : condition.kind ≠ kind) :
    ∃ reason, condition.reason? state = .ok (some reason) := by
  have conflict : conflict? state.kinds condition.key condition.kind = some kind := by
    simp [conflict?, bound, Option.filter, other.symm]
  unfold reason?
  cases condition.problem? with
  | some problem => exact ⟨.malformed problem, rfl⟩
  | none => exact ⟨.bound condition.key kind condition.kind, by simp only [conflict]⟩

/-- Where conditions all hold, each of them holds. -/
theorem reason?_of_firstReason? {state : PlayerState} {conditions : List Condition}
    (hold : firstReason? state conditions = .ok none) :
    ∀ condition ∈ conditions, condition.reason? state = .ok none := by
  induction conditions with
  | nil => exact List.forall_mem_nil _
  | cons condition rest inductionHypothesis =>
    unfold firstReason? at hold
    split at hold
    · nomatch hold
    · nomatch hold
    · next holds => exact List.forall_mem_cons.mpr ⟨holds, inductionHypothesis hold⟩

/-! ## Runs -/

namespace Project

variable {project : Project}

/-- A choice that is taken keeps every kind. -/
theorem keepsKinds_of_accepted {state next : PlayerState} {choiceId : String} {choice : Choice}
    (selected : project.select state choiceId = .ok (.accepted choice next)) :
    KeepsKinds state.kinds next.kinds := by
  obtain ⟨_, store, _, _, _, _, applied, rfl⟩ := taken_of_accepted selected
  exact (applyAll_binds applied).2

/-- So does every run. -/
theorem Run.keepsKinds {start state : PlayerState} {attempts : List Attempt}
    (run : Run project start attempts state) : KeepsKinds start.kinds state.kinds :=
  run.keeps (fun state => KeepsKinds start.kinds state.kinds) (KeepsKinds.refl start.kinds)
    fun _ _ _ _ keeps selected => keeps.trans (keepsKinds_of_accepted selected)

/-- The rules of a choice that is taken take a key for no other kind than it has. -/
theorem kinds_of_accepted {state next : PlayerState} {choiceId : String} {choice : Choice}
    (selected : project.select state choiceId = .ok (.accepted choice next)) {key : String}
    {kind : Kind} (bound : state.kinds.get? key = some kind) :
    (∀ condition ∈ choice.requirements, condition.key = key → condition.kind = kind) ∧
      ∀ consequence ∈ choice.consequences, consequence.key = key → consequence.kind = kind := by
  obtain ⟨_, _, taken⟩ := (select_accepted_iff _ _ _ _ _).mp selected
  obtain ⟨hold, _, store, applied, _⟩ := (take_accepted_iff _ _ _ _).mp taken
  constructor
  · rintro condition required rfl
    by_contra other
    obtain ⟨reason, fails⟩ := Condition.reason?_of_bound bound other
    cases (reason?_of_firstReason? hold condition required).symm.trans fails
  · rintro consequence inChoice rfl
    obtain ⟨binds, keeps⟩ := applyAll_binds applied
    exact Option.some.inj ((binds consequence inChoice).symm.trans (keeps _ _ bound))

/-- Once a key has a kind in a run, it has this kind in every later state of the run, with a value
of the kind; there a condition that takes it for another kind fails, and no choice with such a rule
is taken. -/
theorem kinds_permanent {start middle final : PlayerState} (begins : project.Begins start)
    {earlier later : List Attempt} (run : Run project start (earlier ++ later) final)
    (reached : Run project start earlier middle) {key : String} {kind : Kind}
    (bound : middle.kinds.get? key = some kind) :
    final.kinds.get? key = some kind ∧
      (∃ x, final.values.get? key = some x ∧ x.OfKind kind) ∧
      (∀ condition : Condition, condition.key = key → condition.kind ≠ kind →
        ∃ reason, condition.reason? final = .ok (some reason)) ∧
      ∀ choiceId choice next, project.select final choiceId = .ok (.accepted choice next) →
        (∀ condition ∈ choice.requirements, condition.key = key → condition.kind = kind) ∧
        ∀ consequence ∈ choice.consequences, consequence.key = key → consequence.kind = kind := by
  have stays : final.kinds.get? key = some kind := (run.behind reached).keepsKinds key kind bound
  refine ⟨stays, (run.keepsTyped begins).typed key kind stays, ?_, ?_⟩
  · rintro condition rfl other
    exact Condition.reason?_of_bound stays other
  · intro choiceId choice next selected
    exact kinds_of_accepted selected stays

/-- Courage stops at zero when the lamp is taken, halfway through the batch. Down in the cellar, and
after a choice that is refused there, it is an attribute still and no flag that is not set. -/
theorem kinds_permanent_lamp :
    lampStory.Begins { sceneId := "hall" } ∧
      Run lampStory { sceneId := "hall" }
        (lampAttempts ++ lampDescent (lampStory.scenes[0].choices[1])) lampBelow ∧
      Run lampStory { sceneId := "hall" } lampAttempts lampTaken ∧
      lampTaken.kinds.get? "courage" = some .attribute ∧
      lampBelow.kinds.get? "courage" = some .attribute ∧
      ∃ reason, Condition.reason? ⟨.flag, "courage", .equal, .bool false⟩ lampBelow =
        .ok (some reason) := by
  have begins : lampStory.Begins { sceneId := "hall" } := .reset rfl
  have descent : Run lampStory lampTaken (lampDescent (lampStory.scenes[0].choices[1])) lampBelow :=
    .attempt "take" (.rejected "take" (.elsewhere "hall" "cellar") lampBelow)
      (.attempt "down" (.accepted (lampStory.scenes[0].choices[1]) lampBelow) .begin rfl) rfl
  have run := lamp_run.append descent
  have bound : lampTaken.kinds.get? "courage" = some .attribute := by decide
  obtain ⟨stays, _, fails, _⟩ := kinds_permanent begins run lamp_run bound
  exact ⟨begins, run, lamp_run, bound, stays, fails _ rfl (by decide)⟩

end Project

end Gamebook
