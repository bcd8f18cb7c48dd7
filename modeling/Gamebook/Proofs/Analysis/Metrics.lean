import Gamebook.Analysis.Metrics
import Gamebook.Proofs.Play.SavedState
import Gamebook.Proofs.Text.Order

/-!
# What players hold and what the metrics list

The metrics list the items that some consequence adds or sets and the flags that some
consequence speaks about, wherever in the project it stands. Play keeps to these lists: a count
only grows from zero by adding or setting, since removing stops at zero, and a key that is
bound as a flag was bound by a consequence on a flag. A key that is bound as something else is
neither held nor set. So an item that is asked for and never granted is never held.
-/

namespace Gamebook

/-- Where every entry of a list is read without fault, so is the list, and what holds of the
reading of each entry holds of all that is read. -/
theorem exists_mapM_ok {α β ε : Type} {read : α → Except ε β} {Good : β → Prop} {entries : List α}
    (each : ∀ entry ∈ entries, ∃ result, read entry = .ok result ∧ Good result) :
    ∃ results, entries.mapM read = .ok results ∧ ∀ result ∈ results, Good result := by
  induction entries with
  | nil => exact ⟨[], rfl, by simp⟩
  | cons entry rest inductionHypothesis =>
    obtain ⟨⟨result, first, good⟩, later⟩ := List.forall_mem_cons.mp each
    obtain ⟨results, others, allGood⟩ := inductionHypothesis later
    refine ⟨result :: results, ?_, List.forall_mem_cons.mpr ⟨good, allGood⟩⟩
    simp only [List.mapM_cons, first, others]
    rfl

/-! ## Reading a typed store -/

/-- A key is bound as an item and there are some of it. -/
structure Store.Holds (store : Store) (key : String) (count : Int) : Prop where
  bound : store.kinds.get? key = some .item
  value : store.values.get? key = some (.int count)
  positive : 0 < count

namespace PlayerState

variable {state : PlayerState}

/-- An item is counted without fault, and there are none of it unless it is held. -/
theorem itemCount_ok (typed : state.store.Typed) (key : String) :
    ∃ count, state.itemCount key = .ok count ∧ (count = 0 ∨ state.store.Holds key count) := by
  match bound : state.kinds.get? key with
  | none =>
    have noValue : state.values.get? key = none := typed.noValue bound
    exact ⟨0, by simp [itemCount, allows, valueOr, bound, noValue, Scalar.toWhole], .inl rfl⟩
  | some .item =>
    obtain ⟨_, value, count, rfl, atLeast⟩ := typed.typed key .item bound
    have counted : state.itemCount key = .ok count := by
      have value : state.values.get? key = some (.int count) := value
      simp [itemCount, allows, valueOr, bound, value, Scalar.toWhole]
    rcases Int.lt_or_eq_of_le atLeast with positive | zero
    · exact ⟨count, counted, .inr ⟨bound, value, positive⟩⟩
    · exact ⟨count, counted, .inl zero.symm⟩
  | some .attribute => exact ⟨0, by simp [itemCount, allows, bound], .inl rfl⟩
  | some .flag => exact ⟨0, by simp [itemCount, allows, bound], .inl rfl⟩

/-- The inventory is read without fault, and everything in it is held. -/
theorem inventory_ok (typed : state.store.Typed) :
    ∃ held, state.inventory = .ok held ∧
      ∀ item ∈ held, state.store.Holds item.1 item.2 := by
  apply exists_mapM_ok
  rintro ⟨key, value⟩ member
  obtain ⟨stored, wanted⟩ := List.mem_filter.mp ((List.mergeSort_perm _ _).mem_iff.mp member)
  obtain ⟨isItem, isMore⟩ := (Bool.and_eq_true _ _).mp wanted
  have bound : state.kinds.get? key = some .item := eq_of_beq isItem
  have held : state.values.get? key = some value := Entries.get?_of_mem typed.values stored
  obtain ⟨_, found, count, rfl, _⟩ := typed.typed key .item bound
  obtain rfl : value = .int count := Option.some.inj (held.symm.trans found)
  exact ⟨(key, count), rfl, bound, held, (Scalar.isLess_int 0 count).mp isMore⟩

/-- A flag that is set is a key that is bound as a flag. -/
theorem bound_of_flag (typed : state.store.Typed) {key : String} (set : state.flag key = true) :
    state.kinds.get? key = some .flag := by
  obtain ⟨allowed, isTrue⟩ := (Bool.and_eq_true _ _).mp set
  cases bound : state.kinds.get? key with
  | none =>
    have noValue : state.values.get? key = none := typed.noValue bound
    exact absurd isTrue (by simp [valueOr, noValue, Scalar.isTrue])
  | some kind =>
    have isFlag : kind = .flag := by simpa [allows, bound] using allowed
    rw [isFlag]

end PlayerState

/-! ## Where holdings come from -/

/-- What removing an item leaves: the difference of two counts, or zero. -/
theorem Consequence.result_of_removed {consequence : Consequence} {values : Entries Scalar}
    (isItem : consequence.kind = .item) (isRemoved : consequence.operation = .remove)
    {amount change : Int} (current : consequence.current values = .int amount)
    (value : consequence.value = .int change) :
    consequence.result values = .ok (.int (max 0 (amount - change))) := by
  have counted : consequence.count (consequence.current values) =
      .ok (.int (max 0 (amount - change))) := by
    rw [current, count, isRemoved, value]
    exact congrArg Except.ok (Scalar.clamp_int (amount - change))
  unfold result
  rw [isItem]
  change (consequence.count (consequence.current values)).bind _ = _
  rw [counted]
  rfl

namespace Store

variable {store next : Store} {consequence : Consequence}

/-- Removing leaves some of an item only where some of it was held. -/
theorem Typed.holds_of_removed (typed : store.Typed)
    (isItem : consequence.kind = .item) (isRemoved : consequence.operation = .remove)
    (wellFormed : consequence.problem? = none)
    (free : Condition.conflict? store.kinds consequence.key consequence.kind = none)
    {count : Int} (done : consequence.result store.values = .ok (.int count))
    (positive : 0 < count) : ∃ before, store.Holds consequence.key before := by
  obtain ⟨change, value, atLeast⟩ : consequence.value.OfKind .item :=
    isItem ▸ Consequence.value_ofKind wellFormed (by simp [isItem])
  obtain ⟨amount, current, _⟩ : (consequence.current store.values).OfKind .item := by
    simpa [isItem] using typed.current free
  rw [Consequence.result_of_removed isItem isRemoved current value] at done
  have left : max 0 (amount - change) = count := Scalar.int.inj (Except.ok.inj done)
  have held : 0 < amount := by omega
  rcases (Condition.conflict?_eq_none_iff _ _ _).mp free with fresh | bound
  · have zero : consequence.current store.values = .int 0 := by
      simp [Consequence.current, typed.noValue fresh]
    obtain rfl : amount = 0 := Scalar.int.inj (current.symm.trans zero)
    exact absurd held (Int.lt_irrefl 0)
  · rw [isItem] at bound
    obtain ⟨stored, found, _⟩ := typed.typed _ _ bound
    obtain rfl : stored = .int amount := by simpa [Consequence.current, found] using current
    exact ⟨amount, bound, found, held⟩

/-- A store that some consequences account for: it is typed, one of them grants each item that
is held, and one of them is about each flag. -/
structure AccountedBy (store : Store) (consequences : List Consequence) : Prop where
  typed : store.Typed
  items : ∀ key count, store.Holds key count →
    ∃ consequence ∈ consequences, Metrics.grantedBy consequence = some key
  flags : ∀ key, store.kinds.get? key = some .flag →
    ∃ consequence ∈ consequences, Metrics.flagOf consequence = some key

/-- A consequence that is applied leaves a store accounted for if it is among those that
account for it. -/
theorem AccountedBy.apply {consequences : List Consequence}
    (accounted : store.AccountedBy consequences) (member : consequence ∈ consequences)
    (applied : consequence.apply store = .ok (.store next)) : next.AccountedBy consequences := by
  have typed : next.Typed := accounted.typed.apply applied
  obtain ⟨wellFormed, free, value, done, rfl⟩ :=
    (Consequence.apply_store_iff consequence store next).mp applied
  refine ⟨typed, ?_, ?_⟩
  · rintro key count ⟨bound, held, positive⟩
    rw [Entries.get?_put] at bound held
    by_cases same : consequence.key = key
    · rw [if_pos same, Option.some.injEq] at bound held
      by_cases isRemoved : consequence.operation = .remove
      · obtain ⟨before, holds⟩ := accounted.typed.holds_of_removed bound isRemoved wellFormed free
          (held ▸ done) positive
        exact accounted.items key before (same ▸ holds)
      · exact ⟨consequence, member, by simp [Metrics.grantedBy, bound, isRemoved, same]⟩
    · rw [if_neg same] at bound held
      exact accounted.items key count ⟨bound, held, positive⟩
  · intro key bound
    rw [Entries.get?_put] at bound
    by_cases same : consequence.key = key
    · rw [if_pos same, Option.some.injEq] at bound
      exact ⟨consequence, member, by simp [Metrics.flagOf, bound, same]⟩
    · rw [if_neg same] at bound
      exact accounted.flags key bound

/-- So does a batch of them. -/
theorem AccountedBy.applyAll {consequences batch : List Consequence}
    (accounted : store.AccountedBy consequences) (members : batch ⊆ consequences)
    (applied : Gamebook.applyAll store batch = .ok (.store next)) :
    next.AccountedBy consequences := by
  induction batch generalizing store with
  | nil => exact (applyAll_nil_iff store next).mp applied ▸ accounted
  | cons consequence rest inductionHypothesis =>
    obtain ⟨member, later⟩ := List.cons_subset.mp members
    obtain ⟨middle, first, others⟩ := (applyAll_cons_iff store next consequence rest).mp applied
    exact inductionHypothesis (accounted.apply member first) later others

end Store

namespace Project

/-- All consequences of all choices. -/
def consequences (project : Project) : List Consequence :=
  (project.scenes.flatMap (·.choices)).flatMap (·.consequences)

variable {project : Project}

/-- The granted items of the metrics are those that some consequence grants. -/
theorem mem_granted_iff (project : Project) (key : String) :
    key ∈ (Metrics.report project).granted ↔
      ∃ consequence ∈ project.consequences, Metrics.grantedBy consequence = some key := by
  simp only [Metrics.report, mem_sortedSet, List.mem_filterMap, consequences]

/-- The flags of the metrics are those that some consequence is about. -/
theorem mem_flags_iff (project : Project) (key : String) :
    key ∈ (Metrics.report project).flags ↔
      ∃ consequence ∈ project.consequences, Metrics.flagOf consequence = some key := by
  simp only [Metrics.report, mem_sortedSet, List.mem_filterMap, consequences]

/-- A choice of a scene has consequences of the project. -/
theorem consequences_subset {scene : Scene} (inProject : scene ∈ project.scenes)
    {choice : Choice} (inScene : choice ∈ scene.choices) :
    choice.consequences ⊆ project.consequences := fun _ member =>
  List.mem_flatMap.mpr ⟨choice, List.mem_flatMap.mpr ⟨scene, inProject, inScene⟩, member⟩

/-- The consequences of a project account for the store of every run from its start. -/
theorem Run.accounted {start state : PlayerState} {attempts : List Attempt}
    (started : project.reset = .ok start) (run : Run project start attempts state) :
    state.store.AccountedBy project.consequences := by
  refine run.keeps (fun state => state.store.AccountedBy project.consequences) ?_ ?_
  · obtain ⟨scene, _, rfl⟩ := (reset_ok_iff project start).mp started
    exact ⟨Store.typed_empty, fun _ _ holds => (nomatch holds.bound), fun _ bound => nomatch bound⟩
  · intro before choiceId choice next accounted selected
    obtain ⟨scene, store, here, inScene, _, _, applied, rfl⟩ := taken_of_accepted selected
    exact accounted.applyAll (consequences_subset (mem_of_scene? here) inScene) applied

/-- Whatever is held at some point of a run from the start of a story is granted according to
the metrics, and whatever flag is set is among their flags; an item that is asked for and never
granted is never held. -/
theorem run_within_metrics {start state : PlayerState} {attempts : List Attempt}
    (started : project.reset = .ok start) (run : Run project start attempts state) :
    (∃ held, state.inventory = .ok held ∧
        ∀ item ∈ held, item.1 ∈ (Metrics.report project).granted) ∧
      (∀ key, state.flag key = true → key ∈ (Metrics.report project).flags) ∧
      ∀ key ∈ (Metrics.report project).missing, state.itemCount key = .ok 0 := by
  have accounted := run.accounted started
  have granted {key : String} {count : Int} (holds : state.store.Holds key count) :
      key ∈ (Metrics.report project).granted :=
    (mem_granted_iff project key).mpr (accounted.items key count holds)
  refine ⟨?_, ?_, ?_⟩
  · obtain ⟨held, read, holds⟩ := PlayerState.inventory_ok accounted.typed
    exact ⟨held, read, fun item member => granted (holds item member)⟩
  · intro key set
    have bound := PlayerState.bound_of_flag accounted.typed set
    exact (mem_flags_iff project key).mpr (accounted.flags key bound)
  · intro key missing
    obtain ⟨_, never⟩ := List.mem_filter.mp missing
    obtain ⟨count, counted, rfl | holds⟩ := PlayerState.itemCount_ok accounted.typed key
    · exact counted
    · exact absurd (granted holds) (by simpa using never)

/-- The lamp is held and lit, as the metrics say it can be. -/
theorem run_within_metrics_lamp :
    lampStory.reset = .ok { sceneId := "hall" } ∧
      Run lampStory { sceneId := "hall" } lampAttempts lampTaken ∧
      (∃ held, lampTaken.inventory = .ok held ∧
        ∀ item ∈ held, item.1 ∈ (Metrics.report lampStory).granted) ∧
      lampTaken.flag "lit" = true ∧ "lit" ∈ (Metrics.report lampStory).flags := by
  have started : lampStory.reset = .ok { sceneId := "hall" } := rfl
  obtain ⟨held, flags, _⟩ := run_within_metrics started lamp_run
  have lit : lampTaken.flag "lit" = true := by decide
  exact ⟨started, lamp_run, held, lit, flags "lit" lit⟩

end Project

end Gamebook
