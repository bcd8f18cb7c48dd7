import Gamebook.Proofs.Analysis.Metrics
import Gamebook.Proofs.Number.Overflow
import Gamebook.Proofs.Play.Validated

/-!
# Where play faults

Play answers every display and every choice but for two faults of arithmetic. A reason quotes
the numbers that were compared, and a whole number with too many digits cannot be quoted; and an
attribute that is added to or removed from cannot combine a float with a whole number that is
beyond all floats. Here it is said exactly when a playthrough meets the one or the other.
Validation looks at each number alone, so valid projects meet both.
-/

namespace Gamebook

/-! ## Conditions -/

namespace Condition

/-- What a condition on a number compares its value with. -/
inductive Compares (condition : Condition) (state : PlayerState) : Scalar → Prop
  | item (count : Int) (isItem : condition.kind = .item)
      (counted : state.itemCount condition.key = .ok count) : Compares condition state (.int count)
  | attribute (isAttribute : condition.kind = .attribute) :
      Compares condition state (state.attributeValue condition.key)

/-- A condition can be judged and does not hold, but one of the two numbers that its reason would
quote has too many digits. -/
structure Untellable (condition : Condition) (state : PlayerState) : Prop where
  wellFormed : condition.problem? = none
  free : conflict? state.kinds condition.key condition.kind = none
  unquotable : ∃ current, condition.Compares state current ∧
    condition.operator.holds current condition.value = false ∧
    ¬(condition.value.Quotable ∧ current.Quotable)

variable {condition : Condition} {state : PlayerState}

theorem compare_error_iff (condition : Condition) (current : Scalar) (fault : NumberFault) :
    condition.compare current = .error fault ↔
      fault = .digitsToWrite ∧ condition.operator.holds current condition.value = false ∧
        ¬(condition.value.Quotable ∧ current.Quotable) := by
  unfold compare
  cases condition.operator.holds current condition.value with
  | true => simp
  | false =>
    rcases condition.value.text_cases with ⟨valueTold, needed, shown⟩ | ⟨untold, failed⟩
    · rcases current.text_cases with ⟨told, have_, shownToo⟩ | ⟨untold, failed⟩
      · simp [shown, shownToo, valueTold, told]
      · simp [shown, failed, untold, eq_comm]
    · simp [failed, untold, eq_comm]

/-- In a typed store a condition on a number is judged by comparing one number, and a condition on
a flag is judged without comparing any. -/
theorem judge_cases (typed : state.store.Typed) (condition : Condition) :
    (∃ current, (∀ other, condition.Compares state other ↔ other = current) ∧
      condition.judge state = condition.compare current) ∨
    ((∀ other, ¬condition.Compares state other) ∧
      ∃ reason, condition.judge state = .ok reason) := by
  match kind : condition.kind with
  | .item =>
    obtain ⟨count, counted, _⟩ := PlayerState.itemCount_ok typed condition.key
    refine .inl ⟨.int count, fun other => ⟨?_, ?_⟩, by simp [judge, kind, counted]⟩
    · rintro (⟨other, _, countedToo⟩ | isAttribute)
      · rw [Except.ok.inj (counted.symm.trans countedToo)]
      · cases kind.symm.trans isAttribute
    · rintro rfl
      exact .item count kind counted
  | .attribute =>
    refine .inl ⟨state.attributeValue condition.key, fun other => ⟨?_, ?_⟩, by simp [judge, kind]⟩
    · rintro (⟨other, isItem, _⟩ | _)
      · cases kind.symm.trans isItem
      · rfl
    · rintro rfl
      exact .attribute kind
  | .flag =>
    refine .inr ⟨?_, _, by simp only [judge, kind]; rfl⟩
    rintro _ (⟨_, isItem, _⟩ | isAttribute)
    · cases kind.symm.trans isItem
    · cases kind.symm.trans isAttribute

/-- In a typed store nothing else goes wrong with a condition. -/
theorem reason?_error_iff (typed : state.store.Typed) (condition : Condition)
    (fault : NumberFault) : condition.reason? state = .error fault ↔
      fault = .digitsToWrite ∧ condition.Untellable state := by
  unfold reason?
  cases wellFormed : condition.problem? with
  | some problem =>
    refine iff_of_false nofun fun untellable => ?_
    cases wellFormed.symm.trans untellable.2.wellFormed
  | none =>
    cases free : conflict? state.kinds condition.key condition.kind with
    | some holds =>
      refine iff_of_false nofun fun untellable => ?_
      cases free.symm.trans untellable.2.free
    | none =>
      rcases judge_cases typed condition with ⟨current, only, judged⟩ | ⟨none, reason, judged⟩
      · simp only [judged, compare_error_iff]
        refine and_congr_right fun _ => ⟨fun unquotable => ?_, ?_⟩
        · exact ⟨wellFormed, free, current, (only current).mpr rfl, unquotable⟩
        · rintro ⟨_, _, other, compares, unquotable⟩
          exact (only other).mp compares ▸ unquotable
      · simp only [judged]
        refine iff_of_false nofun ?_
        rintro ⟨_, _, _, other, compares, _⟩
        exact none other compares

end Condition

/-- Before any other of some conditions that does not hold comes one whose reason cannot be
told. -/
def Untold (state : PlayerState) (conditions : List Condition) : Prop :=
  ∃ before condition after, conditions = before ++ condition :: after ∧
    (∀ other ∈ before, other.reason? state = .ok none) ∧ condition.Untellable state

section Typed

variable {state : PlayerState} (typed : state.store.Typed)

include typed

theorem firstReason?_error_iff (conditions : List Condition) (fault : NumberFault) :
    firstReason? state conditions = .error fault ↔
      fault = .digitsToWrite ∧ Untold state conditions := by
  induction conditions with
  | nil =>
    refine iff_of_false nofun ?_
    rintro ⟨_, before, condition, after, none, _⟩
    simp at none
  | cons condition rest inductionHypothesis =>
    have here := condition.reason?_error_iff typed
    unfold firstReason?
    cases judged : condition.reason? state with
    | error other =>
      obtain ⟨rfl, untellable⟩ := (here other).mp judged
      have untold : Untold state (condition :: rest) :=
        ⟨[], condition, rest, rfl, List.forall_mem_nil _, untellable⟩
      simp [untold, eq_comm]
    | ok reason =>
      have tellable : ¬condition.Untellable state := by
        intro untellable
        cases judged.symm.trans ((here _).mpr ⟨rfl, untellable⟩)
      have later : Untold state (condition :: rest) ↔
          condition.reason? state = .ok none ∧ Untold state rest := by
        constructor
        · rintro ⟨before, other, after, same, met, untellable⟩
          cases before with
          | nil =>
            obtain ⟨rfl, _⟩ := List.cons.inj same
            exact absurd untellable tellable
          | cons first before =>
            obtain ⟨rfl, others⟩ := List.cons.inj same
            obtain ⟨firstMet, othersMet⟩ := List.forall_mem_cons.mp met
            exact ⟨firstMet, before, other, after, others, othersMet, untellable⟩
        · rintro ⟨firstMet, before, other, after, rfl, met, untellable⟩
          exact ⟨condition :: before, other, after, rfl,
            List.forall_mem_cons.mpr ⟨firstMet, met⟩, untellable⟩
      cases reason with
      | some reason => simp [later, judged]
      | none => simpa [later, judged] using inductionHypothesis

theorem displayFrom_error_iff (index : Nat) (choices : List Choice) (fault : NumberFault) :
    Project.displayFrom state index choices = .error fault ↔
      fault = .digitsToWrite ∧ ∃ choice ∈ choices, Untold state choice.requirements := by
  induction choices generalizing index with
  | nil => simp [Project.displayFrom]
  | cons choice rest inductionHypothesis =>
    have here := firstReason?_error_iff typed choice.requirements
    have later := inductionHypothesis (index + 1)
    unfold Project.displayFrom
    cases judged : firstReason? state choice.requirements with
    | error other =>
      obtain ⟨rfl, untold⟩ := (here other).mp judged
      simp [untold, eq_comm]
    | ok reason =>
      have told : ¬Untold state choice.requirements := by
        intro untold
        cases judged.symm.trans ((here _).mpr ⟨rfl, untold⟩)
      cases displayed : Project.displayFrom state (index + 1) rest with
      | error other => simpa [displayed, told] using later
      | ok entries => simpa [displayed, told] using later

end Typed

/-! ## Consequences -/

/-- A consequence can be applied but for its numbers: one is a float, and the other is a whole
number beyond all floats. -/
structure Consequence.Overflows (consequence : Consequence) (store : Store) : Prop where
  wellFormed : consequence.problem? = none
  free : Condition.conflict? store.kinds consequence.key consequence.kind = none
  isAttribute : consequence.kind = .attribute
  counts : consequence.operation ≠ .set
  clash : (consequence.current store.values).Clash consequence.value

/-- After the consequences before it were applied, one of some consequences overflows. -/
def OverflowsAmid (store : Store) (consequences : List Consequence) : Prop :=
  ∃ before consequence after middle, consequences = before ++ consequence :: after ∧
    applyAll store before = .ok (.store middle) ∧ consequence.Overflows middle

namespace Consequence

variable {consequence : Consequence} {values : Entries Scalar}

/-- Counts are counted without fault. -/
theorem result_item_ok (isItem : consequence.kind = .item) {amount change : Int}
    (current : consequence.current values = .int amount) (value : consequence.value = .int change) :
    ∃ n, consequence.result values = .ok (.int n) := by
  have counted : ∃ n, consequence.count (consequence.current values) = .ok (.int n) := by
    rw [current, count, value]
    cases consequence.operation with
    | set => exact ⟨change, rfl⟩
    | add => exact ⟨amount + change, rfl⟩
    | remove => exact ⟨_, congrArg Except.ok (Scalar.clamp_int (amount - change))⟩
  obtain ⟨n, counted⟩ := counted
  refine ⟨n, ?_⟩
  unfold result
  rw [isItem]
  change (consequence.count (consequence.current values)).bind _ = _
  rw [counted]
  rfl

theorem count_error_iff (consequence : Consequence) (current : Scalar) (fault : NumberFault) :
    consequence.count current = .error fault ↔
      fault = .beyondFloat ∧ consequence.operation ≠ .set ∧ current.Clash consequence.value := by
  unfold count
  cases consequence.operation with
  | set => simp
  | add => simp [Scalar.add, Scalar.combine_error_iff]
  | remove => simp [Scalar.sub, Except.map_error_iff, Scalar.combine_error_iff]

/-- In a typed store nothing else goes wrong with a consequence. -/
theorem apply_error_iff {store : Store} (typed : store.Typed) (consequence : Consequence)
    (fault : NumberFault) : consequence.apply store = .error fault ↔
      fault = .beyondFloat ∧ consequence.Overflows store := by
  unfold apply
  cases wellFormed : consequence.problem? with
  | some problem =>
    refine iff_of_false nofun fun overflows => ?_
    cases wellFormed.symm.trans overflows.2.wellFormed
  | none =>
    cases free : Condition.conflict? store.kinds consequence.key consequence.kind with
    | some holds =>
      refine iff_of_false nofun fun overflows => ?_
      cases free.symm.trans overflows.2.free
    | none =>
      simp only [Except.map_error_iff]
      match kind : consequence.kind with
      | .item =>
        obtain ⟨change, value, _⟩ : consequence.value.OfKind .item :=
          kind ▸ value_ofKind wellFormed (by simp [kind])
        obtain ⟨amount, current, _⟩ : (consequence.current store.values).OfKind .item := by
          simpa [kind] using typed.current free
        obtain ⟨n, done⟩ := result_item_ok kind current value
        rw [done]
        refine iff_of_false nofun fun overflows => ?_
        cases kind.symm.trans overflows.2.isAttribute
      | .attribute =>
        have counts : consequence.result store.values =
            consequence.count (consequence.current store.values) := by
          rw [result, kind]
          rfl
        rw [counts, count_error_iff]
        exact and_congr_right fun _ => ⟨fun both => ⟨wellFormed, free, kind, both.1, both.2⟩,
          fun overflows => ⟨overflows.counts, overflows.clash⟩⟩
      | .flag =>
        simp only [result, kind]
        refine iff_of_false nofun fun overflows => ?_
        cases kind.symm.trans overflows.2.isAttribute

end Consequence

theorem applyAll_error_iff {store : Store} (typed : store.Typed)
    (consequences : List Consequence) (fault : NumberFault) :
    applyAll store consequences = .error fault ↔
      fault = .beyondFloat ∧ OverflowsAmid store consequences := by
  induction consequences generalizing store with
  | nil =>
    refine iff_of_false nofun ?_
    rintro ⟨_, before, consequence, after, middle, none, _⟩
    simp at none
  | cons consequence rest inductionHypothesis =>
    have here := consequence.apply_error_iff typed
    unfold applyAll
    cases applied : consequence.apply store with
    | error other =>
      obtain ⟨rfl, overflows⟩ := (here other).mp applied
      have amid : OverflowsAmid store (consequence :: rest) :=
        ⟨[], consequence, rest, store, rfl, rfl, overflows⟩
      simp [amid, eq_comm]
    | ok result =>
      have fits : ¬consequence.Overflows store := by
        intro overflows
        cases applied.symm.trans ((here _).mpr ⟨rfl, overflows⟩)
      have later : OverflowsAmid store (consequence :: rest) ↔
          ∃ next, result = .store next ∧ OverflowsAmid next rest := by
        constructor
        · rintro ⟨before, other, after, middle, same, done, overflows⟩
          cases before with
          | nil =>
            obtain ⟨rfl, _⟩ := List.cons.inj same
            obtain rfl := Applied.store.inj (Except.ok.inj done)
            exact absurd overflows fits
          | cons first before =>
            obtain ⟨rfl, others⟩ := List.cons.inj same
            rw [applyAll, applied] at done
            cases result with
            | refused refusal => cases done
            | store next => exact ⟨next, rfl, before, other, after, middle, others, done, overflows⟩
        · rintro ⟨next, rfl, before, other, after, middle, rfl, done, overflows⟩
          refine ⟨consequence :: before, other, after, middle, rfl, ?_, overflows⟩
          rw [applyAll, applied]
          exact done
      cases result with
      | refused refusal => simp [later]
      | store next => simpa [later] using inductionHypothesis (typed.apply applied)

/-! ## Play -/

namespace Project

variable {project : Project} {state : PlayerState}

theorem take_error_iff (typed : state.store.Typed) (choice : Choice) (fault : NumberFault) :
    project.take state choice = .error fault ↔
      (fault = .digitsToWrite ∧ Untold state choice.requirements) ∨
        (fault = .beyondFloat ∧ firstReason? state choice.requirements = .ok none ∧
          project.reaches choice = true ∧ OverflowsAmid state.store choice.consequences) := by
  have requirements := firstReason?_error_iff typed choice.requirements
  unfold take
  cases judged : firstReason? state choice.requirements with
  | error other =>
    obtain ⟨rfl, untold⟩ := (requirements other).mp judged
    constructor
    · intro same
      exact .inl ⟨(Except.error.inj same).symm, untold⟩
    · rintro (⟨rfl, _⟩ | ⟨_, met, _⟩)
      · rfl
      · cases met
  | ok reason =>
    have told : ¬Untold state choice.requirements := by
      intro untold
      cases judged.symm.trans ((requirements _).mpr ⟨rfl, untold⟩)
    cases reason with
    | some reason => simp [told]
    | none =>
      cases reached : project.reaches choice with
      | false => simp [told]
      | true =>
        have consequences := applyAll_error_iff typed choice.consequences fault
        cases applied : applyAll state.store choice.consequences with
        | error other => simpa [told, applied] using consequences
        | ok result =>
          rw [applied] at consequences
          cases result <;> simpa [told] using consequences

/-- Every run from the start of a story keeps a typed store. -/
theorem Run.typed {start : PlayerState} {attempts : List Attempt}
    (started : project.reset = .ok start) (run : Run project start attempts state) :
    state.store.Typed := run.keepsTyped (.reset started)

/-- Wherever play is, the choices are displayed unless a reason cannot be told, and a choice is
taken or refused unless the story goes on, the current scene has it, and either its reason
cannot be told or its requirements hold and one of its consequences overflows. -/
theorem play_faults_iff {start : PlayerState} {attempts : List Attempt}
    (started : project.reset = .ok start) (run : Run project start attempts state) :
    (∀ fault, project.display state none = .error fault ↔
      fault = .digitsToWrite ∧ ∃ scene, project.currentScene? state = some scene ∧
        ∃ choice ∈ scene.choices, Untold state choice.requirements) ∧
    ∀ choiceId fault, project.select state choiceId = .error fault ↔
      state.isEnded = false ∧ ∃ choice, project.currentChoice? state choiceId = some choice ∧
        ((fault = .digitsToWrite ∧ Untold state choice.requirements) ∨
          (fault = .beyondFloat ∧ firstReason? state choice.requirements = .ok none ∧
            project.reaches choice = true ∧
            OverflowsAmid state.store choice.consequences)) := by
  have typed := run.typed started
  constructor
  · intro fault
    unfold display
    cases here : project.currentScene? state with
    | none => simp
    | some scene => simpa using displayFrom_error_iff typed 0 scene.choices fault
  · intro choiceId fault
    unfold select
    cases ended : state.isEnded with
    | true => simp
    | false =>
      cases found : project.currentChoice? state choiceId with
      | none => simp
      | some choice =>
        simp only [Bool.false_eq_true, if_false, Except.map_error_iff, take_error_iff typed,
          Option.some.injEq, true_and, exists_eq_left']

/-- A valid story in which one half is written under a key and a whole number beyond all floats is
removed from it. -/
def duelStory : Project where
  id := "duel"
  name := "The Duel"
  created := lampStory.created
  updated := lampStory.updated
  scenes :=
    [{ id := "ring", title := "Ring"
       choices :=
         [{ id := "graze", text := "Be grazed", target := "ring"
            consequences := [⟨.attribute, "pain", .float (.ofDecimal false 5 1 (-1)), .set⟩] },
          { id := "heal", text := "Be healed", target := "ring"
            consequences := [⟨.attribute, "pain", .int (10 ^ 400), .remove⟩] }] }]

/-- The duel after the graze. -/
def duelGrazed : PlayerState where
  sceneId := "ring"
  values := [("pain", .float (.ofDecimal false 5 1 (-1)))]
  kinds := [("pain", .attribute)]
  history := ["graze"]

theorem duel_run : Run duelStory { sceneId := "ring" }
    [⟨"graze", .accepted (duelStory.scenes[0].choices[0]) duelGrazed⟩] duelGrazed :=
  .attempt "graze" (.accepted (duelStory.scenes[0].choices[0]) duelGrazed) .begin rfl

/-- The healing overflows, and so the choice cannot be answered. -/
theorem play_faults_iff_duel :
    duelStory.reset = .ok { sceneId := "ring" } ∧
      Run duelStory { sceneId := "ring" }
        [⟨"graze", .accepted (duelStory.scenes[0].choices[0]) duelGrazed⟩] duelGrazed ∧
      OverflowsAmid duelGrazed.store (duelStory.scenes[0].choices[1]).consequences ∧
      duelStory.select duelGrazed "heal" = .error .beyondFloat := by
  have started : duelStory.reset = .ok { sceneId := "ring" } := rfl
  have overflows : OverflowsAmid duelGrazed.store (duelStory.scenes[0].choices[1]).consequences :=
    ⟨[], _, [], duelGrazed.store, rfl, rfl, by decide, by decide, rfl, by decide, by
      show Binary64.reach ≤ (10 ^ 400 : Int).natAbs
      decide +kernel⟩
  refine ⟨started, duel_run, overflows, ?_⟩
  rw [(play_faults_iff started duel_run).2]
  exact ⟨rfl, _, rfl, .inr ⟨rfl, rfl, by decide, overflows⟩⟩

/-- A valid project and a run from its start after which a choice has no answer. -/
theorem duel_breaks_off :
    (Validation.report duelStory).isValid = true ∧
      duelStory.reset = .ok { sceneId := "ring" } ∧
      Run duelStory { sceneId := "ring" }
        [⟨"graze", .accepted (duelStory.scenes[0].choices[0]) duelGrazed⟩] duelGrazed ∧
      ¬∃ outcome, duelStory.select duelGrazed "heal" = .ok outcome := by
  have valid : Validation.Structured duelStory := by
    constructor <;> decide +kernel
  have failed : duelStory.select duelGrazed "heal" = .error .beyondFloat := by decide +kernel
  refine ⟨(Validation.isValid_iff duelStory).mpr valid, rfl, duel_run, ?_⟩
  rintro ⟨outcome, answered⟩
  cases failed.symm.trans answered

end Project

end Gamebook
