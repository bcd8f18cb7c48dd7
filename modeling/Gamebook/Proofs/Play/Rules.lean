import Gamebook.Proofs.Play.Holdings
import Gamebook.Proofs.Play.Resume

/-!
# The rules of taking a choice

What taking a choice comes to is said here by what the player has, without the store. A consequence
replaces what its key holds by something of the same kind. A batch is admitted when all of it can be
applied and no key is taken for two kinds, by what is held or within the batch. A choice is taken
exactly when the story goes on, the current scene has it, all its conditions hold, its target is
there and its consequences are admitted. Then the player has what the consequences make of it one
after the other, and otherwise the state is given back. Of faults of arithmetic nothing is said.
-/

namespace Gamebook

/-! ## Consequences -/

namespace Consequence

/-- What a consequence makes of what its key holds. Counts are whole, so nothing stays when more is
removed than there is; an amount stays above zero or becomes zero. -/
inductive Makes (consequence : Consequence) : Holding → Holding → Prop
  | setItem {held change : Nat} (kind : consequence.kind = .item)
      (operation : consequence.operation = .set) (value : consequence.value = .int change) :
      Makes consequence (.item held) (.item change)
  | addItem {held change : Nat} (kind : consequence.kind = .item)
      (operation : consequence.operation = .add) (value : consequence.value = .int change) :
      Makes consequence (.item held) (.item (held + change))
  | removeItem {held change : Nat} (kind : consequence.kind = .item)
      (operation : consequence.operation = .remove) (value : consequence.value = .int change) :
      Makes consequence (.item held) (.item (held - change))
  | setAmount {held : Scalar} {isNumber : held.OfKind .attribute}
      (kind : consequence.kind = .attribute) (operation : consequence.operation = .set)
      (value : consequence.value.OfKind .attribute) :
      Makes consequence (.amount held isNumber) (.amount consequence.value value)
  | addAmount {held total : Scalar} {isNumber : held.OfKind .attribute}
      (kind : consequence.kind = .attribute) (operation : consequence.operation = .add)
      (sum : held.add consequence.value = .ok total) :
      Makes consequence (.amount held isNumber)
        (.amount total (Scalar.combine_number sum))
  | removeAmount {held rest : Scalar} {isNumber : held.OfKind .attribute}
      (kind : consequence.kind = .attribute) (operation : consequence.operation = .remove)
      (difference : held.sub consequence.value = .ok rest) :
      Makes consequence (.amount held isNumber)
        (.amount rest.clamp (Scalar.clamp_number (Scalar.combine_number difference)))
  | setFlag {held isSet : Bool} (kind : consequence.kind = .flag)
      (operation : consequence.operation = .set) (value : consequence.value = .bool isSet) :
      Makes consequence (.flag held) (.flag isSet)
  | clearFlag {held : Bool} (kind : consequence.kind = .flag)
      (operation : consequence.operation = .remove) :
      Makes consequence (.flag held) (.flag false)

/-- What a consequence makes is of its kind. -/
theorem Makes.kind_after {consequence : Consequence} {before after : Holding}
    (makes : consequence.Makes before after) : after.kind = consequence.kind := by
  cases makes <;> exact Eq.symm ‹_›

/-- A consequence makes one thing of what its key holds. -/
theorem Makes.unique {consequence : Consequence} {before after other : Holding}
    (makes : consequence.Makes before after) (makesOther : consequence.Makes before other) :
    after = other := by
  cases makes with
  | addAmount _ _ sum =>
    cases makesOther with
    | addAmount _ _ other =>
      cases sum.symm.trans other
      rfl
    | setAmount _ operation | removeAmount _ operation => simp_all
  | removeAmount _ _ difference =>
    cases makesOther with
    | removeAmount _ _ other =>
      cases difference.symm.trans other
      rfl
    | setAmount _ operation | addAmount _ operation => simp_all
  | _ => cases makesOther <;> simp_all

section Applied

variable {consequence : Consequence} {store : Store} {left : Scalar}
  (wellFormed : consequence.WellFormed) (done : consequence.result store.values = .ok left)
include wellFormed done

theorem makes_item (kind : consequence.kind = .item) {held : Nat}
    (current : (store.values.get? consequence.key).getD (.int 0) = .int held) :
    ∃ after, consequence.Makes (.item held) after ∧ after.value = left := by
  obtain ⟨n, isChange, bound⟩ : consequence.value.OfKind .item := by
    simpa [kind] using wellFormed.value
  obtain ⟨change, rfl⟩ := Int.eq_ofNat_of_zero_le bound
  simp only [result, kind, current, count, isChange] at done
  match operation : consequence.operation with
  | .set =>
    simp only [operation] at done
    exact ⟨_, .setItem kind operation isChange, Except.ok.inj done⟩
  | .add =>
    simp only [operation] at done
    exact ⟨_, .addItem kind operation isChange, Except.ok.inj done⟩
  | .remove =>
    simp only [operation] at done
    refine ⟨_, .removeItem kind operation isChange, ?_⟩
    -- Stopping at zero is what the difference of counts does.
    have rest : (Scalar.int (held - change)).clamp = .int (held - change : Nat) := by
      rw [Scalar.clamp_int]
      congr 1
      omega
    change (Scalar.int (held - change)).clamp.toWhole.bind _ = _ at done
    rw [rest] at done
    exact Except.ok.inj done

theorem makes_amount (kind : consequence.kind = .attribute) {held : Scalar}
    (isNumber : held.OfKind .attribute)
    (current : (store.values.get? consequence.key).getD (.int 0) = held) :
    ∃ after, consequence.Makes (.amount held isNumber) after ∧ after.value = left := by
  have isAmount : consequence.value.OfKind .attribute := by simpa [kind] using wellFormed.value
  simp only [result, kind, current, count] at done
  match operation : consequence.operation with
  | .set =>
    simp only [operation] at done
    exact ⟨_, .setAmount kind operation isAmount, Except.ok.inj done⟩
  | .add =>
    simp only [operation] at done
    exact ⟨_, .addAmount kind operation done, rfl⟩
  | .remove =>
    simp only [operation] at done
    obtain ⟨rest, difference, clamped⟩ := Except.map_ok_iff.mp done
    exact ⟨_, .removeAmount kind operation difference, clamped⟩

theorem makes_flag (kind : consequence.kind = .flag) (held : Bool) :
    ∃ after, consequence.Makes (.flag held) after ∧ after.value = left := by
  have value := wellFormed.value
  simp only [result, kind] at done
  match operation : consequence.operation with
  | .set =>
    obtain ⟨isSet, isValue⟩ : consequence.value.OfKind .flag := by
      simpa [kind, operation] using value
    exact ⟨_, .setFlag kind operation isValue,
      by simpa [operation, isValue, Scalar.isTrue, Holding.value] using done⟩
  | .add => exact absurd operation (wellFormed.operation kind)
  | .remove => exact ⟨_, .clearFlag kind operation,
      by simpa [operation, Holding.value] using done⟩

/-- What a consequence that can be applied leaves under a free key is what it makes of the key. -/
theorem makes_of_result {holdings : Holdings} (shows : store.Shows holdings)
    (free : holdings.Free consequence.key consequence.kind) :
    ∃ held, consequence.Makes (holdings.under consequence.key consequence.kind) held ∧
      held.value = left := by
  have sameKind := free.kind_under
  have stored := shows.value_under consequence.key consequence.kind
  cases before : holdings.under consequence.key consequence.kind with
  | item held =>
    rw [before] at sameKind stored
    rw [← sameKind] at stored
    exact makes_item wellFormed done sameKind.symm stored
  | amount held isNumber =>
    rw [before] at sameKind stored
    rw [← sameKind] at stored
    exact makes_amount wellFormed done sameKind.symm isNumber stored
  | flag held =>
    rw [before] at sameKind
    exact makes_flag wellFormed done sameKind.symm held

end Applied

end Consequence

/-- What the player has after some consequences, one after the other. -/
inductive Effects : Holdings → List Consequence → Holdings → Prop
  | none {holdings : Holdings} : Effects holdings [] holdings
  | next {holdings after : Holdings} {consequence : Consequence} {rest : List Consequence}
      {held : Holding}
      (makes : consequence.Makes (holdings.under consequence.key consequence.kind) held)
      (others : Effects (Function.update holdings consequence.key (some held)) rest after) :
      Effects holdings (consequence :: rest) after

/-- The effects of a batch are determined by what the player has before. -/
theorem Effects.unique {holdings after other : Holdings} {consequences : List Consequence}
    (effects : Effects holdings consequences after)
    (otherEffects : Effects holdings consequences other) : after = other := by
  induction effects with
  | none =>
    cases otherEffects
    rfl
  | next makes _ inductionHypothesis =>
    cases otherEffects with
    | next makesOther others =>
      obtain rfl := makes.unique makesOther
      exact inductionHypothesis others

/-- A batch that can be applied to what the player has: each consequence can be, no key is taken
for another kind than what it holds, and none for two kinds within the batch. -/
structure Holdings.Admits (holdings : Holdings) (consequences : List Consequence) : Prop where
  wellFormed : ∀ consequence ∈ consequences, consequence.WellFormed
  free : ∀ consequence ∈ consequences, holdings.Free consequence.key consequence.kind
  agree : consequences.Pairwise fun earlier later =>
    earlier.key = later.key → earlier.kind = later.kind

/-- A batch can be applied exactly when its first consequence can be and the others can be
afterwards: then the key of the first holds something of its kind. -/
theorem Holdings.admits_cons_iff (holdings : Holdings) {consequence : Consequence}
    (rest : List Consequence) {held : Holding} (isKind : held.kind = consequence.kind) :
    holdings.Admits (consequence :: rest) ↔
      consequence.WellFormed ∧ holdings.Free consequence.key consequence.kind ∧
        Admits (Function.update holdings consequence.key (some held)) rest := by
  constructor
  · rintro ⟨wellFormed, free, agree⟩
    obtain ⟨first, others⟩ := List.forall_mem_cons.mp wellFormed
    obtain ⟨firstFree, othersFree⟩ := List.forall_mem_cons.mp free
    obtain ⟨firstAgrees, othersAgree⟩ := List.pairwise_cons.mp agree
    refine ⟨first, firstFree, others, ?_, othersAgree⟩
    intro later inRest there found
    by_cases same : later.key = consequence.key
    · rw [same, Function.update_self] at found
      rw [← Option.some.inj found, isKind]
      exact firstAgrees later inRest same.symm
    · rw [Function.update_of_ne same] at found
      exact othersFree later inRest there found
  · rintro ⟨first, firstFree, others, othersFree, othersAgree⟩
    have firstAgrees : ∀ later ∈ rest, consequence.key = later.key →
        consequence.kind = later.kind := by
      intro later inRest same
      rw [← isKind]
      exact othersFree later inRest held (by rw [← same, Function.update_self])
    refine ⟨List.forall_mem_cons.mpr ⟨first, others⟩, List.forall_mem_cons.mpr ⟨firstFree, ?_⟩,
      List.pairwise_cons.mpr ⟨firstAgrees, othersAgree⟩⟩
    intro later inRest
    by_cases same : consequence.key = later.key
    · rw [← same, ← firstAgrees later inRest same]
      exact firstFree
    · intro there found
      exact othersFree later inRest there (by rwa [Function.update_of_ne (Ne.symm same)])

section Shown

variable {store : Store} {holdings : Holdings} (shows : store.Shows holdings)
include shows

/-- A consequence that does not fail is applied or refused: applied exactly when it is well-formed
and its key free for it, and then what it makes of the key is shown. -/
theorem Consequence.apply_cases {consequence : Consequence} {applied : Applied}
    (done : consequence.apply store = .ok applied) :
    (∃ next held, applied = .store next ∧ consequence.WellFormed ∧
      holdings.Free consequence.key consequence.kind ∧
      consequence.Makes (holdings.under consequence.key consequence.kind) held ∧
      next.Shows (Function.update holdings consequence.key (some held))) ∨
    ((∃ refusal, applied = .refused refusal) ∧
      ¬(consequence.WellFormed ∧ holdings.Free consequence.key consequence.kind)) := by
  have wellFormed_iff := problem?_eq_none_iff consequence
  have free_iff := shows.conflict?_eq_none_iff consequence.key consequence.kind
  cases applied with
  | store next =>
    obtain ⟨fine, noConflict, left, result, rfl⟩ := (apply_store_iff _ _ _).mp done
    have wellFormed := wellFormed_iff.mp fine
    have free := free_iff.mp noConflict
    obtain ⟨held, makes, rfl⟩ := makes_of_result wellFormed result shows free
    refine .inl ⟨_, held, rfl, wellFormed, free, makes, ?_⟩
    rw [← makes.kind_after]
    exact shows.put consequence.key held
  | refused refusal =>
    refine .inr ⟨⟨refusal, rfl⟩, fun ⟨wellFormed, free⟩ => ?_⟩
    unfold apply at done
    rw [wellFormed_iff.mpr wellFormed, free_iff.mpr free] at done
    cases result : consequence.result store.values <;> simp [result, Except.map] at done

/-- So does a whole batch: it is applied exactly when it is admitted, and then its effects are
shown. -/
theorem applyAll_cases {consequences : List Consequence} {applied : Applied}
    (done : applyAll store consequences = .ok applied) :
    (∃ next after, applied = .store next ∧ holdings.Admits consequences ∧
      Effects holdings consequences after ∧ next.Shows after) ∨
    ((∃ refusal, applied = .refused refusal) ∧ ¬holdings.Admits consequences) := by
  induction consequences generalizing store holdings with
  | nil =>
    have same : Applied.store store = applied := by simpa [applyAll] using done
    exact .inl ⟨store, holdings, same.symm, ⟨List.forall_mem_nil _, List.forall_mem_nil _, .nil⟩,
      .none, shows⟩
  | cons consequence rest inductionHypothesis =>
    unfold applyAll at done
    cases first : consequence.apply store with
    | error fault => simp [first] at done
    | ok result =>
      rcases consequence.apply_cases shows first with
        ⟨middle, held, rfl, wellFormed, free, makes, showsMiddle⟩ | ⟨⟨refusal, rfl⟩, unusable⟩
      · have admits_iff := holdings.admits_cons_iff rest makes.kind_after
        simp only [first] at done
        rcases inductionHypothesis showsMiddle done with
          ⟨next, after, isStore, admits, effects, showsNext⟩ | ⟨refused, admitsNot⟩
        · exact .inl ⟨next, after, isStore, admits_iff.mpr ⟨wellFormed, free, admits⟩,
            .next makes effects, showsNext⟩
        · exact .inr ⟨refused, fun admits => admitsNot (admits_iff.mp admits).2.2⟩
      · have refused : Applied.refused refusal = applied := by simpa [first] using done
        exact .inr ⟨⟨refusal, refused.symm⟩, fun admits => unusable
          ⟨admits.wellFormed _ List.mem_cons_self, admits.free _ List.mem_cons_self⟩⟩

end Shown

/-! ## Choices -/

/-- The state that follows one in which a choice is taken: the player has what the consequences make
of the store, the history grows by the choice, and the story moves to the target or ends where it
is. -/
structure PlayerState.Follows (state next : PlayerState) (choice : Choice) (holdings : Holdings) :
    Prop where
  store : ∃ after, Effects holdings choice.consequences after ∧ next.store.Shows after
  history : next.history = state.history ++ [choice.id]
  ends : choice.target = terminalTarget → next.sceneId = state.sceneId ∧ next.status = .ended
  moves : choice.target ≠ terminalTarget → next.sceneId = choice.target ∧ next.status = .active

namespace Project

/-- The rules for taking a choice with what the player has: the story goes on, the current scene has
the choice, its conditions hold, its target is there or needs not be, and its consequences are
admitted. -/
structure Permits (project : Project) (state : PlayerState) (holdings : Holdings)
    (choiceId : String) (choice : Choice) : Prop where
  active : state.status = .active
  offered : ∃ scene, project.scene? state.sceneId = some scene ∧
    scene.choice? choiceId = some choice
  requirements : ∀ condition ∈ choice.requirements, condition.Met holdings
  target : choice.target = terminalTarget ∨ choice.target ∈ project.sceneIds
  consequences : holdings.Admits choice.consequences

theorem reaches_iff (project : Project) (choice : Choice) :
    project.reaches choice = true ↔
      choice.target = terminalTarget ∨ choice.target ∈ project.sceneIds := by
  rw [reaches, Bool.or_eq_true, scene?_isSome_iff, Choice.isTerminal, beq_iff_eq]

/-- The state after a choice follows when its store shows the effects. -/
theorem advance_follows (state : PlayerState) {choice : Choice} {store : Store}
    {holdings after : Holdings} (effects : Effects holdings choice.consequences after)
    (shows : store.Shows after) : state.Follows (advance state choice store) choice holdings := by
  refine ⟨⟨after, effects, shows⟩, rfl, ?_, ?_⟩
  · intro terminal
    simp [advance, Choice.isTerminal, terminal]
  · intro goesOn
    simp [advance, Choice.isTerminal, goesOn]

section Shown

variable {project : Project} {state : PlayerState} {holdings : Holdings}
  (shows : state.store.Shows holdings)
include shows

/-- A choice that an active story offers is taken or refused: taken exactly by the rules. -/
theorem take_cases (active : state.status = .active) {choiceId : String} {choice : Choice}
    (offered : project.currentChoice? state choiceId = some choice)
    {result : Refusal ⊕ PlayerState} (done : project.take state choice = .ok result) :
    (∃ next, result = .inr next ∧ project.Permits state holdings choiceId choice ∧
      state.Follows next choice holdings) ∨
    ((∃ refusal, result = .inl refusal) ∧ ¬project.Permits state holdings choiceId choice) := by
  have met_iff := firstReason?_eq_none_iff shows choice.requirements
  have target_iff := project.reaches_iff choice
  unfold take at done
  cases judged : firstReason? state choice.requirements with
  | error fault => simp [judged] at done
  | ok reason =>
    simp only [judged] at done met_iff
    cases reason with
    | some reason =>
      refine .inr ⟨⟨_, (Except.ok.inj done).symm⟩, fun permits => ?_⟩
      cases met_iff.mpr permits.requirements
    | none =>
      cases reached : project.reaches choice with
      | false =>
        simp only [reached, Bool.not_false, if_true] at done
        refine .inr ⟨⟨_, (Except.ok.inj done).symm⟩, fun permits => ?_⟩
        cases reached.symm.trans (target_iff.mpr permits.target)
      | true =>
        cases applied : applyAll state.store choice.consequences with
        | error fault => simp [reached, applied] at done
        | ok applied' =>
          rcases applyAll_cases shows applied with
            ⟨store, after, rfl, admits, effects, showsAfter⟩ | ⟨⟨refusal, rfl⟩, admitsNot⟩
          · have isNext : Sum.inr (advance state choice store) = result := by
              simpa [reached, applied] using done
            exact .inl ⟨_, isNext.symm,
              ⟨active, Option.bind_eq_some_iff.mp offered, met_iff.mp rfl, target_iff.mp reached,
                admits⟩, advance_follows state effects showsAfter⟩
          · have isRefusal : Sum.inl (Refusal.effect refusal) = result := by
              simpa [reached, applied] using done
            exact .inr ⟨⟨_, isRefusal.symm⟩, fun permits => admitsNot permits.consequences⟩

/-- The choice with an id is taken exactly when some choice with it is permitted. -/
theorem select_rules {choiceId : String} {outcome : Outcome}
    (selected : project.select state choiceId = .ok outcome) :
    (∃ choice next, outcome = .accepted choice next ∧
      project.Permits state holdings choiceId choice ∧ state.Follows next choice holdings) ∨
    ((∃ refusal, outcome = .rejected choiceId refusal state) ∧
      ∀ choice, ¬project.Permits state holdings choiceId choice) := by
  have active_of (goesOn : state.isEnded = false) : state.status = .active := by
    cases status : state.status with
    | active => rfl
    | ended => simp [PlayerState.isEnded, status] at goesOn
  rcases select_cases selected with ⟨choice, next, rfl, goesOn, offered, taken⟩ | ⟨refusal, rfl, why⟩
  · rcases take_cases shows (active_of goesOn) offered taken with
      ⟨next, isNext, permits, follows⟩ | ⟨⟨refusal, isRefusal⟩, -⟩
    · cases isNext
      exact .inl ⟨choice, _, rfl, permits, follows⟩
    · cases isRefusal
  · refine .inr ⟨⟨refusal, rfl⟩, fun choice permits => ?_⟩
    have permitted : project.currentChoice? state choiceId = some choice :=
      Option.bind_eq_some_iff.mpr permits.offered
    rcases why with ⟨ended, -⟩ | ⟨-, stranger, -⟩ | ⟨goesOn, refused, offered, taken⟩
    · simp [PlayerState.isEnded, permits.active] at ended
    · cases stranger.symm.trans permitted
    · obtain rfl := Option.some.inj (offered.symm.trans permitted)
      rcases take_cases shows permits.active offered taken with ⟨_, isNext, -⟩ | ⟨-, permitsNot⟩
      · cases isNext
      · exact permitsNot permits

end Shown

/-- In a typed state a choice is taken exactly by the rules, and the next state follows; one that is
refused gives back the state. -/
theorem select_meets_rules (project : Project) {state : PlayerState}
    (typed : state.store.Typed) :
    ∃ holdings, state.store.Shows holdings ∧
      ∀ choiceId outcome, project.select state choiceId = .ok outcome →
        (outcome.isAccepted = true ↔ ∃ choice, project.Permits state holdings choiceId choice) ∧
        (∀ choice next, outcome = .accepted choice next →
          project.Permits state holdings choiceId choice ∧ state.Follows next choice holdings) ∧
        ∀ id refusal left, outcome = .rejected id refusal left → left = state := by
  obtain ⟨holdings, shows⟩ := typed.shows
  refine ⟨holdings, shows, fun choiceId outcome selected => ?_⟩
  rcases select_rules shows selected with
    ⟨choice, next, rfl, permits, follows⟩ | ⟨⟨refusal, rfl⟩, permitsNot⟩
  · refine ⟨iff_of_true rfl ⟨choice, permits⟩, ?_, nofun⟩
    rintro _ _ ⟨⟩
    exact ⟨permits, follows⟩
  · refine ⟨iff_of_false nofun fun ⟨choice, permits⟩ => permitsNot choice permits, nofun, ?_⟩
    rintro _ _ _ ⟨⟩
    rfl

/-- With the lamp the way down is open and leads below; what the cellar offers is not. -/
theorem select_meets_rules_lamp :
    lampTaken.store.Typed ∧ ∃ holdings, lampTaken.store.Shows holdings ∧
      (∃ down, lampStory.Permits lampTaken holdings "down" down ∧
        lampTaken.Follows lampBelow down holdings) ∧
      ∀ choice, ¬lampStory.Permits lampTaken holdings "rest" choice := by
  have typed : lampTaken.store.Typed := lamp_run.keepsTyped (.reset rfl)
  obtain ⟨holdings, shows, rules⟩ := select_meets_rules lampStory typed
  have taken : lampStory.select lampTaken "down" =
      .ok (.accepted (lampStory.scenes[0].choices[1]) lampBelow) := rfl
  have refused : lampStory.select lampTaken "rest" =
      .ok (.rejected "rest" (.elsewhere "cellar" "hall") lampTaken) := rfl
  refine ⟨typed, holdings, shows, ⟨_, (rules _ _ taken).2.1 _ _ rfl⟩, fun choice permits => ?_⟩
  cases (rules _ _ refused).1.mpr ⟨choice, permits⟩

end Project

end Gamebook
