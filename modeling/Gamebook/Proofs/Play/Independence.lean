import Gamebook.Proofs.Play.Kinds

/-!
# Batches that speak of different keys

A consequence reads and writes the value and the kind of its own key and nothing else. So a batch
leaves the keys that it does not name, and what it does to those that it names depends on these
alone. Two batches without a common key may therefore be applied in either order, or one after the
other in two steps: what is accepted one way is accepted the other way, and each key holds the same.
Only the order in which new keys are written differs. The store need not be typed. A fault of
arithmetic hides a refusal that comes behind it, so of refusals something is said only where neither
order faults.
-/

namespace Gamebook

variable {store other next : Store}

/-! ## What a batch reads and writes -/

namespace Store

/-- Two stores have the same value and the same kind under a key. -/
structure AgreeAt (store other : Store) (key : String) : Prop where
  values : store.values.get? key = other.values.get? key
  kinds : store.kinds.get? key = other.kinds.get? key

/-- Two stores are the same maps. -/
def Same (store other : Store) : Prop := ∀ key, store.AgreeAt other key

theorem AgreeAt.symm {key : String} (agree : store.AgreeAt other key) :
    other.AgreeAt store key := ⟨agree.values.symm, agree.kinds.symm⟩

theorem AgreeAt.trans {key : String} (agree : store.AgreeAt other key)
    (agreeOn : other.AgreeAt next key) : store.AgreeAt next key :=
  ⟨agree.values.trans agreeOn.values, agree.kinds.trans agreeOn.kinds⟩

end Store

namespace Consequence

variable {consequence : Consequence}

/-- A consequence that is applied writes no key but its own. -/
theorem apply_frame (applied : consequence.apply store = .ok (.store next)) {key : String}
    (unnamed : consequence.key ≠ key) : next.AgreeAt store key := by
  obtain ⟨_, _, value, _, rfl⟩ := (apply_store_iff consequence store next).mp applied
  constructor <;> rw [Entries.get?_put, if_neg unnamed]

/-- It reads no key but its own: where another store agrees at this key, it does the same there. -/
theorem apply_congr (agree : store.AgreeAt other consequence.key)
    (applied : consequence.apply store = .ok (.store next)) :
    ∃ left, consequence.apply other = .ok (.store left) ∧ next.AgreeAt left consequence.key := by
  obtain ⟨usable, free, value, done, rfl⟩ := (apply_store_iff consequence store next).mp applied
  have freeToo : Condition.conflict? other.kinds consequence.key consequence.kind = none := by
    rwa [Condition.conflict?, ← agree.kinds]
  have doneToo : consequence.result other.values = .ok value := by
    rwa [result, ← agree.values]
  refine ⟨_, (apply_store_iff consequence other _).mpr ⟨usable, freeToo, value, doneToo, rfl⟩, ?_⟩
  constructor <;> simp only [Entries.get?_put_self]

end Consequence

/-- A batch that is applied leaves the keys that it does not name. -/
theorem applyAll_frame {consequences : List Consequence}
    (applied : applyAll store consequences = .ok (.store next)) {key : String}
    (unnamed : ∀ consequence ∈ consequences, consequence.key ≠ key) : next.AgreeAt store key := by
  induction consequences generalizing store with
  | nil =>
    obtain rfl := (applyAll_nil_iff store next).mp applied
    exact ⟨rfl, rfl⟩
  | cons consequence rest inductionHypothesis =>
    obtain ⟨middle, first, others⟩ := (applyAll_cons_iff store next consequence rest).mp applied
    obtain ⟨elsewhere, othersElsewhere⟩ := List.forall_mem_cons.mp unnamed
    exact (inductionHypothesis others othersElsewhere).trans
      (Consequence.apply_frame first elsewhere)

/-- Where another store agrees at all keys that a batch names, the batch does the same there. -/
theorem applyAll_congr {consequences : List Consequence}
    (agree : ∀ consequence ∈ consequences, store.AgreeAt other consequence.key)
    (applied : applyAll store consequences = .ok (.store next)) :
    ∃ left, applyAll other consequences = .ok (.store left) ∧
      ∀ consequence ∈ consequences, next.AgreeAt left consequence.key := by
  induction consequences generalizing store other with
  | nil => exact ⟨other, rfl, List.forall_mem_nil _⟩
  | cons consequence rest inductionHypothesis =>
    obtain ⟨middle, first, others⟩ := (applyAll_cons_iff store next consequence rest).mp applied
    obtain ⟨here, agreeOthers⟩ := List.forall_mem_cons.mp agree
    obtain ⟨middleToo, firstToo, agreeHere⟩ := Consequence.apply_congr here first
    -- The first consequence writes the same under its key, and keeps every other agreement.
    have agreeAfter (key : String) (before : store.AgreeAt other key) :
        middle.AgreeAt middleToo key := by
      by_cases same : consequence.key = key
      · exact same ▸ agreeHere
      · exact (Consequence.apply_frame first same).trans
          (before.trans (Consequence.apply_frame firstToo same).symm)
    obtain ⟨left, othersToo, agreed⟩ := inductionHypothesis
      (fun later member => agreeAfter later.key (agreeOthers later member)) others
    refine ⟨left, (applyAll_cons_iff _ _ _ _).mpr ⟨middleToo, firstToo, othersToo⟩,
      List.forall_mem_cons.mpr ⟨?_, agreed⟩⟩
    by_cases again : ∃ later ∈ rest, later.key = consequence.key
    · obtain ⟨later, member, same⟩ := again
      exact same ▸ agreed later member
    · have unnamed : ∀ later ∈ rest, later.key ≠ consequence.key :=
        fun later member same => again ⟨later, member, same⟩
      exact (applyAll_frame others unnamed).trans
        (agreeHere.trans (applyAll_frame othersToo unnamed).symm)

/-! ## Two batches -/

/-- A batch in two parts is applied by applying the one and then the other. -/
theorem applyAll_append_iff (store next : Store) (first second : List Consequence) :
    applyAll store (first ++ second) = .ok (.store next) ↔
      ∃ middle, applyAll store first = .ok (.store middle) ∧
        applyAll middle second = .ok (.store next) := by
  induction first generalizing store with
  | nil => simp [applyAll_nil_iff]
  | cons consequence rest inductionHypothesis =>
    simp only [List.cons_append, applyAll_cons_iff, inductionHypothesis]
    constructor
    · rintro ⟨begun, applied, middle, others, last⟩
      exact ⟨middle, ⟨begun, applied, others⟩, last⟩
    · rintro ⟨middle, ⟨begun, applied, others⟩, last⟩
      exact ⟨begun, applied, middle, others, last⟩

/-- Two batches name no key in common. -/
def Apart (first second : List Consequence) : Prop :=
  ∀ one ∈ first, ∀ other ∈ second, one.key ≠ other.key

theorem Apart.symm {first second : List Consequence} (apart : Apart first second) :
    Apart second first := fun one member other inFirst => (apart other inFirst one member).symm

/-- Batches without a common key are also applied in the other order, and each key holds the same:
of the two batches only one has written it, and it did so from what the store held at first. -/
theorem applyAll_swap {first second : List Consequence} (apart : Apart first second)
    (applied : applyAll store (first ++ second) = .ok (.store next)) :
    ∃ swapped, applyAll store (second ++ first) = .ok (.store swapped) ∧ next.Same swapped := by
  obtain ⟨afterFirst, firstApplied, secondOn⟩ := (applyAll_append_iff _ _ _ _).mp applied
  have firstKeeps (later) (member : later ∈ second) : afterFirst.AgreeAt store later.key :=
    applyAll_frame firstApplied fun one inFirst => apart one inFirst later member
  obtain ⟨afterSecond, secondApplied, agreeSecond⟩ := applyAll_congr firstKeeps secondOn
  have secondKeeps (one) (member : one ∈ first) : store.AgreeAt afterSecond one.key :=
    (applyAll_frame secondApplied fun later inSecond =>
      apart.symm later inSecond one member).symm
  obtain ⟨swapped, firstOn, agreeFirst⟩ := applyAll_congr secondKeeps firstApplied
  refine ⟨swapped, (applyAll_append_iff _ _ _ _).mpr ⟨afterSecond, secondApplied, firstOn⟩, ?_⟩
  intro key
  by_cases inFirst : ∃ one ∈ first, one.key = key
  · obtain ⟨one, member, rfl⟩ := inFirst
    exact (applyAll_frame secondOn fun later inSecond => apart.symm later inSecond one member).trans
      (agreeFirst one member)
  · have notFirst : ∀ one ∈ first, one.key ≠ key :=
      fun one member same => inFirst ⟨one, member, same⟩
    have firstLeaves := (applyAll_frame firstOn notFirst).symm
    by_cases inSecond : ∃ later ∈ second, later.key = key
    · obtain ⟨later, member, rfl⟩ := inSecond
      exact (agreeSecond later member).trans firstLeaves
    · have notSecond : ∀ later ∈ second, later.key ≠ key :=
        fun later member same => inSecond ⟨later, member, same⟩
      have untouched : next.AgreeAt store key :=
        (applyAll_frame secondOn notSecond).trans (applyAll_frame firstApplied notFirst)
      exact untouched.trans ((applyAll_frame secondApplied notSecond).symm.trans firstLeaves)

/-- What two batches without a common key are worth on a store. -/
structure Independent (store : Store) (first second : List Consequence) : Prop where
  /-- When neither order faults, both are refused or neither is. -/
  refused : ∀ one other, applyAll store (first ++ second) = .ok one →
    applyAll store (second ++ first) = .ok other →
    ((∃ refusal, one = .refused refusal) ↔ ∃ refusal, other = .refused refusal)
  /-- What is accepted in one order is accepted in the other, and gives the same maps. -/
  swapped : ∀ next, applyAll store (first ++ second) = .ok (.store next) →
    ∃ swapped, applyAll store (second ++ first) = .ok (.store swapped) ∧ next.Same swapped
  /-- A key that neither names keeps its value and its kind. -/
  unnamed : ∀ next, applyAll store (first ++ second) = .ok (.store next) →
    ∀ key, (∀ consequence ∈ first ++ second, consequence.key ≠ key) → next.AgreeAt store key
  /-- The single batch gives what the two give one after the other. -/
  parts : ∀ next, applyAll store (first ++ second) = .ok (.store next) ↔
    ∃ middle, applyAll store first = .ok (.store middle) ∧
      applyAll middle second = .ok (.store next)

/-- Batches without a common key are independent on every store. -/
theorem batches_independent (store : Store) {first second : List Consequence}
    (apart : Apart first second) : Independent store first second where
  refused := by
    intro one other done doneSwapped
    cases one with
    | store next =>
      obtain ⟨swapped, accepted, _⟩ := applyAll_swap apart done
      obtain rfl := Except.ok.inj (accepted.symm.trans doneSwapped)
      exact iff_of_false nofun nofun
    | refused refusal =>
      cases other with
      | store next =>
        obtain ⟨_, accepted, _⟩ := applyAll_swap apart.symm doneSwapped
        cases accepted.symm.trans done
      | refused swapped => exact iff_of_true ⟨refusal, rfl⟩ ⟨swapped, rfl⟩
  swapped := fun _ => applyAll_swap apart
  unnamed := fun _ applied _ => applyAll_frame applied
  parts := fun next => applyAll_append_iff store next first second

/-- Taking the lamp and using up oil may be done in either order, though the new keys are then
written in another one. -/
theorem batches_independent_lamp :
    let lamp : List Consequence := [⟨.item, "lamp", .int 2, .add⟩, ⟨.flag, "lit", .bool true, .set⟩]
    let oil : List Consequence := [⟨.item, "oil", .int 3, .set⟩, ⟨.item, "oil", .int 5, .remove⟩]
    let store : Store := ⟨[("lamp", .int 1)], [("lamp", .item)]⟩
    Apart lamp oil ∧ Independent store lamp oil ∧
      applyAll store (lamp ++ oil) = .ok (.store
        ⟨[("lamp", .int 3), ("lit", .bool true), ("oil", .int 0)],
          [("lamp", .item), ("lit", .flag), ("oil", .item)]⟩) ∧
      applyAll store (oil ++ lamp) = .ok (.store
        ⟨[("lamp", .int 3), ("oil", .int 0), ("lit", .bool true)],
          [("lamp", .item), ("oil", .item), ("lit", .flag)]⟩) := by
  have apart : Apart [⟨.item, "lamp", .int 2, .add⟩, ⟨.flag, "lit", .bool true, .set⟩]
      [⟨.item, "oil", .int 3, .set⟩, ⟨.item, "oil", .int 5, .remove⟩] := by
    unfold Apart
    decide
  exact ⟨apart, batches_independent _ apart, rfl, rfl⟩

end Gamebook
