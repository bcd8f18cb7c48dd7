import Mathlib.Logic.Function.Basic
import Gamebook.Proofs.Story.Rule

/-!
# What the player has

A typed store shows what the player has: under each key nothing, some of an item, the amount of an
attribute, or a flag that is set or not. A condition holds of what the player has when it can be
judged, its key holds nothing of another kind, and what the key holds compares as demanded; a key
that holds nothing counts as nothing of the kind asked for. Judging a condition follows this rule
exactly: it is the only way not to have a reason against it.
-/

namespace Gamebook

/-- What a key holds: some of an item, the amount of an attribute, or a flag that is set or not. -/
inductive Holding
  | item (count : Nat)
  | amount (number : Scalar) (isNumber : number.OfKind .attribute)
  | flag (isSet : Bool)

namespace Holding

/-- What it is a holding of. -/
def kind : Holding → Kind
  | .item _ => .item
  | .amount _ _ => .attribute
  | .flag _ => .flag

/-- The scalar that stands for it in a store. -/
def value : Holding → Scalar
  | .item count => .int count
  | .amount number _ => number
  | .flag isSet => .bool isSet

/-- Nothing of a kind: no item, an attribute of zero, a flag that is not set. -/
def nothing : Kind → Holding
  | .item => .item 0
  | .attribute => .amount (.int 0) (.inl ⟨0, rfl⟩)
  | .flag => .flag false

theorem kind_nothing (kind : Kind) : (nothing kind).kind = kind := by cases kind <;> rfl

/-- Every scalar of a kind stands for a holding of the kind. -/
theorem exists_of_ofKind {kind : Kind} {x : Scalar} (isOfKind : x.OfKind kind) :
    ∃ held : Holding, held.kind = kind ∧ held.value = x := by
  match kind, isOfKind with
  | .item, ⟨n, isCount, bound⟩ =>
    exact ⟨.item n.toNat, rfl, by rw [isCount, value, Int.toNat_of_nonneg bound]⟩
  | .attribute, isNumber => exact ⟨.amount x isNumber, rfl, rfl⟩
  | .flag, ⟨b, isBool⟩ => exact ⟨.flag b, rfl, isBool.symm⟩

end Holding

/-- Everything that the player has, by key. -/
abbrev Holdings := String → Option Holding

/-- What a key holds for a rule of a kind. -/
def Holdings.under (holdings : Holdings) (key : String) (kind : Kind) : Holding :=
  (holdings key).getD (.nothing kind)

/-- A rule of a kind may speak of a key that holds nothing yet or something of the kind. -/
def Holdings.Free (holdings : Holdings) (key : String) (kind : Kind) : Prop :=
  ∀ held, holdings key = some held → held.kind = kind

/-- What a free key holds has the kind. -/
theorem Holdings.Free.kind_under {holdings : Holdings} {key : String} {kind : Kind}
    (free : holdings.Free key kind) : (holdings.under key kind).kind = kind := by
  unfold under
  cases found : holdings key with
  | none => exact Holding.kind_nothing kind
  | some held => exact free held found

/-- A store has each of the holdings under its key, with its kind and its value, and nothing
else. -/
structure Store.Shows (store : Store) (holdings : Holdings) : Prop where
  kinds : ∀ key, store.kinds.get? key = (holdings key).map Holding.kind
  values : ∀ key, store.values.get? key = (holdings key).map Holding.value

/-- A typed store shows some holdings. -/
theorem Store.Typed.shows {store : Store} (typed : store.Typed) :
    ∃ holdings, store.Shows holdings := by
  have each (key : String) : ∃ held : Option Holding,
      store.kinds.get? key = held.map Holding.kind ∧
        store.values.get? key = held.map Holding.value := by
    cases bound : store.kinds.get? key with
    | none => exact ⟨none, rfl, typed.noValue bound⟩
    | some kind =>
      obtain ⟨x, found, isOfKind⟩ := typed.typed key kind bound
      obtain ⟨held, isKind, isValue⟩ := Holding.exists_of_ofKind isOfKind
      exact ⟨some held, by rw [Option.map_some, isKind], by rw [found, Option.map_some, isValue]⟩
  obtain ⟨holdings, shown⟩ := Classical.skolem.mp each
  exact ⟨holdings, fun key => (shown key).1, fun key => (shown key).2⟩

section Shown

variable {store : Store} {holdings : Holdings} (shows : store.Shows holdings)
include shows

/-- A key conflicts with no kind that it is free for. -/
theorem Store.Shows.conflict?_eq_none_iff (key : String) (kind : Kind) :
    Condition.conflict? store.kinds key kind = none ↔ holdings.Free key kind := by
  rw [Condition.conflict?_eq_none_iff, shows.kinds, Holdings.Free]
  cases holdings key <;> simp

/-- The stored value of a key is that of what it holds; where it holds nothing, any value of
nothing may be asked for instead. -/
theorem Store.Shows.value_under (key : String) (kind : Kind) :
    (store.values.get? key).getD (Holding.nothing kind).value = (holdings.under key kind).value := by
  rw [shows.values, Holdings.under]
  cases holdings key <;> rfl

/-- Writing something under a key is shown under this key alone. -/
theorem Store.Shows.put (key : String) (held : Holding) :
    Store.Shows ⟨store.values.put key held.value, store.kinds.put key held.kind⟩
      (Function.update holdings key (some held)) := by
  constructor <;> intro other <;> simp only [Entries.get?_put, Function.update_apply]
  · by_cases same : key = other
    · simp [same]
    · simpa [same, Ne.symm same] using shows.kinds other
  · by_cases same : key = other
    · simp [same]
    · simpa [same, Ne.symm same] using shows.values other

end Shown

/-! ## Conditions -/

namespace Condition

/-- A condition holds of what the player has: it can be judged, its key holds nothing of another
kind, and what the key holds compares as demanded. -/
structure Met (condition : Condition) (holdings : Holdings) : Prop where
  wellFormed : condition.WellFormed
  free : holdings.Free condition.key condition.kind
  compares : condition.operator.holds (holdings.under condition.key condition.kind).value
    condition.value = true

theorem compare_eq_none_iff (condition : Condition) (current : Scalar) :
    condition.compare current = .ok none ↔
      condition.operator.holds current condition.value = true := by
  unfold compare
  cases condition.operator.holds current condition.value with
  | true => simp
  | false => cases condition.value.text <;> cases current.text <;> simp

/-- Truth values are the same number exactly when they are the same. -/
theorem holds_equal_bool (a b : Bool) :
    Operator.equal.holds (.bool a) (.bool b) = true ↔ a = b := by
  cases a <;> cases b <;> decide

variable {state : PlayerState} {holdings : Holdings} (shows : state.store.Shows holdings)
include shows

/-- A key may be asked for the kind that it is free for. -/
theorem allows_of_free {key : String} {kind : Kind} (free : holdings.Free key kind) :
    state.allows key kind = true := by
  have kinds : state.kinds.get? key = _ := shows.kinds key
  unfold PlayerState.allows
  rw [kinds]
  cases found : holdings key with
  | none => rfl
  | some held => simp [free held found]

/-- A condition that can be judged of a key that is free for it holds exactly when what the key
holds compares as demanded. -/
theorem judge_eq_none_iff {condition : Condition} (wellFormed : condition.WellFormed)
    (free : holdings.Free condition.key condition.kind) :
    condition.judge state = .ok none ↔ condition.operator.holds
      (holdings.under condition.key condition.kind).value condition.value = true := by
  have allowed := allows_of_free shows free
  have stored : state.valueOr condition.key (Holding.nothing condition.kind).value = _ :=
    shows.value_under condition.key condition.kind
  have sameKind := free.kind_under
  cases held : holdings.under condition.key condition.kind with
  | item count =>
    rw [held] at sameKind stored
    have kind : condition.kind = .item := sameKind.symm
    rw [kind] at allowed stored
    have counted : state.itemCount condition.key = .ok (count : Int) := by
      rw [PlayerState.itemCount, if_pos allowed]
      exact congrArg Scalar.toWhole stored
    simp only [judge, kind, counted]
    exact compare_eq_none_iff condition (.int count)
  | amount number isNumber =>
    rw [held] at sameKind stored
    have kind : condition.kind = .attribute := sameKind.symm
    rw [kind] at allowed stored
    have sized : state.attributeValue condition.key = number := by
      rw [PlayerState.attributeValue, if_pos allowed]
      exact stored
    simp only [judge, kind, sized]
    exact compare_eq_none_iff condition number
  | flag isSet =>
    rw [held] at sameKind stored
    have kind : condition.kind = .flag := sameKind.symm
    rw [kind] at allowed stored
    have isFlag : state.flag condition.key = isSet := by
      rw [PlayerState.flag, allowed, Bool.true_and]
      exact congrArg Scalar.isTrue stored
    have equality : condition.operator = .equal := by
      by_contra other
      exact wellFormed.operator ⟨kind, other⟩
    obtain ⟨expected, isExpected⟩ : condition.value.OfKind .flag := by
      simpa [kind] using wellFormed.value
    simp only [judge, kind, isFlag, equality, isExpected, Holding.value, Scalar.isTrue,
      holds_equal_bool]
    by_cases same : isSet = expected <;> simp [same]

/-- A condition is judged to hold exactly when it holds of what the player has. -/
theorem reason?_eq_none_iff (condition : Condition) :
    condition.reason? state = .ok none ↔ condition.Met holdings := by
  have free := shows.conflict?_eq_none_iff condition.key condition.kind
  unfold reason?
  cases problem : condition.problem? with
  | some problem =>
    refine iff_of_false nofun fun met => ?_
    cases problem.symm.trans ((problem?_eq_none_iff condition).mpr met.wellFormed)
  | none =>
    have wellFormed := (problem?_eq_none_iff condition).mp problem
    cases conflict : conflict? state.kinds condition.key condition.kind with
    | some holds =>
      refine iff_of_false nofun fun met => ?_
      cases conflict.symm.trans (free.mpr met.free)
    | none =>
      have isFree := free.mp conflict
      refine (judge_eq_none_iff shows wellFormed isFree).trans ?_
      exact ⟨fun compares => ⟨wellFormed, isFree, compares⟩, fun met => met.compares⟩

end Condition

/-- Conditions are judged to hold together exactly when each of them holds. -/
theorem firstReason?_eq_none_iff {state : PlayerState} {holdings : Holdings}
    (shows : state.store.Shows holdings) (conditions : List Condition) :
    firstReason? state conditions = .ok none ↔
      ∀ condition ∈ conditions, condition.Met holdings := by
  induction conditions with
  | nil => simp [firstReason?]
  | cons condition rest inductionHypothesis =>
    rw [List.forall_mem_cons, ← condition.reason?_eq_none_iff shows, ← inductionHypothesis]
    cases judged : condition.reason? state with
    | error fault => simp [firstReason?, judged]
    | ok reason => cases reason <;> simp [firstReason?, judged]

end Gamebook
