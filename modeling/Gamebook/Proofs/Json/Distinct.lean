import Gamebook.Proofs.Entries
import Gamebook.Proofs.Json.Parts

/-!
# Values whose objects have distinct names

A value in memory has no object with two members of one name; only the text of a
document can spell such an object. Merging leaves a value with distinct names as it
is, and whatever it is given, it makes the names distinct.
-/

namespace Gamebook.Value

mutual

/-- No object of the value has two members with one name, at any depth. -/
def Distinct : Value → Prop
  | .list items => DistinctItems items
  | .object members => (Entries.keys members).Nodup ∧ DistinctMembers members
  | _ => True

/-- The items have distinct names inside. -/
def DistinctItems : List Value → Prop
  | [] => True
  | item :: rest => Distinct item ∧ DistinctItems rest

/-- The values of the members have distinct names inside. -/
def DistinctMembers : List (String × Value) → Prop
  | [] => True
  | (_, value) :: rest => Distinct value ∧ DistinctMembers rest

end

/-- Every value that a lookup finds has distinct names. -/
theorem distinct_of_get? {members : Entries Value} (distinct : DistinctMembers members)
    {name : String} {value : Value} (found : members.get? name = some value) :
    Distinct value := by
  induction members with
  | nil => exact absurd found (by simp)
  | cons member rest inductionHypothesis =>
    obtain ⟨k, v⟩ := member
    rw [Entries.get?_cons] at found
    split at found
    next => exact Option.some.inj found ▸ distinct.1
    next => exact inductionHypothesis distinct.2 found

theorem distinctItems_iff (items : List Value) :
    DistinctItems items ↔ ∀ item ∈ items, item.Distinct := by
  induction items with
  | nil => simp [DistinctItems]
  | cons item rest inductionHypothesis => simp [DistinctItems, inductionHypothesis]

theorem distinctMembers_iff (members : List (String × Value)) :
    DistinctMembers members ↔ ∀ member ∈ members, member.2.Distinct := by
  induction members with
  | nil => simp [DistinctMembers]
  | cons member rest inductionHypothesis =>
    obtain ⟨name, value⟩ := member
    simp [DistinctMembers, inductionHypothesis]

theorem mergedItems_eq (items : List Value) : mergedItems items = items.map merged := by
  induction items with
  | nil => rfl
  | cons item rest inductionHypothesis => rw [mergedItems, inductionHypothesis, List.map_cons]

theorem mergedMembers_eq (members : List (String × Value)) :
    mergedMembers members = members.map fun (name, value) => (name, value.merged) := by
  induction members with
  | nil => rfl
  | cons member rest inductionHypothesis =>
    obtain ⟨name, value⟩ := member
    rw [mergedMembers, inductionHypothesis, List.map_cons]

/-- Merging leaves a value with distinct names as it is. -/
theorem merged_eq {value : Value} (distinct : value.Distinct) : value.merged = value := by
  induction value using partsInduction with
  | list items inductionHypothesis =>
    rw [Distinct, distinctItems_iff] at distinct
    rw [merged, mergedItems_eq]
    have same : items.map merged = items.map id :=
      List.map_congr_left fun item member => inductionHypothesis item member (distinct item member)
    rw [same, List.map_id]
  | object members inductionHypothesis =>
    obtain ⟨names, values⟩ := distinct
    rw [distinctMembers_iff] at values
    have same : (members.map fun (name, value) => (name, value.merged)) = members.map id := by
      refine List.map_congr_left fun member isMember => ?_
      exact Prod.ext rfl (inductionHypothesis member isMember (values member isMember))
    rw [merged, mergedMembers_eq, same, List.map_id, Entries.ofPairs_of_nodup names]
  | _ => rfl

end Gamebook.Value
