import Gamebook.Entries

/-!
# Laws of entries

Writing or erasing a key changes the answer for that key and for no other, and a key that is
written again keeps its place. A lookup finds nothing exactly when the key is not
among the keys; where no key comes twice, it finds exactly the pairs that are there.
The first answer is preferred otherwise, so most laws need no distinct keys.
-/

namespace Gamebook.Entries

variable {α β : Type}

@[simp] theorem get?_nil (key : String) : get? ([] : Entries α) key = none := rfl

@[simp] theorem get?_cons (k key : String) (v : α) (rest : Entries α) :
    get? ((k, v) :: rest) key = if k = key then some v else get? rest key := rfl

@[simp] theorem keys_nil : keys ([] : Entries α) = [] := rfl

@[simp] theorem keys_cons (k : String) (v : α) (rest : Entries α) :
    keys ((k, v) :: rest) = k :: keys rest := rfl

/-- Looking up after writing sees the new value under its key and the old answers elsewhere. -/
theorem get?_put (entries : Entries α) (key other : String) (value : α) :
    (entries.put key value).get? other = if key = other then some value else entries.get? other := by
  induction entries with
  | nil => simp [put]
  | cons entry rest inductionHypothesis =>
    obtain ⟨k, v⟩ := entry
    by_cases same : k = key
    · subst same
      by_cases asked : k = other <;> simp [put, asked]
    · by_cases asked : k = other
      · subst asked
        simp [put, same, Ne.symm same]
      · simp [put, same, asked, inductionHypothesis]

theorem get?_put_self (entries : Entries α) (key : String) (value : α) :
    (entries.put key value).get? key = some value := by
  rw [get?_put, if_pos rfl]

/-- A lookup that finds a value finds a pair that is there. -/
theorem mem_of_get? {entries : Entries α} {key : String} {value : α}
    (found : entries.get? key = some value) : (key, value) ∈ entries := by
  induction entries with
  | nil => exact absurd found (by simp)
  | cons entry rest inductionHypothesis =>
    rw [get?_cons] at found
    split at found
    next here =>
      obtain rfl := Option.some.inj found
      exact here ▸ List.mem_cons_self
    next => exact List.mem_cons_of_mem entry (inductionHypothesis found)

/-- Where no key comes twice, a lookup finds every pair that is there. -/
theorem get?_of_mem {entries : Entries α} {key : String} {value : α}
    (distinct : entries.keys.Nodup) (member : (key, value) ∈ entries) :
    entries.get? key = some value := by
  induction entries with
  | nil => simp at member
  | cons entry rest inductionHypothesis =>
    obtain ⟨k, v⟩ := entry
    obtain ⟨fresh, restDistinct⟩ := List.nodup_cons.mp distinct
    rcases List.mem_cons.mp member with same | later
    · obtain ⟨rfl, rfl⟩ := Prod.mk.inj same
      simp
    · have different : k ≠ key := by
        rintro rfl
        exact fresh (List.mem_map.mpr ⟨(k, value), later, rfl⟩)
      simp [different, inductionHypothesis restDistinct later]

/-- A key has a value exactly when it is one of the keys. -/
theorem has_iff (entries : Entries α) (key : String) :
    entries.has key = true ↔ key ∈ entries.keys := by
  induction entries with
  | nil => simp [has]
  | cons entry rest inductionHypothesis =>
    obtain ⟨k, v⟩ := entry
    by_cases same : k = key
    · simp [has, same]
    · have different : key ≠ k := fun equal => same equal.symm
      simpa [has, same, different] using inductionHypothesis

theorem get?_isSome_iff (entries : Entries α) (key : String) :
    (entries.get? key).isSome = true ↔ key ∈ entries.keys := has_iff entries key

theorem get?_eq_none_iff (entries : Entries α) (key : String) :
    entries.get? key = none ↔ key ∉ entries.keys := by
  rw [← get?_isSome_iff]
  simp

/-- Writing a key adds it to the keys and takes none away. -/
theorem mem_keys_put (entries : Entries α) (key other : String) (value : α) :
    other ∈ (entries.put key value).keys ↔ other = key ∨ other ∈ entries.keys := by
  rw [← get?_isSome_iff, ← get?_isSome_iff, get?_put]
  by_cases same : key = other
  · simp [same]
  · have different : other ≠ key := fun equal => same equal.symm
    simp [same, different]

/-- Writing a key that is there keeps the keys, and a new key comes last. -/
theorem keys_put (entries : Entries α) (key : String) (value : α) :
    (entries.put key value).keys =
      if key ∈ entries.keys then entries.keys else entries.keys ++ [key] := by
  induction entries with
  | nil => simp [put]
  | cons entry rest inductionHypothesis =>
    obtain ⟨k, v⟩ := entry
    by_cases same : k = key
    · simp [put, same]
    · have different : key ≠ k := fun equal => same equal.symm
      by_cases known : key ∈ keys rest <;>
        simp [put, same, different, known, inductionHypothesis]

/-- A new key is written behind all others. -/
theorem put_of_not_mem {entries : Entries α} {key : String} (value : α)
    (fresh : key ∉ entries.keys) : entries.put key value = entries ++ [(key, value)] := by
  induction entries with
  | nil => rfl
  | cons entry rest inductionHypothesis =>
    obtain ⟨k, v⟩ := entry
    rw [keys_cons, List.mem_cons, not_or] at fresh
    have different : k ≠ key := fun same => fresh.1 same.symm
    simp [put, different, inductionHypothesis fresh.2]

/-- Where no key comes twice, writing pairs one after the other gives the pairs. -/
theorem ofPairs_of_nodup {pairs : List (String × α)} (distinct : (keys pairs).Nodup) :
    ofPairs pairs = pairs := by
  have write (written : Entries α) (rest : List (String × α))
      (distinct : (keys (written ++ rest)).Nodup) :
      rest.foldl (fun entries pair => entries.put pair.1 pair.2) written = written ++ rest := by
    induction rest generalizing written with
    | nil => simp
    | cons pair rest inductionHypothesis =>
      obtain ⟨key, value⟩ := pair
      have fresh : key ∉ written.keys := by
        intro known
        rw [keys, List.map_append, List.nodup_append] at distinct
        exact distinct.2.2 key known key (by simp) rfl
      rw [List.foldl_cons, put_of_not_mem value fresh, inductionHypothesis, List.append_assoc,
        List.singleton_append]
      rw [List.append_assoc, List.singleton_append]
      exact distinct
  exact write [] pairs distinct

/-- Writing keeps the keys distinct. -/
theorem keys_put_nodup {entries : Entries α} (key : String) (value : α)
    (distinct : entries.keys.Nodup) : (entries.put key value).keys.Nodup := by
  rw [keys_put]
  by_cases known : key ∈ entries.keys
  · simpa [known] using distinct
  · rw [if_neg known]
    refine List.nodup_append.mpr ⟨distinct, by simp, ?_⟩
    intro old member new isKey
    rw [List.mem_singleton.mp isKey]
    rintro rfl
    exact known member

/-- What is there after writing was written or was there before. -/
theorem mem_put {entries : Entries α} {key : String} {value : α} {entry : String × α}
    (member : entry ∈ entries.put key value) : entry = (key, value) ∨ entry ∈ entries := by
  induction entries with
  | nil => exact .inl (List.mem_singleton.mp member)
  | cons first rest inductionHypothesis =>
    obtain ⟨k, v⟩ := first
    rw [put] at member
    split at member
    next same =>
      rcases List.mem_cons.mp member with written | later
      · exact .inl (same ▸ written)
      · exact .inr (List.mem_cons_of_mem _ later)
    next =>
      rcases List.mem_cons.mp member with here | later
      · exact .inr (here ▸ List.mem_cons_self)
      · exact (inductionHypothesis later).imp_right (List.mem_cons_of_mem _)

/-- However often a key comes among pairs, it is written once. -/
theorem keys_ofPairs_nodup (pairs : List (String × α)) : (ofPairs pairs).keys.Nodup :=
  List.foldlRecOn (motive := fun entries : Entries α => entries.keys.Nodup) pairs _ List.nodup_nil
    fun _ distinct pair _ => keys_put_nodup pair.1 pair.2 distinct

/-- Writing pairs one after the other gives no other pairs. -/
theorem ofPairs_subset (pairs : List (String × α)) : ofPairs pairs ⊆ pairs := by
  refine List.foldlRecOn (motive := fun entries => entries ⊆ pairs) pairs _
    (List.nil_subset pairs) ?_
  intro entries known pair given entry member
  rcases mem_put member with rfl | earlier
  · exact given
  · exact known earlier

/-- A function on the values is a function on the answers. -/
theorem get?_map (convert : α → β) (entries : Entries α) (key : String) :
    get? (entries.map fun (k, v) => (k, convert v)) key = (entries.get? key).map convert := by
  induction entries with
  | nil => rfl
  | cons entry rest inductionHypothesis =>
    obtain ⟨k, v⟩ := entry
    by_cases same : k = key <;> simp [same, inductionHypothesis]

/-- A function on the values keeps the keys. -/
theorem keys_map (convert : α → β) (entries : Entries α) :
    keys (entries.map fun (k, v) => (k, convert v)) = entries.keys := by
  simp [keys, Function.comp_def]

/-! ## Erasing -/

/-- Looking up after erasing finds nothing under the key and the old answers elsewhere. -/
theorem get?_erase (entries : Entries α) (key other : String) :
    (entries.erase key).get? other = if key = other then none else entries.get? other := by
  induction entries with
  | nil => simp [erase]
  | cons entry rest inductionHypothesis =>
    obtain ⟨k, v⟩ := entry
    by_cases same : k = key
    · subst same
      by_cases asked : k = other
      · simpa [erase, asked] using inductionHypothesis
      · simpa [erase, asked] using inductionHypothesis
    · by_cases asked : k = other
      · subst asked
        simp [erase, same, Ne.symm same]
      · simpa [erase, same, asked] using inductionHypothesis

/-- Erasing takes a key away and keeps the others. -/
theorem mem_keys_erase (entries : Entries α) (key other : String) :
    other ∈ (entries.erase key).keys ↔ other ≠ key ∧ other ∈ entries.keys := by
  rw [← get?_isSome_iff, ← get?_isSome_iff, get?_erase]
  by_cases same : key = other
  · simp [same]
  · simp [same, Ne.symm same]

/-- Erasing keeps the keys distinct. -/
theorem keys_erase_nodup {entries : Entries α} (key : String) (distinct : entries.keys.Nodup) :
    (entries.erase key).keys.Nodup :=
  (List.filter_sublist.map _).nodup distinct

/-- Erasing a key that is not there changes nothing. -/
theorem erase_of_not_mem {entries : Entries α} {key : String} (absent : key ∉ entries.keys) :
    entries.erase key = entries := by
  apply List.filter_eq_self.mpr
  intro entry member
  have other : entry.1 ≠ key := by
    rintro rfl
    exact absent (List.mem_map_of_mem member)
  simpa using other

/-- Erasing what was just written under a new key leaves the entries as they were. -/
theorem erase_put_of_not_mem {entries : Entries α} {key : String} (value : α)
    (fresh : key ∉ entries.keys) : (entries.put key value).erase key = entries := by
  have single : erase [(key, value)] key = [] := by simp [erase]
  rw [put_of_not_mem value fresh, erase, List.filter_append]
  change entries.erase key ++ erase [(key, value)] key = entries
  rw [erase_of_not_mem fresh, single, List.append_nil]

/-! ## Entries under other keys -/

/-- The entries under other keys than the given ones. -/
def outside (keys : List String) (entries : Entries α) : Entries α :=
  entries.filter fun (k, _) => !keys.contains k

theorem outside_put {keys : List String} {key : String} (member : key ∈ keys) (value : α)
    (entries : Entries α) : outside keys (entries.put key value) = outside keys entries := by
  induction entries with
  | nil => simp [put, outside, member]
  | cons entry rest inductionHypothesis =>
    obtain ⟨k, v⟩ := entry
    by_cases same : k = key
    · subst same
      simp [put, outside, member]
    · unfold outside at inductionHypothesis ⊢
      rw [put, if_neg same, List.filter_cons, List.filter_cons, inductionHypothesis]

theorem outside_erase {keys : List String} {key : String} (member : key ∈ keys)
    (entries : Entries α) : outside keys (entries.erase key) = outside keys entries := by
  rw [outside, erase, List.filter_filter]
  apply List.filter_congr
  intro entry _
  by_cases same : entry.1 = key
  · simp [same, member]
  · simp [same]

/-- Under other keys the answers are those of the other entries. -/
theorem get?_outside {keys : List String} {key : String} (other : key ∉ keys)
    (entries : Entries α) : (outside keys entries).get? key = entries.get? key := by
  induction entries with
  | nil => rfl
  | cons entry rest inductionHypothesis =>
    obtain ⟨k, v⟩ := entry
    unfold outside at inductionHypothesis ⊢
    by_cases given : k ∈ keys
    · have different : k ≠ key := fun same => other (same ▸ given)
      simpa [given, different] using inductionHypothesis
    · by_cases same : k = key
      · simp [same, other]
      · simpa [given, same] using inductionHypothesis

theorem mem_outside {keys : List String} {key : String} {value : α} (other : key ∉ keys)
    (entries : Entries α) : (key, value) ∈ outside keys entries ↔ (key, value) ∈ entries := by
  simp [outside, other]

end Gamebook.Entries
