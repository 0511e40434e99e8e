import SeedCatalog.OrderedMap

/-!
# What ordered maps are known by

An ordered map is known by its keys, in their order, and the value of each.  So
an update of a key can be replaced by another one that gives it the same value,
and of two updates of a key the second one does it all.
-/

namespace SeedCatalog.OrderedMap

variable {α β : Type} [DecidableEq α]

theorem mem_keys_iff {map : OrderedMap α β} {key : α} :
    key ∈ map.keys ↔ ∃ value, map.get? key = some value := by
  rw [keys, List.mem_map]
  constructor
  · rintro ⟨⟨key, value⟩, mem, rfl⟩
    exact ⟨value, mem_entries_iff.1 mem⟩
  · rintro ⟨value, found⟩
    exact ⟨(key, value), mem_entries_iff.2 found, rfl⟩

theorem notMem_keys_iff {map : OrderedMap α β} {key : α} :
    key ∉ map.keys ↔ map.get? key = none :=
  lookup_eq_none_iff.symm

/-- A map is written out by its keys and their values. -/
theorem entries_eq_map (map : OrderedMap α β) (default : β) :
    map.entries = map.keys.map fun key => (key, (map.get? key).getD default) := by
  have same : ∀ entry ∈ map.entries, (entry.1, (map.get? entry.1).getD default) = entry := by
    intro entry mem
    rw [mem_entries_iff.1 mem, Option.getD_some]
  rw [keys, List.map_map]
  exact ((List.map_congr_left same).trans (List.map_id' _)).symm

/-- Maps are the same if they have the same keys in the same order, with the same values. -/
theorem eq_of_get? {first second : OrderedMap α β} (keys : first.keys = second.keys)
    (values : ∀ key, first.get? key = second.get? key) : first = second := by
  ext1
  by_cases none : first.keys = []
  · have none' : second.keys = [] := keys ▸ none
    exact (List.map_eq_nil_iff.1 none).trans (List.map_eq_nil_iff.1 none').symm
  · obtain ⟨⟨key, default⟩, mem⟩ := List.exists_mem_of_ne_nil _ (mt List.map_eq_nil_iff.2 none)
    rw [entries_eq_map first default, entries_eq_map second default, keys]
    simp only [values]

/-- An update depends on the value that it gives only. -/
theorem update_congr {map : OrderedMap α β} {key : α} {f g : Option β → β}
    (same : f (map.get? key) = g (map.get? key)) : map.update key f = map.update key g := by
  apply eq_of_get?
  · rw [keys_update, keys_update]
  · intro other
    rw [get?_update, get?_update, same]

/-- An update that gives a key the value that it has changes nothing. -/
theorem update_of_get? {map : OrderedMap α β} {key : α} {value : β} {f : Option β → β}
    (found : map.get? key = some value) (same : f (some value) = value) :
    map.update key f = map := by
  apply eq_of_get?
  · rw [keys_update, if_pos (mem_keys_iff.2 ⟨value, found⟩)]
  · intro other
    rw [get?_update]
    split
    · rename_i here
      rw [← here, found, same]
    · rfl

theorem update_update (map : OrderedMap α β) (key : α) (f g : Option β → β) :
    (map.update key f).update key g = map.update key fun value => g (some (f value)) := by
  apply eq_of_get?
  · simp only [keys_update]
    by_cases known : key ∈ map.keys <;> simp [known]
  · intro other
    simp only [get?_update]
    split <;> simp

/-! ## Many values -/

/-- Of the pairs with a key those count whose values are kept. -/
theorem lookup_filter {entries : List (α × β)} (nodup : (entries.map Prod.fst).Nodup)
    (keep : β → Bool) (key : α) :
    lookup key (entries.filter fun entry => keep entry.2) = (lookup key entries).filter keep := by
  induction entries with
  | nil => rfl
  | cons entry entries ih =>
      rw [List.map_cons, List.nodup_cons] at nodup
      by_cases same : entry.1 = key
      · have absent : key ∉ (entries.filter fun entry => keep entry.2).map Prod.fst :=
          fun mem => nodup.1 (same ▸ (List.filter_sublist.map Prod.fst).subset mem)
        by_cases kept : keep entry.2 = true
        · simp [lookup, same, kept, Option.filter]
        · simp [lookup, same, kept, Option.filter, lookup_eq_none_iff.2 absent]
      · by_cases kept : keep entry.2 = true
        · simp [lookup, same, kept, ih nodup.2]
        · simp [lookup, same, kept, ih nodup.2]

/-- Values that are inserted come before those that were there. -/
theorem get?_foldl_insert {entries : List (α × β)} (nodup : (entries.map Prod.fst).Nodup)
    (map : OrderedMap α β) (key : α) :
    (entries.foldl (fun map entry => map.insert entry.1 entry.2) map).get? key =
      (lookup key entries).or (map.get? key) := by
  induction entries generalizing map with
  | nil => rfl
  | cons entry entries ih =>
      rw [List.map_cons, List.nodup_cons] at nodup
      rw [List.foldl_cons, ih nodup.2, get?_insert, lookup]
      by_cases same : entry.1 = key
      · rw [if_pos same, if_pos same, lookup_eq_none_iff.2 (same ▸ nodup.1)]
        rfl
      · rw [if_neg same, if_neg same]

theorem mem_keys_foldl_insert {entries : List (α × β)} {map : OrderedMap α β} {key : α} :
    key ∈ (entries.foldl (fun map entry => map.insert entry.1 entry.2) map).keys ↔
      key ∈ map.keys ∨ key ∈ entries.map Prod.fst := by
  induction entries generalizing map with
  | nil => simp
  | cons entry entries ih =>
      rw [List.foldl_cons, ih, insert, keys_update, List.map_cons, List.mem_cons, ← or_assoc]
      split
      · rename_i known
        exact or_congr_left ⟨.inl, fun mem => mem.elim id fun same => same ▸ known⟩
      · rw [List.mem_append, List.mem_singleton]

end SeedCatalog.OrderedMap
