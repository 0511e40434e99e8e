/-!
# Maps that keep the order of their keys

An ordered map lists its entries in the order in which their keys came.  A key that comes again
keeps its place and gets its new value there.
-/

namespace SeedCatalog

/-- A finite map whose entries stand in the order in which their keys first came. -/
structure OrderedMap (α β : Type) where
  entries : List (α × β)
  nodup_keys : (entries.map Prod.fst).Nodup
  deriving DecidableEq, Repr

namespace OrderedMap

variable {α β : Type}

/-- Two ordered maps with the same entries are the same. -/
@[ext]
theorem ext {first second : OrderedMap α β} (h : first.entries = second.entries) :
    first = second := by
  cases first
  cases second
  congr

/-- The map without entries. -/
def empty : OrderedMap α β :=
  ⟨[], List.nodup_nil⟩

instance : Inhabited (OrderedMap α β) :=
  ⟨empty⟩

/-- The keys in the order in which they came. -/
def keys (map : OrderedMap α β) : List α :=
  map.entries.map Prod.fst

/-- The values in the order of their keys. -/
def values (map : OrderedMap α β) : List β :=
  map.entries.map Prod.snd

/-- The number of entries. -/
def size (map : OrderedMap α β) : Nat :=
  map.entries.length

/-- A key stands in one entry only. -/
theorem not_mem_of_entries_eq {map : OrderedMap α β} {before after : List (α × β)} {key : α}
    {value : β} (h : map.entries = before ++ (key, value) :: after) :
    key ∉ before.map Prod.fst ∧ key ∉ after.map Prod.fst := by
  have hnodup := map.nodup_keys
  rw [h, List.map_append, List.map_cons] at hnodup
  obtain ⟨-, hafter, hdisjoint⟩ := List.nodup_append.1 hnodup
  exact ⟨fun hb => hdisjoint _ hb _ List.mem_cons_self rfl, (List.nodup_cons.1 hafter).1⟩

section

variable [DecidableEq α]

/-- The value of the first entry with a key. -/
def lookup (key : α) : List (α × β) → Option β
  | [] => none
  | entry :: rest => if entry.1 = key then some entry.2 else lookup key rest

/-- Give a key the value that `f` makes of its value so far. -/
def updateEntries (key : α) (f : Option β → β) : List (α × β) → List (α × β)
  | [] => [(key, f none)]
  | entry :: rest =>
      if entry.1 = key then (key, f (some entry.2)) :: rest
      else entry :: updateEntries key f rest

/-- An update adds its key at the end, unless the key is there. -/
theorem map_fst_updateEntries (key : α) (f : Option β → β) (entries : List (α × β)) :
    (updateEntries key f entries).map Prod.fst =
      if key ∈ entries.map Prod.fst then entries.map Prod.fst
      else entries.map Prod.fst ++ [key] := by
  induction entries with
  | nil => simp [updateEntries]
  | cons entry rest ih =>
    by_cases h : entry.1 = key
    · simp [updateEntries, h]
    · have h' : ¬key = entry.1 := fun e => h e.symm
      simp only [updateEntries, h, if_false, List.map_cons, ih, List.mem_cons, h', false_or]
      split <;> simp

theorem updateEntries_of_not_mem {key : α} {entries : List (α × β)}
    (h : key ∉ entries.map Prod.fst) (f : Option β → β) :
    updateEntries key f entries = entries ++ [(key, f none)] := by
  induction entries with
  | nil => rfl
  | cons entry rest ih =>
    rw [List.map_cons, List.mem_cons, not_or] at h
    rw [updateEntries, if_neg fun e => h.1 e.symm, ih h.2, List.cons_append]

theorem lookup_updateEntries (key other : α) (f : Option β → β) (entries : List (α × β)) :
    lookup other (updateEntries key f entries) =
      if key = other then some (f (lookup key entries)) else lookup other entries := by
  induction entries with
  | nil => simp [updateEntries, lookup]
  | cons entry rest ih =>
    by_cases h : entry.1 = key
    · by_cases ho : key = other <;> simp [updateEntries, lookup, h, ho]
    · by_cases ho : key = other
      · subst ho
        simp [updateEntries, lookup, h, ih]
      · have ho' : ¬other = key := fun e => ho e.symm
        by_cases he : entry.1 = other
        · simp [updateEntries, lookup, he, ho, ho']
        · simp [updateEntries, lookup, h, ho, he, ih]

/-- The value of a key. -/
def get? (map : OrderedMap α β) (key : α) : Option β :=
  lookup key map.entries

/-- Whether a key has a value. -/
def contains (map : OrderedMap α β) (key : α) : Bool :=
  (map.get? key).isSome

/-- Give a key the value that `f` makes of its value so far; a new key goes to the end. -/
def update (map : OrderedMap α β) (key : α) (f : Option β → β) : OrderedMap α β where
  entries := updateEntries key f map.entries
  nodup_keys := by
    rw [map_fst_updateEntries]
    split
    · exact map.nodup_keys
    · rename_i h
      refine List.nodup_append.2 ⟨map.nodup_keys, by simp, ?_⟩
      intro a ha b hb e
      rw [List.mem_singleton] at hb
      exact h (hb ▸ e ▸ ha)

/-- Give a key a value. -/
def insert (map : OrderedMap α β) (key : α) (value : β) : OrderedMap α β :=
  map.update key fun _ => value

/-- The map of a list of pairs; a later value of a key stands in the place of its first. -/
def ofList (pairs : List (α × β)) : OrderedMap α β :=
  pairs.foldl (fun map pair => map.insert pair.1 pair.2) empty

@[simp]
theorem get?_empty (key : α) : (empty : OrderedMap α β).get? key = none :=
  rfl

@[simp]
theorem get?_update (map : OrderedMap α β) (key other : α) (f : Option β → β) :
    (map.update key f).get? other =
      if key = other then some (f (map.get? key)) else map.get? other :=
  lookup_updateEntries key other f map.entries

@[simp]
theorem get?_insert (map : OrderedMap α β) (key other : α) (value : β) :
    (map.insert key value).get? other = if key = other then some value else map.get? other := by
  simp [insert]

theorem lookup_eq_none_iff {key : α} {entries : List (α × β)} :
    lookup key entries = none ↔ key ∉ entries.map Prod.fst := by
  induction entries with
  | nil => simp [lookup]
  | cons entry rest ih =>
    by_cases h : entry.1 = key
    · simp [lookup, h]
    · have h' : ¬key = entry.1 := fun e => h e.symm
      simp [lookup, h, h', ih]

theorem lookup_append (key : α) (first second : List (α × β)) :
    lookup key (first ++ second) = (lookup key first).or (lookup key second) := by
  induction first with
  | nil => rfl
  | cons entry rest ih =>
    by_cases h : entry.1 = key <;> simp [lookup, h, ih]

/-- The value of a key stands in the first entry with the key. -/
theorem lookup_eq_some_iff {key : α} {value : β} {entries : List (α × β)} :
    lookup key entries = some value ↔
      ∃ before after, entries = before ++ (key, value) :: after ∧ key ∉ before.map Prod.fst := by
  constructor
  · intro h
    induction entries with
    | nil => simp [lookup] at h
    | cons entry rest ih =>
      rw [lookup] at h
      split at h
      · rename_i he
        cases h
        exact ⟨[], rest, by rw [← he]; rfl, List.not_mem_nil⟩
      · rename_i he
        obtain ⟨before, after, rfl, hb⟩ := ih h
        refine ⟨entry :: before, after, rfl, ?_⟩
        rw [List.map_cons, List.mem_cons, not_or]
        exact ⟨fun e => he e.symm, hb⟩
  · rintro ⟨before, after, rfl, hb⟩
    rw [lookup_append, lookup_eq_none_iff.2 hb, Option.none_or, lookup, if_pos rfl]

theorem mem_entries_iff {map : OrderedMap α β} {key : α} {value : β} :
    (key, value) ∈ map.entries ↔ map.get? key = some value := by
  rw [get?, lookup_eq_some_iff]
  constructor
  · intro h
    obtain ⟨before, after, he⟩ := List.append_of_mem h
    exact ⟨before, after, he, (not_mem_of_entries_eq he).1⟩
  · rintro ⟨before, after, he, -⟩
    rw [he]
    exact List.mem_append_right _ List.mem_cons_self

/-- Of the pairs with a key the last one counts. -/
theorem get?_ofList (pairs : List (α × β)) (key : α) :
    (ofList pairs).get? key = lookup key pairs.reverse := by
  have h : ∀ (pairs : List (α × β)) (map : OrderedMap α β),
      (pairs.foldl (fun map pair => map.insert pair.1 pair.2) map).get? key =
        (lookup key pairs.reverse).or (map.get? key) := by
    intro pairs
    induction pairs with
    | nil => intro map; rfl
    | cons pair rest ih =>
      intro map
      rw [List.foldl_cons, ih, get?_insert, List.reverse_cons, lookup_append, Option.or_assoc]
      by_cases he : pair.1 = key <;> simp [lookup, he]
  rw [ofList, h, get?_empty, Option.or_none]

theorem get?_ofList_eq_some_iff {pairs : List (α × β)} {key : α} {value : β} :
    (ofList pairs).get? key = some value ↔
      ∃ before after, pairs = before ++ (key, value) :: after ∧ key ∉ after.map Prod.fst := by
  rw [get?_ofList, lookup_eq_some_iff]
  constructor
  · rintro ⟨later, earlier, h, absent⟩
    refine ⟨earlier.reverse, later.reverse, ?_, by simpa using absent⟩
    rw [← List.reverse_reverse pairs, h]
    simp
  · rintro ⟨before, after, rfl, absent⟩
    exact ⟨after.reverse, before.reverse, by simp, by simpa using absent⟩

theorem contains_ofList {pairs : List (α × β)} {key : α} :
    (ofList pairs).contains key = true ↔ key ∈ pairs.map Prod.fst := by
  rw [contains, Option.isSome_iff_ne_none, ne_eq, get?_ofList, lookup_eq_none_iff,
    Classical.not_not, List.map_reverse, List.mem_reverse]

/-- The entries of a map are the pairs of a list whose keys are all different. -/
theorem ofList_entries (map : OrderedMap α β) : ofList map.entries = map := by
  have h : ∀ (pairs : List (α × β)) (map : OrderedMap α β),
      ((map.entries ++ pairs).map Prod.fst).Nodup →
        (pairs.foldl (fun map pair => map.insert pair.1 pair.2) map).entries =
          map.entries ++ pairs := by
    intro pairs
    induction pairs with
    | nil => intro map _; simp
    | cons pair rest ih =>
      intro map hnodup
      have fresh : pair.1 ∉ map.entries.map Prod.fst := by
        intro hmem
        rw [List.map_append, List.map_cons] at hnodup
        exact (List.nodup_append.1 hnodup).2.2 _ hmem _ List.mem_cons_self rfl
      have hentries : (map.insert pair.1 pair.2).entries = map.entries ++ [pair] :=
        updateEntries_of_not_mem fresh _
      rw [List.foldl_cons, ih _ (by simpa [hentries] using hnodup), hentries]
      simp
  exact ext (h map.entries empty map.nodup_keys)

@[simp]
theorem keys_update (map : OrderedMap α β) (key : α) (f : Option β → β) :
    (map.update key f).keys = if key ∈ map.keys then map.keys else map.keys ++ [key] :=
  map_fst_updateEntries key f map.entries

end

/-- The entries of a map whose keys are to be kept. -/
def filterKeys (keep : α → Bool) (map : OrderedMap α β) : OrderedMap α β where
  entries := map.entries.filter fun entry => keep entry.1
  nodup_keys := map.nodup_keys.sublist (List.filter_sublist.map Prod.fst)

/-- Apply a function to every value. -/
def mapValues {γ : Type} (f : β → γ) (map : OrderedMap α β) : OrderedMap α γ where
  entries := map.entries.map fun entry => (entry.1, f entry.2)
  nodup_keys := by
    simpa [List.map_map, Function.comp_def] using map.nodup_keys

end OrderedMap

end SeedCatalog
