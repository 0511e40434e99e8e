import SeedCatalog.Catalog

/-!
# What records leave in a catalog

A catalog is known by its texts and the locations of each.  Locations are put
behind those of a text one record at a time, or all those of another catalog at
once; in both ways a text keeps the place in which it first came.
-/

namespace SeedCatalog.Catalog

/-! ## A catalog as its texts and their locations -/

theorem locations_of_mem {catalog : Catalog} {entry : Text × List Location}
    (mem : entry ∈ catalog.entries.entries) : catalog.locations entry.1 = entry.2 := by
  rw [locations, OrderedMap.mem_entries_iff.1 mem, Option.getD_some]

theorem entries_eq (catalog : Catalog) :
    catalog.entries.entries = catalog.texts.map fun text => (text, catalog.locations text) := by
  rw [texts, OrderedMap.keys, List.map_map]
  have same : ∀ entry ∈ catalog.entries.entries,
      (entry.1, catalog.locations entry.1) = id entry := by
    intro entry mem
    rw [locations_of_mem mem, id]
  exact (List.map_congr_left same).trans (List.map_id _) |>.symm

/-- Two catalogs with the same texts in the same order, and with the same locations of each, are
the same. -/
theorem ext {first second : Catalog} (texts : first.texts = second.texts)
    (locations : ∀ text, first.locations text = second.locations text) : first = second := by
  have entries : first.entries = second.entries := by
    apply OrderedMap.ext
    rw [entries_eq, entries_eq, texts, funext locations]
  cases first
  cases second
  congr

/-! ## More locations -/

/-- Put more locations behind those of a text. -/
def extend (catalog : Catalog) (text : Text) (more : List Location) : Catalog :=
  ⟨catalog.entries.update text fun locations => locations.getD [] ++ more⟩

/-- Put more locations behind those of several texts, one text after the other. -/
def extendAll (catalog : Catalog) (entries : List (Text × List Location)) : Catalog :=
  entries.foldl (fun catalog entry => catalog.extend entry.1 entry.2) catalog

theorem locations_extend (catalog : Catalog) (text other : Text) (more : List Location) :
    (catalog.extend text more).locations other =
      if text = other then catalog.locations text ++ more else catalog.locations other := by
  simp only [extend, locations, OrderedMap.get?_update]
  split <;> rfl

theorem texts_extend (catalog : Catalog) (text : Text) (more : List Location) :
    (catalog.extend text more).texts =
      if text ∈ catalog.texts then catalog.texts else catalog.texts ++ [text] := by
  by_cases mem : text ∈ catalog.entries.keys <;> simp [extend, texts, mem]

/-- The locations of a text are those that it had, and behind them those that it gets. -/
theorem locations_extendAll (catalog : Catalog) (entries : List (Text × List Location))
    (text : Text) :
    (catalog.extendAll entries).locations text =
      catalog.locations text ++ (entries.filter (·.1 = text)).flatMap Prod.snd := by
  induction entries generalizing catalog with
  | nil => exact (List.append_nil _).symm
  | cons entry entries ih =>
      rw [extendAll, List.foldl_cons, ← extendAll, ih, locations_extend]
      by_cases same : entry.1 = text
      · simp [same, List.append_assoc]
      · simp [same]

/-- The texts that are new stand behind the others, each once. -/
theorem texts_extendAll (catalog : Catalog) (entries : List (Text × List Location)) :
    (catalog.extendAll entries).texts =
      catalog.texts ++ ((entries.map Prod.fst).removeAll catalog.texts).eraseDups := by
  induction entries generalizing catalog with
  | nil => exact (List.append_nil _).symm
  | cons entry entries ih =>
      rw [extendAll, List.foldl_cons, ← extendAll, ih, texts_extend, List.map_cons,
        List.cons_removeAll]
      by_cases known : entry.1 ∈ catalog.texts
      · simp [known]
      · simp only [known, if_false, List.contains_eq_mem, decide_false, if_true,
          List.eraseDups_cons, List.append_assoc, List.singleton_append]
        congr 3
        simp only [List.removeAll, List.filter_filter]
        apply List.filter_congr
        intro text _
        by_cases same : text = entry.1 <;> simp [same]

/-! ## Records -/

theorem recordAll_eq_extendAll (catalog : Catalog) (records : List (Text × Location)) :
    catalog.recordAll records =
      catalog.extendAll (records.map fun entry => (entry.1, [entry.2])) := by
  rw [extendAll, List.foldl_map]
  rfl

/-- Each distinct text of some records once, in the order in which the texts first occur, with all
its locations in order. -/
def grouping (records : List (Text × Location)) : List (Text × List Location) :=
  (records.map Prod.fst).eraseDups.map fun text =>
    (text, (records.filter (·.1 = text)).map Prod.snd)

theorem locations_recordAll (catalog : Catalog) (records : List (Text × Location)) (text : Text) :
    (catalog.recordAll records).locations text =
      catalog.locations text ++ (records.filter (·.1 = text)).map Prod.snd := by
  rw [recordAll_eq_extendAll, locations_extendAll, List.filter_map, List.flatMap_map,
    ← List.map_eq_flatMap]
  rfl

theorem texts_recordAll (catalog : Catalog) (records : List (Text × Location)) :
    (catalog.recordAll records).texts =
      catalog.texts ++ ((records.map Prod.fst).removeAll catalog.texts).eraseDups := by
  rw [recordAll_eq_extendAll, texts_extendAll, List.map_map]
  rfl

/-- The catalog of some records is their grouping. -/
theorem entries_recordAll (records : List (Text × Location)) :
    (empty.recordAll records).entries.entries = grouping records := by
  have texts : (empty.recordAll records).texts = (records.map Prod.fst).eraseDups := by
    rw [texts_recordAll]
    exact congrArg List.eraseDups List.removeAll_nil
  rw [entries_eq, texts, grouping]
  apply List.map_congr_left
  intro text _
  rw [locations_recordAll]
  rfl

/-! ## Merging -/

/-- Put the texts of the second catalog that are new behind those of the first, and the locations
of each text in the second behind those in the first. -/
def merge (first second : Catalog) : Catalog :=
  first.extendAll second.entries.entries

/-- A text stands in one entry only, so that the entries with it have the locations of one. -/
theorem flatMap_filter_entries (catalog : Catalog) (text : Text) :
    (catalog.entries.entries.filter (·.1 = text)).flatMap Prod.snd = catalog.locations text := by
  have nodup : catalog.texts.Nodup := catalog.entries.nodup_keys
  rw [entries_eq, List.filter_map, List.flatMap_map]
  change (catalog.texts.filter (· = text)).flatMap catalog.locations = catalog.locations text
  rw [List.filter_eq, nodup.count]
  split
  · simp
  · rename_i absent
    simp [locations, OrderedMap.get?, OrderedMap.lookup_eq_none_iff.2 absent]

theorem eraseDups_eq_self {texts : List Text} (nodup : texts.Nodup) : texts.eraseDups = texts := by
  induction texts with
  | nil => rfl
  | cons text texts ih =>
      obtain ⟨absent, nodup⟩ := List.nodup_cons.1 nodup
      have others : texts.filter (fun other => !other == text) = texts := by
        apply List.filter_eq_self.2
        rintro other mem
        have different : other ≠ text := fun same => absent (same ▸ mem)
        simpa using different
      rw [List.eraseDups_cons, others, ih nodup]

theorem locations_merge (first second : Catalog) (text : Text) :
    (first.merge second).locations text = first.locations text ++ second.locations text := by
  rw [merge, locations_extendAll, flatMap_filter_entries]

theorem texts_merge (first second : Catalog) :
    (first.merge second).texts = first.texts ++ second.texts.removeAll first.texts := by
  have nodup : second.texts.Nodup := second.entries.nodup_keys
  have others : (second.texts.removeAll first.texts).Nodup := nodup.filter _
  rw [merge, texts_extendAll, ← OrderedMap.keys, ← texts, eraseDups_eq_self others]

@[simp]
theorem merge_empty (catalog : Catalog) : catalog.merge empty = catalog :=
  rfl

/-- To record behind two merged catalogs is to record behind the second of them. -/
theorem record_merge (first second : Catalog) (text : Text) (location : Location) :
    (first.merge second).record text location = first.merge (second.record text location) := by
  apply ext
  · simp only [texts_record, texts_merge]
    by_cases known : text ∈ first.texts
    · by_cases again : text ∈ second.texts <;> simp [List.removeAll, known, again]
    · by_cases again : text ∈ second.texts <;> simp [List.removeAll, known, again]
  · intro other
    simp only [locations_record, locations_merge]
    split
    · simp_all
    · rfl

theorem recordAll_merge (first second : Catalog) (records : List (Text × Location)) :
    (first.merge second).recordAll records = first.merge (second.recordAll records) := by
  induction records generalizing second with
  | nil => rfl
  | cons entry records ih =>
      rw [recordAll, List.foldl_cons, record_merge, ← recordAll, ih]
      rfl

/-- To record behind some catalog is to merge it with the catalog of the records alone. -/
theorem recordAll_eq_merge (catalog : Catalog) (records : List (Text × Location)) :
    catalog.recordAll records = catalog.merge (empty.recordAll records) := by
  rw [← recordAll_merge, merge_empty]

end SeedCatalog.Catalog
