import SeedCatalog.Proofs.Config.InPlace

/-!
# Overrides in several turns

Settings that are overridden twice are as if they had been overridden once, with the columns of both
turns one after the other and the values of the second turn in place of those of the first.  What is
overridden is left as it was.
-/

namespace SeedCatalog.Settings

/-- The settings that have a single value. -/
def plainNames : List Text :=
  ["delimiter".toList, "encoding".toList, "max_file_size".toList]

/-- Values for settings, at most one for each.  A setting is not overridden without a value, nor
with the value that stands for none. -/
structure Overrides where
  values : OrderedMap Text Value
  named : ∀ name ∈ values.keys, name ∈ plainNames

namespace Overrides

/-- The values that are given, each with the name of its setting. -/
def entries (overrides : Overrides) : List (Text × Value) :=
  overrides.values.entries

/-- The value that a setting is to have, if it is overridden. -/
def given? (overrides : Overrides) (name : Text) : Option Value :=
  (overrides.values.get? name).filter fun value => value ≠ .null

/-- The overrides of a first turn, updated by those of a second one that override something. -/
def updated (first second : Overrides) : Overrides where
  values := (second.entries.filter fun entry => entry.2 ≠ .null).foldl
    (fun values entry => values.insert entry.1 entry.2) first.values
  named name mem := by
    rcases OrderedMap.mem_keys_foldl_insert.1 mem with mem | mem
    · exact first.named name mem
    · exact second.named name ((List.filter_sublist.map Prod.fst).subset mem)

/-- Settings with the values that they are to have. -/
def apply (overrides : Overrides) (settings : Settings) : Settings :=
  { settings with
    delimiter := (overrides.given? "delimiter".toList).getD settings.delimiter
    encoding := (overrides.given? "encoding".toList).getD settings.encoding
    maxFileSize := (overrides.given? "max_file_size".toList).getD settings.maxFileSize }

theorem given?_eq_lookup (overrides : Overrides) (name : Text) :
    overrides.given? name =
      OrderedMap.lookup name (overrides.entries.filter fun entry => entry.2 ≠ .null) :=
  (OrderedMap.lookup_filter overrides.values.nodup_keys _ name).symm

theorem given?_updated (first second : Overrides) (name : Text) :
    (first.updated second).given? name = (second.given? name).or (first.given? name) := by
  have nodup : ((second.entries.filter fun entry => entry.2 ≠ .null).map Prod.fst).Nodup :=
    second.values.nodup_keys.sublist (List.filter_sublist.map Prod.fst)
  rw [given?, updated, OrderedMap.get?_foldl_insert nodup, ← given?_eq_lookup]
  cases given : second.given? name with
  | none => rfl
  | some value =>
      have filled : value ≠ .null := by
        simpa using (Option.filter_eq_some_iff.1 given).2
      simp [filled]

/-- Values for two turns are given one after the other. -/
theorem apply_updated (first second : Overrides) (settings : Settings) :
    (first.updated second).apply settings = second.apply (first.apply settings) := by
  have turns (name : Text) (value : Value) :
      ((first.updated second).given? name).getD value =
        (second.given? name).getD ((first.given? name).getD value) := by
    rw [given?_updated]
    cases second.given? name <;> rfl
  simp only [apply, turns]

theorem apply_apply (overrides : Overrides) (settings : Settings) :
    overrides.apply (overrides.apply settings) = overrides.apply settings := by
  have turns (name : Text) (value : Value) :
      (overrides.given? name).getD ((overrides.given? name).getD value) =
        (overrides.given? name).getD value := by
    cases overrides.given? name <;> rfl
  simp only [apply, turns]

end Overrides

/-- Settings are set to the values that are listed for them. -/
theorem setAll_eq {entries : List (Text × Value)} (nodup : (entries.map Prod.fst).Nodup)
    (named : ∀ name ∈ entries.map Prod.fst, name ∈ plainNames) (settings : Settings) :
    settings.setAll entries = .ok { settings with
      delimiter := (OrderedMap.lookup "delimiter".toList entries).getD settings.delimiter
      encoding := (OrderedMap.lookup "encoding".toList entries).getD settings.encoding
      maxFileSize :=
        (OrderedMap.lookup "max_file_size".toList entries).getD settings.maxFileSize } := by
  have delimiter (settings : Settings) (value : Value) :
      settings.set "delimiter".toList value = .ok { settings with delimiter := value } := rfl
  have encoding (settings : Settings) (value : Value) :
      settings.set "encoding".toList value = .ok { settings with encoding := value } := rfl
  have maxFileSize (settings : Settings) (value : Value) :
      settings.set "max_file_size".toList value = .ok { settings with maxFileSize := value } := rfl
  have apart : ["delimiter".toList, "encoding".toList, "max_file_size".toList].Nodup := by decide
  rw [plainNames] at named
  -- The spelling of the names does not matter any more, only that they differ.
  generalize "delimiter".toList = first, "encoding".toList = second,
    "max_file_size".toList = third at *
  simp only [List.nodup_cons, List.mem_cons, not_or, List.not_mem_nil, or_false] at apart
  obtain ⟨⟨apart₁, apart₂⟩, apart₃, -⟩ := apart
  induction entries generalizing settings with
  | nil => rfl
  | cons entry entries ih =>
      obtain ⟨name, value⟩ := entry
      rw [List.map_cons, List.nodup_cons] at nodup
      rw [List.map_cons, List.forall_mem_cons] at named
      have absent : OrderedMap.lookup name entries = none :=
        OrderedMap.lookup_eq_none_iff.2 nodup.1
      have rest (settings : Settings) := ih nodup.2 settings named.2
      have known : name = first ∨ name = second ∨ name = third := by simpa using named.1
      rcases known with rfl | rfl | rfl
      · simp [setAll, delimiter, rest, OrderedMap.lookup, absent, apart₁, apart₂]
      · simp [setAll, encoding, rest, OrderedMap.lookup, absent, Ne.symm apart₁, apart₃]
      · simp [setAll, maxFileSize, rest, OrderedMap.lookup, absent, Ne.symm apart₂,
          Ne.symm apart₃]

/-- Without columns and without a value nothing is overridden. -/
theorem override_of_changesNothing {written : List Text} {values : List (Text × Value)}
    (free : firstNamed? takenNames values = none)
    (nothing : changesNothing written values = true) (settings : Settings) :
    settings.override written values = .ok settings := by
  rw [changesNothing, Bool.and_eq_true, decide_eq_true_eq, List.all_eq_true] at nothing
  obtain ⟨rfl, absent⟩ := nothing
  have none : values.filter (fun entry => entry.2 ≠ .null) = [] := by
    simpa using absent
  simp only [override, free, none, setAll]
  rfl

/-- Overriding adds the columns to the listed tables, and sets the single values. -/
theorem override_eq_map (settings : Settings) (written : List Text) (overrides : Overrides) :
    settings.override written overrides.entries =
      (merge settings.translatables written).map fun listing =>
        { overrides.apply settings with translatables := listing } := by
  have free : firstNamed? takenNames overrides.entries = none := by
    rw [firstNamed?, List.find?_eq_none]
    intro name mem
    have apart : ∀ name ∈ plainNames, ¬takenNames.contains (String.ofList name) = true := by
      decide
    exact apart name (overrides.named name mem)
  have set : settings.setAll (overrides.entries.filter fun entry => entry.2 ≠ .null) =
      .ok (overrides.apply settings) := by
    have kept : (overrides.entries.filter fun entry => entry.2 ≠ .null).Sublist
        overrides.entries := List.filter_sublist
    rw [setAll_eq (overrides.values.nodup_keys.sublist (kept.map Prod.fst)) fun name mem =>
      overrides.named name ((kept.map Prod.fst).subset mem)]
    simp only [Overrides.apply, Overrides.given?_eq_lookup]
  simp only [override, free, set, merge]
  split
  · rfl
  · cases addColumns settings.translatables written <;> rfl

/-- Overriding in two turns is overriding once. -/
theorem override_bind_override (settings : Settings) (first second : List Text)
    (values others : Overrides) :
    (settings.override first values.entries >>= (·.override second others.entries)) =
      settings.override (first ++ second) (values.updated others).entries := by
  rw [override_eq_map, override_eq_map, merge_append, Overrides.apply_updated]
  cases merge settings.translatables first with
  | error error => rfl
  | ok listing => exact override_eq_map _ _ _

/-- Overriding a second time with the same changes nothing. -/
theorem override_bind_self {settings : Settings} {tables : OrderedMap Text (List Text)}
    (listed : settings.translatables = listing tables) (written : List Text)
    (values : Overrides) :
    (settings.override written values.entries >>= (·.override written values.entries)) =
      settings.override written values.entries := by
  rw [override_bind_override, override_eq_map, override_eq_map, listed, merge_append_self,
    Overrides.apply_updated, Overrides.apply_apply]

/-- What overriding does to the listed tables in memory: it keeps all that was there, and comes to
the same settings or to the same error. -/
theorem override_in_memory {settings : Settings} {tables : OrderedMap Value (List Value)}
    (listed : settings.translatables = .tables (tables.mapValues .array)) (written : List Text)
    (values : Overrides) {memory : Memory} {source : Nat} (stores : memory.Stores source tables) :
    memory <+: (memory.merge source written).1 ∧
      (memory.merge source written).1.Stores source tables ∧
      ((∃ place tables' settings', (memory.merge source written).2 = .ok place ∧
          settings.override written values.entries = .ok settings' ∧
          settings'.translatables = .tables (tables'.mapValues .array) ∧
          (memory.merge source written).1.Stores place tables') ∨
        ∃ error, (memory.merge source written).2 = .error error ∧
          settings.override written values.entries = .error error) := by
  rw [override_eq_map, listed]
  obtain ⟨kept, ⟨place, tables', made, merged, stores'⟩ | ⟨error, failed, refused⟩⟩ :=
    Memory.merge_spec stores written
  · rw [merged]
    exact ⟨kept, stores.mono kept, .inl ⟨place, tables', _, made, rfl, rfl, stores'⟩⟩
  · rw [refused]
    exact ⟨kept, stores.mono kept, .inr ⟨error, failed, rfl⟩⟩

/-- Two turns of overrides are as one turn with the columns of both and the values of the first
updated by those of the second, whether or not the columns can be read.  The tables that are
overridden stay as they are in memory. -/
theorem override_composes {settings : Settings} {config : Config}
    (checked : settings.check = .ok config) (first second : List Text)
    (values others : Overrides) :
    (settings.override first values.entries >>= (·.override second others.entries)) =
        settings.override (first ++ second) (values.updated others).entries ∧
      (settings.override first values.entries >>= (·.override first values.entries)) =
        settings.override first values.entries ∧
      (∀ columns, first.mapM ColumnName.ofText? = some columns →
        ∃ settings', settings.override first values.entries = .ok settings' ∧
          checkListing settings'.translatables =
            .ok (extended config.translatables columns) ∧
          settings'.delimiter =
            (values.given? "delimiter".toList).getD settings.delimiter ∧
          settings'.encoding = (values.given? "encoding".toList).getD settings.encoding ∧
          settings'.maxFileSize =
            (values.given? "max_file_size".toList).getD settings.maxFileSize) ∧
      (first.mapM ColumnName.ofText? = none →
        ∃ text ∈ first, ColumnName.ofText? text = none ∧
          settings.override first values.entries = .error (.malformedColumn text)) ∧
      ∃ tables : OrderedMap Text (List Text), tables.entries = config.translatables ∧
        ∀ (memory : Memory) (source : Nat), memory.Stores source (asValues tables) →
          memory <+: (memory.merge source first).1 ∧
            (memory.merge source first).1.Stores source (asValues tables) ∧
            ((∃ place tables' settings', (memory.merge source first).2 = .ok place ∧
                settings.override first values.entries = .ok settings' ∧
                settings'.translatables = .tables (tables'.mapValues .array) ∧
                (memory.merge source first).1.Stores place tables') ∨
              ∃ error, (memory.merge source first).2 = .error error ∧
                settings.override first values.entries = .error error) := by
  obtain ⟨tables, listed, named, entries⟩ := exists_listing (check_listing checked).1
  refine ⟨override_bind_override .., override_bind_self listed .., ?_, ?_,
    tables, entries, fun memory source => override_in_memory listed first values⟩
  · intro columns read
    have named' := named.withColumns (ColumnName.ne_nil_of_mapM read)
    rw [override_eq_map, listed, merge_listing read]
    refine ⟨_, rfl, (checkListing_listing named').trans ?_, rfl, rfl, rfl⟩
    rw [entries_withColumns, entries]
  · intro malformed
    obtain ⟨text, mem, unread, failed⟩ := merge_listing_eq_error malformed tables
    rw [override_eq_map, listed, failed]
    exact ⟨text, mem, unread, rfl⟩

/-- A table is overridden in two turns, and stays as it was in memory. -/
theorem override_composes_menu :
    let listed := OrderedMap.ofList [("menu_node".toList, ["label".toList])]
    let settings : Settings := { translatables := listing listed }
    let config : Config := { Config.default with translatables := listed.entries }
    let first := ["menu_node.label".toList, "country.name".toList, "menu_node.title".toList]
    let second := ["country.name".toList, "public.widget.caption".toList]
    let values : Overrides :=
      ⟨.ofList [("delimiter".toList, .string ['|']), ("encoding".toList, .null)], by decide +kernel⟩
    let others : Overrides :=
      ⟨.ofList [("delimiter".toList, .null), ("encoding".toList, .string "ascii".toList)],
        by decide +kernel⟩
    let both := [("delimiter".toList, .string ['|']), ("encoding".toList, .string "ascii".toList)]
    let memory : Memory := [.items [.string "label".toList],
      .tables (.ofList [(.string "menu_node".toList, 0)])]
    settings.check = .ok config ∧
      (settings.override first values.entries >>= (·.override second others.entries)) =
        settings.override (first ++ second) both ∧
      (∃ settings', settings.override first values.entries = .ok settings' ∧
        checkListing settings'.translatables =
          .ok [("menu_node".toList, ["label".toList, "title".toList]),
            ("country".toList, ["name".toList])] ∧
        settings'.delimiter = .string ['|'] ∧ settings'.encoding = settings.encoding) ∧
      memory.Stores 1 (asValues listed) ∧
      (memory.merge 1 first).1.Stores 1 (asValues listed) := by
  intro listed settings config first second values others both memory
  have checked : settings.check = .ok config := rfl
  have read : first.mapM ColumnName.ofText? = some [("menu_node".toList, "label".toList),
      ("country".toList, "name".toList), ("menu_node".toList, "title".toList)] := by
    decide +kernel
  have updated : (values.updated others).entries = both := by decide +kernel
  have stores : memory.Stores 1 (asValues listed) := by
    refine ⟨.ofList [(.string "menu_node".toList, 0)], rfl, by decide +kernel, ?_⟩
    intro table list refers
    cases List.mem_singleton.1 (OrderedMap.mem_entries_iff.2 refers)
    rfl
  obtain ⟨turns, -, extends', -, tables, entries, inMemory⟩ :=
    override_composes checked first second values others
  rw [updated] at turns
  have same : tables = listed := OrderedMap.ext entries
  obtain ⟨settings', overridden, tables', delimiter, encoding, -⟩ := extends' _ read
  have separator : values.given? "delimiter".toList = some (.string ['|']) := by decide +kernel
  have unchanged : values.given? "encoding".toList = none := by decide +kernel
  rw [separator] at delimiter
  rw [unchanged] at encoding
  refine ⟨checked, turns, ⟨settings', overridden, tables'.trans ?_, delimiter, encoding⟩, stores,
    ?_⟩
  · decide +kernel
  · rw [same] at inMemory
    exact (inMemory memory 1 stores).2.1

end SeedCatalog.Settings
