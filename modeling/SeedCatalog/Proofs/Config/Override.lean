import Mathlib.Data.List.Nodup
import SeedCatalog.Config.Check
import SeedCatalog.Config.Override
import SeedCatalog.Proofs.Registry

/-!
# Columns added to a configuration

Columns that are added to a checked configuration leave it valid, and every
column that was translatable stays so, with two exceptions.  A reference with a
schema that meant a table by its bare name means the added table once one is
added under the name with the schema.  And an added table that is spelled in a
new way, but stands for the name of a listed one, takes its place.
-/

namespace SeedCatalog.Settings

/-! ## Listings of names -/

theorem name?_eq_some_iff {value : Value} {name : Text} :
    name? value = some name ↔ value = .string name ∧ name ≠ [] := by
  constructor
  · intro named
    unfold name? at named
    split at named
    · cases named
      exact ⟨rfl, List.cons_ne_nil _ _⟩
    · contradiction
  · rintro ⟨rfl, filled⟩
    obtain ⟨c, rest, rfl⟩ := List.exists_cons_of_ne_nil filled
    rfl

theorem mapM_name?_eq_some_iff {items : List Value} {names : List Text} :
    items.mapM name? = some names ↔ items = names.map .string ∧ [] ∉ names := by
  induction items generalizing names with
  | nil =>
      simp only [List.mapM_nil, Option.pure_def, Option.some.injEq]
      constructor
      · rintro rfl
        simp
      · rintro ⟨none, -⟩
        exact (List.map_eq_nil_iff.1 none.symm).symm
  | cons item items ih =>
      simp only [List.mapM_cons, Option.pure_def, Option.bind_eq_bind, Option.bind_eq_some_iff,
        name?_eq_some_iff, ih, Option.some.injEq]
      constructor
      · rintro ⟨name, ⟨rfl, filled⟩, names, ⟨rfl, allFilled⟩, rfl⟩
        exact ⟨rfl, by simpa using ⟨filled, allFilled⟩⟩
      · rintro ⟨listed, allFilled⟩
        obtain ⟨name, names, rfl, rfl, rfl⟩ := List.map_eq_cons_iff.1 listed.symm
        rw [List.mem_cons, not_or] at allFilled
        exact ⟨name, ⟨rfl, Ne.symm allFilled.1⟩, names, ⟨rfl, allFilled.2⟩, rfl⟩

theorem checkColumns_eq_ok_iff {table : Text} {value : Value} {columns : List Text} :
    checkColumns table value = .ok columns ↔
      value = .array (columns.map .string) ∧ [] ∉ columns := by
  cases value with
  | array items =>
      rw [checkColumns, Value.array.injEq, ← mapM_name?_eq_some_iff]
      cases items.mapM name? <;> simp
  | _ => simp [checkColumns]

theorem checkTables_eq_ok_iff {entries : List (Value × Value)} {tables : List (Text × List Text)} :
    checkTables entries = .ok tables ↔
      entries = tables.map (fun table => (.string table.1, .array (table.2.map .string))) ∧
        ∀ table ∈ tables, table.1 ≠ [] ∧ [] ∉ table.2 := by
  induction entries generalizing tables with
  | nil =>
      rw [checkTables, Except.ok.injEq]
      constructor
      · rintro rfl
        simp
      · rintro ⟨none, -⟩
        exact (List.map_eq_nil_iff.1 none.symm).symm
  | cons entry entries ih =>
      obtain ⟨key, value⟩ := entry
      constructor
      · intro checked
        rw [checkTables] at checked
        split at checked
        · contradiction
        · rename_i table named
          split at checked
          · contradiction
          · rename_i columns columnsChecked
            obtain ⟨rfl, filled⟩ := name?_eq_some_iff.1 named
            obtain ⟨rfl, allFilled⟩ := checkColumns_eq_ok_iff.1 columnsChecked
            cases rest : checkTables entries with
            | error error => simp [rest, Except.map] at checked
            | ok others =>
                obtain ⟨rfl, named⟩ := ih.1 rest
                rw [rest] at checked
                cases checked
                exact ⟨rfl, by simpa using ⟨⟨filled, allFilled⟩, by simpa using named⟩⟩
      · rintro ⟨listed, named⟩
        obtain ⟨⟨table, columns⟩, others, rfl, pair, rfl⟩ := List.map_eq_cons_iff.1 listed.symm
        cases pair
        rw [List.forall_mem_cons] at named
        rw [checkTables, name?_eq_some_iff.2 ⟨rfl, named.1.1⟩]
        simp only [checkColumns_eq_ok_iff.2 ⟨rfl, named.1.2⟩, ih.2 ⟨rfl, named.2⟩]
        rfl

/-- Tables and their columns as values. -/
def asValues (tables : OrderedMap Text (List Text)) : OrderedMap Value (List Value) where
  entries := tables.entries.map fun table => (.string table.1, table.2.map .string)
  nodup_keys := by
    have keys : ((tables.entries.map Prod.fst).map Value.string).Nodup :=
      List.Nodup.map (fun _ _ same => Value.string.inj same) tables.nodup_keys
    simpa [List.map_map, Function.comp_def] using keys

/-- The setting that lists tables and their columns. -/
def listing (tables : OrderedMap Text (List Text)) : Listing :=
  .tables ((asValues tables).mapValues .array)

/-- Whether all tables and all columns have names. -/
def Named (tables : OrderedMap Text (List Text)) : Prop :=
  ∀ table ∈ tables.entries, table.1 ≠ [] ∧ [] ∉ table.2

/-- A listing of named tables passes the check. -/
theorem checkListing_listing {tables : OrderedMap Text (List Text)} (named : Named tables) :
    checkListing (listing tables) = .ok tables.entries := by
  rw [listing, checkListing, checkTables_eq_ok_iff]
  exact ⟨by simp [OrderedMap.mapValues, asValues], named⟩

/-- What passes the check is a listing of named tables. -/
theorem exists_listing {given : Listing} {checked : List (Text × List Text)}
    (passes : checkListing given = .ok checked) :
    ∃ tables, given = listing tables ∧ Named tables ∧ tables.entries = checked := by
  cases given with
  | other value => contradiction
  | tables entries =>
      obtain ⟨written, named⟩ := checkTables_eq_ok_iff.1 passes
      have keys : ((checked.map Prod.fst).map Value.string).Nodup := by
        simpa [written, List.map_map, Function.comp_def] using entries.nodup_keys
      refine ⟨⟨checked, List.Nodup.of_map _ keys⟩, ?_, named, rfl⟩
      rw [listing, Listing.tables.injEq]
      ext1
      simp [written, OrderedMap.mapValues, asValues]

theorem bind_eq_ok_iff {ε α β : Type} {first : Except ε α} {next : α → Except ε β} {result : β} :
    first >>= next = .ok result ↔ ∃ a, first = .ok a ∧ next a = .ok result := by
  cases first <;> simp [bind, Except.bind]

/-- Settings that pass all checks pass them with another listing that passes its check. -/
theorem check_listing {settings : Settings} {config : Config}
    (checked : settings.check = .ok config) :
    checkListing settings.translatables = .ok config.translatables ∧
      ∀ {given : Listing} {tables : List (Text × List Text)}, checkListing given = .ok tables →
        { settings with translatables := given }.check =
          .ok { config with translatables := tables } := by
  simp only [check, bind_eq_ok_iff] at checked
  obtain ⟨tables, listed, delimiter, delimiterChecked, encoding, encodingChecked, size,
    sizeChecked, same⟩ := checked
  cases same
  refine ⟨listed, ?_⟩
  intro given tables listed
  simp only [check, bind_eq_ok_iff]
  exact ⟨tables, listed, delimiter, delimiterChecked, encoding, encodingChecked, size,
    sizeChecked, rfl⟩

/-! ## Adding columns -/

/-- Tables with a column added, unless it is there. -/
def withColumn (tables : OrderedMap Text (List Text)) (column : ColumnName) :
    OrderedMap Text (List Text) :=
  tables.update column.1 fun columns =>
    let columns := columns.getD []
    if columns.any (· = column.2) then columns else columns ++ [column.2]

/-- Tables with columns added, one after the other. -/
def withColumns (tables : OrderedMap Text (List Text)) (columns : List ColumnName) :
    OrderedMap Text (List Text) :=
  columns.foldl withColumn tables

theorem updateEntries_asValues {key : Text} {f : Option (List Text) → List Text}
    {g : Option (List Value) → List Value}
    (agree : ∀ columns, g (columns.map (List.map .string)) = (f columns).map .string)
    (entries : List (Text × List Text)) :
    OrderedMap.updateEntries (.string key) g
        (entries.map fun table => (.string table.1, table.2.map .string)) =
      (OrderedMap.updateEntries key f entries).map fun table =>
        (Value.string table.1, table.2.map Value.string) := by
  induction entries with
  | nil => simpa [OrderedMap.updateEntries] using agree none
  | cons table entries ih =>
      have first := agree (some table.2)
      by_cases same : table.1 = key
      · simpa [OrderedMap.updateEntries, same] using first
      · simpa [OrderedMap.updateEntries, same] using ih

theorem addColumn_asValues (tables : OrderedMap Text (List Text)) (column : ColumnName) :
    addColumn (asValues tables) column = asValues (withColumn tables column) := by
  ext1
  apply updateEntries_asValues
  intro columns
  cases columns with
  | none => simp
  | some columns =>
      simp only [Option.map_some, Option.getD_some, List.mem_map, Value.string.injEq,
        exists_eq_right, List.any_eq_true, decide_eq_true_eq]
      split <;> simp

theorem foldl_addColumn_asValues (columns : List ColumnName)
    (tables : OrderedMap Text (List Text)) :
    columns.foldl addColumn (asValues tables) = asValues (withColumns tables columns) := by
  induction columns generalizing tables with
  | nil => rfl
  | cons column columns ih =>
      rw [List.foldl_cons, addColumn_asValues, ih]
      rfl

theorem listItems_eq (entries : List (Value × List Value)) :
    listItems (entries.map fun entry => (entry.1, .array entry.2)) = .ok entries := by
  induction entries with
  | nil => rfl
  | cons entry entries ih => simp [listItems, itemsOf, ih, Except.map]

theorem readColumns_eq {written : List Text} {columns : List ColumnName}
    (read : written.mapM ColumnName.ofText? = some columns) :
    readColumns written = .ok columns := by
  induction written generalizing columns with
  | nil =>
      cases read
      rfl
  | cons text written ih =>
      simp only [List.mapM_cons, Option.pure_def, Option.bind_eq_bind,
        Option.bind_eq_some_iff, Option.some.injEq] at read
      obtain ⟨column, first, columns, others, rfl⟩ := read
      simp [readColumns, first, ih others, Except.map]

/-- Adding columns to a listing of tables gives the listing of the tables with these columns. -/
theorem addColumns_listing {written : List Text} {columns : List ColumnName}
    (read : written.mapM ColumnName.ofText? = some columns)
    (tables : OrderedMap Text (List Text)) :
    addColumns (listing tables) written = .ok (listing (withColumns tables columns)) := by
  simp only [addColumns, listing, bind_eq_ok_iff]
  refine ⟨(asValues tables).entries, listItems_eq _, columns, readColumns_eq read, ?_⟩
  rw [OrderedMap.ofList_entries, foldl_addColumn_asValues]
  rfl

/-- Settings are overridden with the listing that has the columns. -/
theorem override_eq {settings : Settings} {tables : OrderedMap Text (List Text)}
    {written : List Text} {columns : List ColumnName}
    (listed : settings.translatables = listing tables)
    (read : written.mapM ColumnName.ofText? = some columns) :
    settings.override written [] =
      .ok { settings with translatables := listing (withColumns tables columns) } := by
  by_cases none : written = []
  · subst none
    cases read
    cases settings
    cases listed
    rfl
  · have free : firstNamed? takenNames [] = Option.none := rfl
    simp only [override, free, none, if_false, bind_eq_ok_iff]
    exact ⟨_, by rw [listed, addColumns_listing read], rfl⟩

/-! ## Tables with columns added -/

section

variable {tables : OrderedMap Text (List Text)} {columns : List ColumnName}

theorem keys_withColumn_of_mem {column : ColumnName} (listed : column.1 ∈ tables.keys) :
    (withColumn tables column).keys = tables.keys := by
  rw [withColumn, OrderedMap.keys_update, if_pos listed]

theorem keys_withColumn_of_not_mem {column : ColumnName} (unlisted : column.1 ∉ tables.keys) :
    (withColumn tables column).keys = tables.keys ++ [column.1] := by
  rw [withColumn, OrderedMap.keys_update, if_neg unlisted]

theorem get?_withColumn_of_ne {column : ColumnName} {table : Text} (other : column.1 ≠ table) :
    (withColumn tables column).get? table = tables.get? table := by
  rw [withColumn, OrderedMap.get?_update, if_neg other]

/-- The table of an added column has this column and those that it had, and no others. -/
theorem exists_get?_withColumn (tables : OrderedMap Text (List Text)) (column : ColumnName) :
    ∃ names, (withColumn tables column).get? column.1 = some names ∧
      ∀ name, name ∈ names ↔ name = column.2 ∨ name ∈ (tables.get? column.1).getD [] := by
  refine ⟨_, by rw [withColumn, OrderedMap.get?_update, if_pos rfl], ?_⟩
  intro name
  by_cases listed : column.2 ∈ (tables.get? column.1).getD []
  · simp only [List.any_eq_true, decide_eq_true_eq, exists_eq_right, listed, if_true]
    exact ⟨.inr, fun mem => mem.elim (fun same => same ▸ listed) id⟩
  · simp [listed, or_comm]

theorem Named.withColumn {column : ColumnName} (named : Named tables) (table : column.1 ≠ [])
    (filled : column.2 ≠ []) : Named (withColumn tables column) := by
  rintro ⟨other, names⟩ mem
  rw [OrderedMap.mem_entries_iff] at mem
  by_cases same : column.1 = other
  · subst same
    obtain ⟨names', stored, mem_iff⟩ := exists_get?_withColumn tables column
    rw [mem, Option.some.injEq] at stored
    subst stored
    refine ⟨table, ?_⟩
    intro empty
    rcases (mem_iff []).1 empty with none | listed
    · exact filled none.symm
    · cases before : tables.get? column.1 with
      | none => simp [before] at listed
      | some old =>
          rw [before] at listed
          exact (named _ (OrderedMap.mem_entries_iff.2 before)).2 listed
  · rw [get?_withColumn_of_ne same] at mem
    exact named _ (OrderedMap.mem_entries_iff.2 mem)

theorem Named.withColumns (named : Named tables)
    (filled : ∀ column ∈ columns, column.1 ≠ [] ∧ column.2 ≠ []) :
    Named (withColumns tables columns) := by
  induction columns generalizing tables with
  | nil => exact named
  | cons column columns ih =>
      rw [List.forall_mem_cons] at filled
      exact ih (named.withColumn filled.1.1 filled.1.2) filled.2

/-- The tables of added columns that are not listed come at the end. -/
theorem exists_keys_withColumns (tables : OrderedMap Text (List Text))
    (columns : List ColumnName) :
    ∃ new, (withColumns tables columns).keys = tables.keys ++ new ∧
      ∀ table ∈ new, table ∈ columns.map Prod.fst ∧ table ∉ tables.keys := by
  induction columns generalizing tables with
  | nil => exact ⟨[], by simp [withColumns], by simp⟩
  | cons column columns ih =>
      obtain ⟨new, keys, fresh⟩ := ih (withColumn tables column)
      by_cases listed : column.1 ∈ tables.keys
      · rw [keys_withColumn_of_mem listed] at keys fresh
        refine ⟨new, keys, ?_⟩
        intro table mem
        exact ⟨List.mem_cons_of_mem _ (fresh table mem).1, (fresh table mem).2⟩
      · rw [keys_withColumn_of_not_mem listed] at keys fresh
        refine ⟨column.1 :: new, by rw [List.append_cons]; exact keys, ?_⟩
        rw [List.forall_mem_cons]
        refine ⟨⟨List.mem_cons_self, listed⟩, ?_⟩
        intro table mem
        obtain ⟨added, absent⟩ := fresh table mem
        exact ⟨List.mem_cons_of_mem _ added, fun listed => absent (List.mem_append_left _ listed)⟩

theorem mem_keys_withColumns_iff {table : Text} :
    table ∈ (withColumns tables columns).keys ↔
      table ∈ tables.keys ∨ table ∈ columns.map Prod.fst := by
  induction columns generalizing tables with
  | nil => simp [withColumns]
  | cons column columns ih =>
      have step : table ∈ (withColumn tables column).keys ↔
          table ∈ tables.keys ∨ table = column.1 := by
        by_cases listed : column.1 ∈ tables.keys
        · rw [keys_withColumn_of_mem listed]
          exact ⟨.inl, fun mem => mem.elim id fun same => same ▸ listed⟩
        · rw [keys_withColumn_of_not_mem listed, List.mem_append, List.mem_singleton]
      rw [List.map_cons, List.mem_cons, ← or_assoc, ← step]
      exact ih

/-- A listed table keeps its columns. -/
theorem exists_columns_of_get? {table : Text} {names : List Text}
    (listed : tables.get? table = some names) (columns : List ColumnName) :
    ∃ names', (withColumns tables columns).get? table = some names' ∧ names ⊆ names' := by
  induction columns generalizing tables names with
  | nil => exact ⟨names, listed, List.Subset.refl names⟩
  | cons column columns ih =>
      by_cases same : column.1 = table
      · subst same
        obtain ⟨more, stored, mem_iff⟩ := exists_get?_withColumn tables column
        obtain ⟨names', found, kept⟩ := ih stored
        refine ⟨names', found, fun name mem => kept ((mem_iff name).2 (.inr ?_))⟩
        rwa [listed, Option.getD_some]
      · exact ih (by rw [get?_withColumn_of_ne same, listed])

/-- An added column is listed for its table. -/
theorem exists_columns_of_mem (tables : OrderedMap Text (List Text)) {column : ColumnName}
    (added : column ∈ columns) :
    ∃ names, (withColumns tables columns).get? column.1 = some names ∧ column.2 ∈ names := by
  induction columns generalizing tables with
  | nil => contradiction
  | cons first columns ih =>
      rcases List.mem_cons.1 added with rfl | added
      · obtain ⟨names, stored, mem_iff⟩ := exists_get?_withColumn tables column
        obtain ⟨names', found, kept⟩ := exists_columns_of_get? stored columns
        exact ⟨names', found, kept ((mem_iff _).2 (.inl rfl))⟩
      · exact ih _ added

end

end SeedCatalog.Settings

namespace SeedCatalog

open Identifier Settings

/-! ## The registry with columns added -/

section

variable {tables : OrderedMap Text (List Text)} {columns : List ColumnName}

theorem Registry.contains_withColumns_iff {key : Text} :
    (ofTables (withColumns tables columns).entries).tables.contains key = true ↔
      (ofTables tables.entries).tables.contains key = true ∨
        ∃ added ∈ columns, normalize added.1 = key := by
  have keys (table : Text) : table ∈ (withColumns tables columns).entries.map Prod.fst ↔
      table ∈ tables.entries.map Prod.fst ∨ table ∈ columns.map Prod.fst :=
    mem_keys_withColumns_iff
  rw [contains_ofTables_iff, contains_ofTables_iff]
  constructor
  · rintro ⟨table, known, same⟩
    rcases (keys table).1 known with listed | added
    · exact .inl ⟨table, listed, same⟩
    · obtain ⟨column, mem, rfl⟩ := List.mem_map.1 added
      exact .inr ⟨column, mem, same⟩
  · rintro (⟨table, listed, same⟩ | ⟨added, mem, same⟩)
    · exact ⟨table, (keys table).2 (.inl listed), same⟩
    · exact ⟨added.1, (keys added.1).2 (.inr (List.mem_map_of_mem mem)), same⟩

/-- A reference resolves as before, unless it did so by its bare name and its whole name is
added. -/
theorem Registry.resolve_withColumns {reference key : Text}
    (resolved : (ofTables tables.entries).resolve reference = some key)
    (unhidden : key = normalize reference ∨
      ∀ added ∈ columns, normalize added.1 ≠ normalize reference) :
    (ofTables (withColumns tables columns).entries).resolve reference = some key := by
  have known : (ofTables (withColumns tables columns).entries).tables.contains key = true :=
    contains_withColumns_iff.2 (.inl (contains_of_resolve_eq_some resolved))
  by_cases whole : key = normalize reference
  · rw [whole] at known ⊢
    exact resolve_of_contains known
  · have unlisted : (ofTables tables.entries).tables.contains (normalize reference) = false := by
      by_contra listed
      rw [resolve_of_contains (by simpa using listed), Option.some.injEq] at resolved
      exact whole resolved.symm
    have unadded : (ofTables (withColumns tables columns).entries).tables.contains
        (normalize reference) = false := by
      by_contra listed
      rcases contains_withColumns_iff.1 (by simpa using listed) with listed | ⟨added, mem, same⟩
      · simp [unlisted] at listed
      · exact unhidden.resolve_left whole added mem same
    simp only [resolve, unlisted, unadded, Bool.false_eq_true, if_false] at resolved ⊢
    split at resolved
    · cases resolved
      rw [if_pos known]
    · contradiction

/-- The columns of a key stay, if no table with its name is added in a new spelling. -/
theorem Registry.exists_columns_of_get? {key : Text} {names : List Text}
    (stored : (ofTables tables.entries).tables.get? key = some names)
    (spelled : ∀ added ∈ columns, normalize added.1 = key → added.1 ∈ tables.keys) :
    ∃ names', (ofTables (withColumns tables columns).entries).tables.get? key = some names' ∧
      names ⊆ names' := by
  obtain ⟨before, table, listed, after, entries, rfl, rfl, absent⟩ :=
    get?_ofTables_eq_some_iff.1 stored
  have mem : (table, listed) ∈ tables.entries := by
    rw [entries]
    exact List.mem_append_right _ List.mem_cons_self
  obtain ⟨more, found, kept⟩ :=
    Settings.exists_columns_of_get? (OrderedMap.mem_entries_iff.1 mem) columns
  obtain ⟨before', after', entries'⟩ := List.append_of_mem (OrderedMap.mem_entries_iff.2 found)
  obtain ⟨new, keys, fresh⟩ := exists_keys_withColumns tables columns
  -- Behind the table stand the tables that stood there, and those that are added at the end.
  have behind : after'.map Prod.fst = after.map Prod.fst ++ new := by
    rw [OrderedMap.keys, OrderedMap.keys, entries, entries', List.map_append, List.map_append,
      List.map_cons, List.map_cons, List.append_assoc, List.cons_append] at keys
    obtain ⟨notBefore, notAfter⟩ := OrderedMap.not_mem_of_entries_eq entries'
    exact ((List.append_cons_inj_of_notMem notBefore notAfter).1 keys).2.2
  refine ⟨_, get?_ofTables_eq_some_iff.2 ⟨before', table, more, after', entries', rfl, rfl, ?_⟩,
    List.map_subset _ kept⟩
  intro other known same
  rw [behind] at known
  rcases List.mem_append.1 known with listed | added
  · exact absent other listed same
  · obtain ⟨added, unlisted⟩ := fresh other added
    obtain ⟨column, mem, rfl⟩ := List.mem_map.1 added
    exact unlisted (spelled column mem same)

/-- The columns of an added table hold the added column, if all tables with its name are spelled
alike. -/
theorem Registry.exists_columns_of_mem {added : ColumnName} (mem : added ∈ columns)
    (spelled : ∀ other ∈ tables.keys ++ columns.map Prod.fst,
      normalize other = normalize added.1 → other = added.1) :
    ∃ names, (ofTables (withColumns tables columns).entries).tables.get? (normalize added.1) =
      some names ∧ normalize added.2 ∈ names := by
  obtain ⟨listed, found, column⟩ := Settings.exists_columns_of_mem tables mem
  obtain ⟨before, after, entries⟩ := List.append_of_mem (OrderedMap.mem_entries_iff.2 found)
  refine ⟨_, get?_ofTables_eq_some_iff.2 ⟨before, added.1, listed, after, entries, rfl, rfl, ?_⟩,
    List.mem_map_of_mem column⟩
  intro other behind same
  have known : other ∈ tables.keys ++ columns.map Prod.fst := by
    rw [List.mem_append, ← mem_keys_withColumns_iff, OrderedMap.keys, entries, List.map_append]
    exact List.mem_append_right _ (List.mem_cons_of_mem _ behind)
  rw [spelled other known same] at behind
  exact (OrderedMap.not_mem_of_entries_eq entries).2 behind

end

/-! ## The configuration with columns added -/

theorem ColumnName.ne_nil_of_ofText? {text : Text} {column : ColumnName}
    (read : ofText? text = some column) : column.1 ≠ [] ∧ column.2 ≠ [] := by
  unfold ofText? at read
  split at read
  · split at read
    · contradiction
    · rename_i filled
      cases read
      exact not_or.1 filled
  · contradiction

theorem ColumnName.ne_nil_of_mapM {written : List Text} {columns : List ColumnName}
    (read : written.mapM ofText? = some columns) :
    ∀ column ∈ columns, column.1 ≠ [] ∧ column.2 ≠ [] := by
  induction written generalizing columns with
  | nil =>
      cases read
      simp
  | cons text written ih =>
      simp only [List.mapM_cons, Option.pure_def, Option.bind_eq_bind,
        Option.bind_eq_some_iff, Option.some.injEq] at read
      obtain ⟨column, first, columns, others, rfl⟩ := read
      rw [List.forall_mem_cons]
      exact ⟨ne_nil_of_ofText? first, ih others⟩

/-- A configuration lists every table once.  It stays valid when columns are added to it, and lists
its tables with these columns. -/
theorem Config.exists_override {settings : Settings} {config : Config} {written : List Text}
    {columns : List ColumnName} (checked : settings.check = .ok config)
    (read : written.mapM ColumnName.ofText? = some columns) :
    (OrderedMap.ofList config.translatables).entries = config.translatables ∧
      ∃ settings' config', settings.override written [] = .ok settings' ∧
        settings'.check = .ok config' ∧
        config'.translatables =
          (withColumns (.ofList config.translatables) columns).entries := by
  obtain ⟨listed, passes⟩ := check_listing checked
  obtain ⟨tables, given, named, entries⟩ := exists_listing listed
  have named' := named.withColumns (ColumnName.ne_nil_of_mapM read)
  rw [← entries, OrderedMap.ofList_entries]
  exact ⟨rfl, _, _, override_eq given read, passes (checkListing_listing named'), rfl⟩

/-- A configuration to which columns are added stays valid, and every column that was translatable
stays so, unless a table is added under the whole name of its reference or in a new spelling. -/
theorem Config.registry_override {settings : Settings} {config : Config} {written : List Text}
    {columns : List ColumnName} (checked : settings.check = .ok config)
    (read : written.mapM ColumnName.ofText? = some columns) :
    ∃ settings' config', settings.override written [] = .ok settings' ∧
      settings'.check = .ok config' ∧
      (∀ reference column key, config.registry.resolve reference = some key →
        config.registry.isTranslatable reference column = true →
        (key = normalize reference ∨
          ∀ added ∈ columns, normalize added.1 ≠ normalize reference) →
        (∀ added ∈ columns, normalize added.1 = key →
          added.1 ∈ config.translatables.map Prod.fst) →
        config'.registry.isTranslatable reference column = true) ∧
      ∀ added ∈ columns,
        (∀ reference, normalize reference = normalize added.1 →
          config'.registry.resolve reference = some (normalize added.1)) ∧
        ((∀ other ∈ config.translatables.map Prod.fst ++ columns.map Prod.fst,
            normalize other = normalize added.1 → other = added.1) →
          config'.registry.isTranslatable added.1 added.2 = true) := by
  obtain ⟨entries, settings', config', overridden, checked', entries'⟩ :=
    Config.exists_override checked read
  generalize OrderedMap.ofList config.translatables = tables at entries entries'
  have resolves {added : ColumnName} (mem : added ∈ columns) {reference : Text}
      (same : normalize reference = normalize added.1) :
      (Registry.ofTables (withColumns tables columns).entries).resolve reference =
        some (normalize added.1) := by
    rw [← same]
    exact Registry.resolve_of_contains
      (Registry.contains_withColumns_iff.2 (.inr ⟨added, mem, same.symm⟩))
  refine ⟨settings', config', overridden, checked', ?_⟩
  simp only [Config.registry, entries']
  constructor
  · intro reference column key resolved translatable unhidden spelled
    rw [← entries] at resolved translatable
    rw [← entries] at spelled
    obtain ⟨key', names, resolved', stored, mem⟩ := Registry.isTranslatable_iff.1 translatable
    rw [resolved, Option.some.injEq] at resolved'
    subst resolved'
    obtain ⟨names', stored', kept⟩ := Registry.exists_columns_of_get? stored spelled
    exact Registry.isTranslatable_iff.2
      ⟨key, names', Registry.resolve_withColumns resolved unhidden, stored', kept mem⟩
  · intro added mem
    refine ⟨fun reference same => resolves mem same, ?_⟩
    intro spelled
    rw [← entries] at spelled
    obtain ⟨names, stored, column⟩ := Registry.exists_columns_of_mem mem spelled
    exact Registry.isTranslatable_iff.2 ⟨_, names, resolves mem rfl, stored, column⟩

/-- The configuration whose settings all have their defaults. -/
def Config.default : Config :=
  ⟨defaultTranslatables, '\t', "UTF-8".toList, .utf8, 52428800, by decide⟩

/-- A column is added to a listed table, and another to a new one with a schema. -/
theorem Config.registry_override_default :
    ∃ settings' config',
      ({} : Settings).override
        ["menu_node.title".toList, "public.widget.caption".toList] [] = .ok settings' ∧
      settings'.check = .ok config' ∧
      config'.registry.isTranslatable "public.menu_node".toList "label".toList = true ∧
      config'.registry.isTranslatable "menu_node".toList "title".toList = true ∧
      config'.registry.isTranslatable "public.widget".toList "caption".toList = true := by
  have checked : ({} : Settings).check = .ok Config.default := rfl
  have read : ["menu_node.title".toList, "public.widget.caption".toList].mapM
      ColumnName.ofText? = some [("menu_node".toList, "title".toList),
        ("public.widget".toList, "caption".toList)] := by decide +kernel
  obtain ⟨settings', config', overridden, checked', kept, added⟩ :=
    Config.registry_override checked read
  have label := kept "public.menu_node".toList "label".toList "menu_node".toList
    (by decide +kernel) (by decide +kernel) (.inr (by decide +kernel)) (by decide +kernel)
  have title := (added ("menu_node".toList, "title".toList) (by simp)).2 (by decide +kernel)
  have caption := (added ("public.widget".toList, "caption".toList) (by simp)).2
    (by decide +kernel)
  exact ⟨settings', config', overridden, checked', label, title, caption⟩

/-- The table `public.menu_node` means `menu_node` at first, and hides it once it is added.  The
table `Menu_Node` is added beside `menu_node`, and then takes its place. -/
theorem Config.override_hides_columns :
    ({} : Settings).check = .ok Config.default ∧
      Config.default.registry.isTranslatable "public.menu_node".toList "label".toList = true ∧
      Config.default.registry.isTranslatable "menu_node".toList "label".toList = true ∧
      (∃ settings' config',
        ({} : Settings).override ["public.menu_node.title".toList] [] = .ok settings' ∧
        settings'.check = .ok config' ∧
        config'.registry.isTranslatable "public.menu_node".toList "label".toList = false) ∧
      ∃ settings' config',
        ({} : Settings).override ["Menu_Node.title".toList] [] = .ok settings' ∧
        settings'.check = .ok config' ∧
        config'.registry.isTranslatable "menu_node".toList "label".toList = false := by
  have checked : ({} : Settings).check = .ok Config.default := rfl
  have hidden {written table title reference : Text}
      (read : [written].mapM ColumnName.ofText? = some [(table, title)])
      (lost : (Registry.ofTables (withColumns (.ofList defaultTranslatables)
        [(table, title)]).entries).isTranslatable reference "label".toList = false) :
      ∃ settings' config', ({} : Settings).override [written] [] = .ok settings' ∧
        settings'.check = .ok config' ∧
        config'.registry.isTranslatable reference "label".toList = false := by
    obtain ⟨-, settings', config', overridden, checked', entries'⟩ :=
      Config.exists_override checked read
    exact ⟨settings', config', overridden, checked', by rw [Config.registry, entries']; exact lost⟩
  refine ⟨checked, by decide +kernel, by decide +kernel, ?_, ?_⟩
  · have read : ["public.menu_node.title".toList].mapM ColumnName.ofText? =
        some [("public.menu_node".toList, "title".toList)] := by decide +kernel
    exact hidden read (by decide +kernel)
  · have read : ["Menu_Node.title".toList].mapM ColumnName.ofText? =
        some [("Menu_Node".toList, "title".toList)] := by decide +kernel
    exact hidden read (by decide +kernel)

end SeedCatalog
