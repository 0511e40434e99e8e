import SeedCatalog.Config.Memory
import SeedCatalog.Proofs.Config.Merge

/-!
# Columns added in memory

In memory, tables refer to their lists of columns, and both are changed where
they are.  Columns are therefore added to a copy: new tables are made, with a
copy of every list, and only these are changed.  So whatever was in memory before
is still there as it was, also when a malformed column stops the adding halfway.
-/

namespace SeedCatalog.Settings.Memory

/-- What tables look like: every table has the list that its place refers to. -/
structure Shows (memory : Memory) (references : OrderedMap Value Nat)
    (tables : OrderedMap Value (List Value)) : Prop where
  keys : references.keys = tables.keys
  lists : ∀ table list, references.get? table = some list →
    memory[list]? = (tables.get? table).map .items

/-- What tables at a place look like. -/
def Stores (memory : Memory) (place : Nat) (tables : OrderedMap Value (List Value)) : Prop :=
  ∃ references, memory[place]? = some (.tables references) ∧ memory.Shows references tables

/-- Tables in memory that share nothing with what was there before: they and their lists stand at
new places, each list at one of its own. -/
structure Owns (before memory : Memory) (place : Nat) (references : OrderedMap Value Nat)
    (tables : OrderedMap Value (List Value)) : Prop where
  kept : before <+: memory
  fresh : before.length ≤ place
  there : memory[place]? = some (.tables references)
  shows : memory.Shows references tables
  behind : ∀ table list, references.get? table = some list → before.length ≤ list
  apart : ∀ table other list, references.get? table = some list →
    references.get? other = some list → table = other

variable {before memory : Memory} {place : Nat} {references : OrderedMap Value Nat}
  {tables : OrderedMap Value (List Value)}

/-- Places stay those of one table each when one more table gets a place that none has. -/
theorem apart_of_fresh {α : Type} [DecidableEq α] {places : α → Option Nat} {new : Nat}
    (apart : ∀ table other place, places table = some place → places other = some place →
      table = other)
    (fresh : ∀ table, places table ≠ some new) (added table other : α) (place : Nat) :
    (if added = table then some new else places table) = some place →
      (if added = other then some new else places other) = some place → table = other := by
  split <;> split
  · rename_i same same'
    exact fun _ _ => same.symm.trans same'
  · rintro ⟨⟩ found
    exact (fresh other found).elim
  · rintro found ⟨⟩
    exact (fresh table found).elim
  · exact apart table other place

/-- What is behind the memory of before can be changed without changing that. -/
theorem isPrefix_set (kept : before <+: memory) (fresh : before.length ≤ place) (cell : Cell) :
    before <+: memory.set place cell := by
  obtain ⟨rest, rfl⟩ := kept
  rw [List.set_append_right _ _ fresh]
  exact List.prefix_append _ _

/-- What is in memory stays when something is put behind it. -/
theorem getElem?_of_isPrefix {memory' : Memory} (kept : memory <+: memory') {cell : Cell}
    (there : memory[place]? = some cell) : memory'[place]? = some cell := by
  obtain ⟨rest, rfl⟩ := kept
  rw [List.getElem?_append_left (List.getElem?_eq_some_iff.1 there).1, there]

/-- A table in memory is one of those that the tables look like. -/
theorem Shows.exists_items (shown : memory.Shows references tables) {table : Value} {list : Nat}
    (refers : references.get? table = some list) :
    ∃ items, tables.get? table = some items ∧ memory[list]? = some (.items items) := by
  have known : table ∈ tables.keys := shown.keys ▸ OrderedMap.mem_keys_iff.2 ⟨list, refers⟩
  obtain ⟨items, found⟩ := OrderedMap.mem_keys_iff.1 known
  refine ⟨items, found, ?_⟩
  rw [shown.lists table list refers, found, Option.map_some]

theorem Stores.mono {memory' : Memory} (stores : memory.Stores place tables)
    (kept : memory <+: memory') : memory'.Stores place tables := by
  obtain ⟨references, there, shown⟩ := stores
  refine ⟨references, getElem?_of_isPrefix kept there, shown.keys, ?_⟩
  intro table list refers
  obtain ⟨items, found, content⟩ := shown.exists_items refers
  rw [found, Option.map_some]
  exact getElem?_of_isPrefix kept content

theorem Owns.stores (owns : Owns before memory place references tables) :
    memory.Stores place tables :=
  ⟨references, owns.there, owns.shows⟩

theorem Owns.ne_place (owns : Owns before memory place references tables) {table : Value}
    {list : Nat} (refers : references.get? table = some list) : list ≠ place := by
  rintro rfl
  obtain ⟨items, -, content⟩ := owns.shows.exists_items refers
  rw [owns.there] at content
  cases content

/-! ## Adding one column -/

theorem Owns.ne_length (owns : Owns before memory place references tables) (table : Value) :
    references.get? table ≠ some memory.length := by
  intro refers
  obtain ⟨items, -, content⟩ := owns.shows.exists_items refers
  simp at content

/-- A table gets a new empty list, which stands behind all that was in memory. -/
theorem Owns.insert (owns : Owns before memory place references tables) (table : Value) :
    Owns before
      (memory.set place (.tables (references.insert table memory.length)) ++ [.items []]) place
      (references.insert table memory.length) (tables.insert table []) := by
  have within := (List.getElem?_eq_some_iff.1 owns.there).1
  refine ⟨?_, owns.fresh, ?_, ⟨?_, ?_⟩, ?_, ?_⟩
  · exact (isPrefix_set owns.kept owns.fresh _).trans (List.prefix_append _ _)
  · rw [List.getElem?_append_left (by rwa [List.length_set]), List.getElem?_set_self within]
  · rw [OrderedMap.insert, OrderedMap.insert, OrderedMap.keys_update, OrderedMap.keys_update,
      owns.shows.keys]
  · intro other list refers
    rw [OrderedMap.get?_insert] at refers ⊢
    by_cases same : table = other
    · rw [if_pos same] at refers ⊢
      cases refers
      rw [List.getElem?_append_right (by simp)]
      simp
    · rw [if_neg same] at refers ⊢
      obtain ⟨items, found, content⟩ := owns.shows.exists_items refers
      have inside := (List.getElem?_eq_some_iff.1 content).1
      rw [found, Option.map_some, List.getElem?_append_left (by rwa [List.length_set]),
        List.getElem?_set_ne (owns.ne_place refers).symm, content]
  · intro other list refers
    rw [OrderedMap.get?_insert] at refers
    split at refers
    · cases refers
      exact owns.kept.length_le
    · exact owns.behind other list refers
  · simp only [OrderedMap.get?_insert]
    exact apart_of_fresh owns.apart owns.ne_length table

/-- The list of a table is found or made, and is the only one that stands at its place. -/
theorem Owns.exists_listOf (owns : Owns before memory place references tables) (table : Value) :
    ∃ references', references'.get? table = some (memory.listOf place table).1 ∧
      Owns before (memory.listOf place table).2 place references'
        (tables.update table fun items => items.getD []) := by
  have here : memory.tablesAt place = references := by rw [tablesAt, owns.there]
  rw [listOf, here]
  cases refers : references.get? table with
  | some list =>
      obtain ⟨items, found, -⟩ := owns.shows.exists_items refers
      rw [OrderedMap.update_of_get? found rfl]
      exact ⟨references, refers, owns⟩
  | none =>
      have absent : tables.get? table = none := by
        rw [← OrderedMap.notMem_keys_iff, ← owns.shows.keys]
        exact OrderedMap.notMem_keys_iff.2 refers
      have made : (tables.update table fun items => items.getD []) = tables.insert table [] :=
        OrderedMap.update_congr (by rw [absent]; rfl)
      rw [made]
      exact ⟨references.insert table memory.length,
        by rw [OrderedMap.get?_insert, if_pos rfl], owns.insert table⟩

/-- A list that is changed is that of one table only. -/
theorem Owns.set (owns : Owns before memory place references tables) {table : Value} {list : Nat}
    (refers : references.get? table = some list) (items : List Value) :
    Owns before (memory.set list (.items items)) place references (tables.insert table items) := by
  obtain ⟨old, found, content⟩ := owns.shows.exists_items refers
  refine ⟨isPrefix_set owns.kept (owns.behind table list refers) _, owns.fresh, ?_, ⟨?_, ?_⟩,
    owns.behind, owns.apart⟩
  · rw [List.getElem?_set_ne (owns.ne_place refers), owns.there]
  · rw [OrderedMap.insert, OrderedMap.keys_update,
      if_pos (OrderedMap.mem_keys_iff.2 ⟨old, found⟩), owns.shows.keys]
  · intro other list' refers'
    rw [OrderedMap.get?_insert]
    by_cases same : table = other
    · subst same
      rw [refers, Option.some.injEq] at refers'
      subst refers'
      rw [if_pos rfl, Option.map_some,
        List.getElem?_set_self (List.getElem?_eq_some_iff.1 content).1]
    · have apart : list ≠ list' := by
        rintro rfl
        exact same (owns.apart table other list refers refers')
      rw [if_neg same, List.getElem?_set_ne apart, owns.shows.lists other list' refers']

/-- A column is added in memory as it is to a listing. -/
theorem Owns.addColumn (owns : Owns before memory place references tables)
    (column : ColumnName) :
    ∃ references', Owns before (memory.addColumn place column) place references'
      (Settings.addColumn tables column) := by
  obtain ⟨references', refers, owns'⟩ := owns.exists_listOf (.string column.1)
  obtain ⟨items, found, content⟩ := owns'.shows.exists_items refers
  rw [OrderedMap.get?_update, if_pos rfl, Option.some.injEq] at found
  have columns : itemsAt (memory.listOf place (.string column.1)).2
      (memory.listOf place (.string column.1)).1 = items := by
    rw [itemsAt, content]
  refine ⟨references', ?_⟩
  simp only [Memory.addColumn, columns]
  by_cases known : .string column.2 ∈ items
  · have same : Settings.addColumn tables column =
        tables.update (.string column.1) fun items => items.getD [] :=
      OrderedMap.update_congr (by simp [found, known])
    rw [if_pos known, same]
    exact owns'
  · have same : Settings.addColumn tables column =
        (tables.update (.string column.1) fun items => items.getD []).insert (.string column.1)
          (items ++ [.string column.2]) := by
      rw [OrderedMap.insert, OrderedMap.update_update]
      exact OrderedMap.update_congr (by simp [found, known])
    rw [if_neg known, same]
    exact owns'.set refers _

/-- Columns are added in memory as they are to a listing, and as far as they can be read. -/
theorem Owns.addColumns (owns : Owns before memory place references tables)
    (written : List Text) :
    before <+: (memory.addColumns place written).1 ∧
      ((∃ columns references', readColumns written = .ok columns ∧
          (memory.addColumns place written).2 = .ok () ∧
          Owns before (memory.addColumns place written).1 place references'
            (columns.foldl Settings.addColumn tables)) ∨
        ∃ error, readColumns written = .error error ∧
          (memory.addColumns place written).2 = .error error) := by
  induction written generalizing memory references tables with
  | nil => exact ⟨owns.kept, .inl ⟨[], references, rfl, rfl, owns⟩⟩
  | cons text written ih =>
      rw [Memory.addColumns, readColumns]
      cases ColumnName.ofText? text with
      | none => exact ⟨owns.kept, .inr ⟨_, rfl, rfl⟩⟩
      | some column =>
          obtain ⟨references', owns'⟩ := owns.addColumn column
          obtain ⟨kept, ⟨columns, references'', read, done, owns''⟩ | ⟨error, unread, failed⟩⟩ :=
            ih owns'
          · exact ⟨kept, .inl ⟨column :: columns, references'', by rw [read]; rfl, done, owns''⟩⟩
          · exact ⟨kept, .inr ⟨error, by rw [unread]; rfl, failed⟩⟩

/-! ## Copying -/

/-- Copies of lists stand at new places, each at one of its own, with what the lists hold. -/
theorem copyLists_spec {entries : List (Value × Nat)} {memory : Memory}
    (lists : ∀ entry ∈ entries, ∃ items, memory[entry.2]? = some (.items items)) :
    memory <+: (memory.copyLists entries).2 ∧
      (memory.copyLists entries).1.map Prod.fst = entries.map Prod.fst ∧
      (∀ table copy, OrderedMap.lookup table (memory.copyLists entries).1 = some copy →
        memory.length ≤ copy ∧ ∃ list, OrderedMap.lookup table entries = some list ∧
          (memory.copyLists entries).2[copy]? = memory[list]?) ∧
      ∀ table other copy, OrderedMap.lookup table (memory.copyLists entries).1 = some copy →
        OrderedMap.lookup other (memory.copyLists entries).1 = some copy → table = other := by
  induction entries generalizing memory with
  | nil => exact ⟨List.prefix_rfl, rfl, nofun, nofun⟩
  | cons entry entries ih =>
      obtain ⟨first, list⟩ := entry
      rw [List.forall_mem_cons] at lists
      obtain ⟨⟨items, content⟩, lists⟩ := lists
      have copied : memory.itemsAt list = items := by rw [itemsAt, content]
      have more : memory <+: memory ++ [.items items] := List.prefix_append _ _
      obtain ⟨kept, keys, copies, apart⟩ := ih fun entry mem =>
        let ⟨items, content⟩ := lists entry mem
        ⟨items, getElem?_of_isPrefix more content⟩
      rw [copyLists, copied]
      simp only [OrderedMap.lookup, List.map_cons, keys, true_and]
      refine ⟨more.trans kept, ?_, ?_⟩
      · intro table copy found
        split at found
        · rename_i same
          cases found
          refine ⟨Nat.le_refl _, list, if_pos same, ?_⟩
          rw [content]
          exact getElem?_of_isPrefix kept (by simp)
        · rename_i other
          obtain ⟨fresh, list', found', content'⟩ := copies table copy found
          rw [List.length_append] at fresh
          refine ⟨Nat.le_of_add_right_le fresh, list', by rw [if_neg other, found'], ?_⟩
          obtain ⟨before, after, rfl, -⟩ := OrderedMap.lookup_eq_some_iff.1 found'
          obtain ⟨items', there⟩ := lists (table, list') (by simp)
          rw [content', there, getElem?_of_isPrefix more there]
      · -- Later copies stand behind the first one.
        refine apart_of_fresh apart ?_ first
        intro table found
        have fresh := (copies table memory.length found).1
        rw [List.length_append] at fresh
        exact Nat.not_succ_le_self _ fresh

/-- A copy of tables shares nothing with them. -/
theorem Stores.exists_owns {source : Nat} (stores : memory.Stores source tables) :
    ∃ references, Owns memory
      ((memory.copyLists (memory.tablesAt source).entries).2 ++
        [.tables (.ofList (memory.copyLists (memory.tablesAt source).entries).1)])
      (memory.copyLists (memory.tablesAt source).entries).2.length references tables := by
  obtain ⟨references, there, shown⟩ := stores
  have here : memory.tablesAt source = references := by rw [tablesAt, there]
  have readable : ∀ entry ∈ references.entries, ∃ items,
      memory[entry.2]? = some (.items items) := fun entry mem =>
    let ⟨items, _, content⟩ := shown.exists_items (OrderedMap.mem_entries_iff.1 mem)
    ⟨items, content⟩
  obtain ⟨kept, keys', copies, apart⟩ := copyLists_spec readable
  rw [here]
  let merged : OrderedMap Value Nat :=
    ⟨(memory.copyLists references.entries).1, by rw [keys']; exact references.nodup_keys⟩
  have made : OrderedMap.ofList (memory.copyLists references.entries).1 = merged :=
    OrderedMap.ofList_entries merged
  rw [made]
  refine ⟨merged, kept.trans (List.prefix_append _ _), kept.length_le, by simp,
    ⟨keys'.trans shown.keys, ?_⟩, fun table copy found => (copies table copy found).1, apart⟩
  intro table copy found
  obtain ⟨-, list, refers, content⟩ := copies table copy found
  obtain ⟨items, stored, there'⟩ := shown.exists_items refers
  rw [stored, Option.map_some]
  exact getElem?_of_isPrefix (List.prefix_append _ _) (content.trans there')

/-- Columns are added in memory as they are to a listing.  Everything that was there is as it was,
whether or not the columns can be read. -/
theorem merge_spec {source : Nat} (stores : memory.Stores source tables) (written : List Text) :
    memory <+: (memory.merge source written).1 ∧
      ((∃ place tables', (memory.merge source written).2 = .ok place ∧
          Settings.merge (.tables (tables.mapValues .array)) written =
            .ok (.tables (tables'.mapValues .array)) ∧
          (memory.merge source written).1.Stores place tables') ∨
        ∃ error, (memory.merge source written).2 = .error error ∧
          Settings.merge (.tables (tables.mapValues .array)) written = .error error) := by
  by_cases none : written = []
  · rw [merge, if_pos none, Settings.merge, if_pos none]
    exact ⟨List.prefix_rfl, .inl ⟨source, tables, rfl, rfl, stores⟩⟩
  · obtain ⟨references, owns⟩ := stores.exists_owns
    rw [merge, if_neg none, Settings.merge, if_neg none, addColumns_tables]
    obtain ⟨kept, ⟨columns, references', read, done, owns'⟩ | ⟨error, unread, failed⟩⟩ :=
      owns.addColumns written
    · refine ⟨kept, .inl ⟨_, columns.foldl Settings.addColumn tables, ?_, ?_, owns'.stores⟩⟩
      · simp only [done, Except.map]
      · rw [read]
        rfl
    · refine ⟨kept, .inr ⟨error, ?_, ?_⟩⟩
      · simp only [failed, Except.map]
      · rw [unread]
        rfl

end SeedCatalog.Settings.Memory
