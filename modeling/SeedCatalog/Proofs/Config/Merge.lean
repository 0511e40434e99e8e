import SeedCatalog.Proofs.Config.Override
import SeedCatalog.Proofs.OrderedMap

/-!
# Columns added in several turns

Columns are added to a listing one after the other, so adding some and then
others is adding all of them at once, with the same error if one of them is
malformed.  Every listed table keeps its place and its columns.  What is new
comes at the end, once and in the order in which it is mentioned first.
-/

namespace SeedCatalog.Settings

/-! ## Names behind a list -/

/-- Put a name behind a list, unless it is there. -/
def addName (names : List Text) (name : Text) : List Text :=
  if names.any (· = name) then names else names ++ [name]

/-- The names that are mentioned but not listed, each once, in the order in which they are mentioned
first. -/
def newNames (listed mentioned : List Text) : List Text :=
  (mentioned.filter fun name => !listed.any (· = name)).eraseDups

section

variable {listed : List Text} {name : Text}

theorem any_eq_false_iff : listed.any (· = name) = false ↔ name ∉ listed := by
  rw [← Bool.not_eq_true, List.any_eq_true]
  simp

theorem addName_of_mem (known : name ∈ listed) : addName listed name = listed :=
  if_pos (by simpa using known)

theorem addName_of_notMem (unknown : name ∉ listed) : addName listed name = listed ++ [name] := by
  rw [addName, any_eq_false_iff.2 unknown]
  rfl

theorem mem_newNames_iff {mentioned : List Text} :
    name ∈ newNames listed mentioned ↔ name ∈ mentioned ∧ name ∉ listed := by
  rw [newNames, List.mem_eraseDups, List.mem_filter, Bool.not_eq_true', any_eq_false_iff]

theorem newNames_cons_of_mem (known : name ∈ listed) (mentioned : List Text) :
    newNames listed (name :: mentioned) = newNames listed mentioned := by
  rw [newNames, List.filter_cons_of_neg (by simpa using known)]
  rfl

theorem newNames_cons_of_notMem (unknown : name ∉ listed) (mentioned : List Text) :
    newNames listed (name :: mentioned) = name :: newNames (listed ++ [name]) mentioned := by
  rw [newNames, List.filter_cons_of_pos (by rw [any_eq_false_iff.2 unknown]; rfl),
    List.eraseDups_cons, List.filter_filter, newNames]
  congr 3
  funext other
  by_cases same : name = other
  · simp [same]
  · simp [same, Ne.symm same]

/-- What is put behind a list one by one is what is new. -/
theorem foldl_addName (listed mentioned : List Text) :
    mentioned.foldl addName listed = listed ++ newNames listed mentioned := by
  induction mentioned generalizing listed with
  | nil => exact (List.append_nil listed).symm
  | cons name mentioned ih =>
      rw [List.foldl_cons, ih]
      by_cases known : name ∈ listed
      · rw [addName_of_mem known, newNames_cons_of_mem known]
      · rw [addName_of_notMem known, newNames_cons_of_notMem known, List.append_assoc]
        rfl

end

/-! ## Tables with columns added, written out -/

section

variable (tables : OrderedMap Text (List Text)) (columns : List ColumnName)

/-- The columns of a table among those that are mentioned. -/
def columnsOf (table : Text) (columns : List ColumnName) : List Text :=
  (columns.filter fun column => column.1 = table).map Prod.snd

/-- Tables with columns added.  Behind the columns of a table stand those of it that are new, and
behind the tables those that are new. -/
def extended (tables : List (Text × List Text)) (columns : List ColumnName) :
    List (Text × List Text) :=
  tables.map (fun (table, names) => (table, names ++ newNames names (columnsOf table columns))) ++
    (newNames (tables.map Prod.fst) (columns.map Prod.fst)).map
      fun table => (table, newNames [] (columnsOf table columns))

theorem withColumn_eq (column : ColumnName) :
    withColumn tables column =
      tables.update column.1 fun names => addName (names.getD []) column.2 := by
  simp [withColumn, addName]

theorem keys_withColumns :
    (withColumns tables columns).keys =
      tables.keys ++ newNames tables.keys (columns.map Prod.fst) := by
  rw [← foldl_addName]
  induction columns generalizing tables with
  | nil => rfl
  | cons column columns ih =>
      have first : (withColumn tables column).keys = addName tables.keys column.1 := by
        by_cases known : column.1 ∈ tables.keys
        · rw [addName_of_mem known, keys_withColumn_of_mem known]
        · rw [addName_of_notMem known, keys_withColumn_of_not_mem known]
      rw [List.map_cons, List.foldl_cons, ← first, ← ih]
      rfl

theorem get?_withColumns (table : Text) :
    ((withColumns tables columns).get? table).getD [] =
      (tables.get? table).getD [] ++
        newNames ((tables.get? table).getD []) (columnsOf table columns) := by
  rw [← foldl_addName]
  induction columns generalizing tables with
  | nil => rfl
  | cons column columns ih =>
      rw [withColumns, List.foldl_cons]
      refine (ih (withColumn tables column)).trans ?_
      rw [withColumn_eq, OrderedMap.get?_update, columnsOf, columnsOf, List.filter_cons]
      by_cases same : column.1 = table
      · simp [same]
      · simp [same]

theorem entries_withColumns :
    (withColumns tables columns).entries = extended tables.entries columns := by
  rw [OrderedMap.entries_eq_map _ [], keys_withColumns, List.map_append, extended]
  congr 1
  · rw [OrderedMap.keys, List.map_map]
    apply List.map_congr_left
    intro entry mem
    simp only [Function.comp_apply, get?_withColumns, OrderedMap.mem_entries_iff.1 mem,
      Option.getD_some]
  · apply List.map_congr_left
    intro table mem
    have unlisted : tables.get? table = none := by
      rw [← OrderedMap.notMem_keys_iff]
      exact (mem_newNames_iff.1 mem).2
    rw [get?_withColumns, unlisted]
    rfl

/-- A column that is listed is not added. -/
theorem withColumn_of_mem {tables : OrderedMap Text (List Text)} {column : ColumnName}
    {names : List Text} (listed : tables.get? column.1 = some names) (known : column.2 ∈ names) :
    withColumn tables column = tables := by
  rw [withColumn_eq]
  exact OrderedMap.update_of_get? listed (addName_of_mem known)

/-- Columns that have been added are not added again. -/
theorem withColumns_withColumns :
    withColumns (withColumns tables columns) columns = withColumns tables columns := by
  have known {added : List ColumnName} (among : added ⊆ columns) :
      withColumns (withColumns tables columns) added = withColumns tables columns := by
    induction added with
    | nil => rfl
    | cons column added ih =>
        rw [List.cons_subset] at among
        obtain ⟨names, listed, mem⟩ := exists_columns_of_mem tables among.1
        rw [withColumns, List.foldl_cons, withColumn_of_mem listed mem]
        exact ih among.2
  exact known (List.Subset.refl columns)

end

/-! ## Adding columns in two turns -/

/-- The listing with columns added to it, if there are any. -/
def merge (listing : Listing) (written : List Text) : Except OverrideError Listing :=
  if written = [] then .ok listing else addColumns listing written

theorem readColumns_append (first second : List Text) :
    readColumns (first ++ second) = do
      let columns ← readColumns first
      let others ← readColumns second
      return columns ++ others := by
  induction first with
  | nil =>
      rw [List.nil_append, readColumns]
      cases readColumns second <;> rfl
  | cons written first ih =>
      rw [List.cons_append, readColumns, readColumns]
      cases ColumnName.ofText? written with
      | none => rfl
      | some column =>
          simp only [ih]
          cases readColumns first with
          | error error => rfl
          | ok columns => cases readColumns second <;> rfl

/-- The names of columns can be read, or one of them is malformed. -/
theorem readColumns_eq_error {written : List Text}
    (malformed : written.mapM ColumnName.ofText? = none) :
    ∃ text ∈ written, ColumnName.ofText? text = none ∧
      readColumns written = .error (.malformedColumn text) := by
  induction written with
  | nil => contradiction
  | cons text written ih =>
      rw [readColumns]
      cases read : ColumnName.ofText? text with
      | none => exact ⟨text, List.mem_cons_self, read, rfl⟩
      | some column =>
          have rest : written.mapM ColumnName.ofText? = none := by
            cases others : written.mapM ColumnName.ofText? with
            | none => rfl
            | some columns => simp [read, others] at malformed
          obtain ⟨other, mem, unread, failed⟩ := ih rest
          refine ⟨other, List.mem_cons_of_mem _ mem, unread, ?_⟩
          rw [failed]
          rfl

/-- To tables with lists, columns are added as they are read. -/
theorem addColumns_tables (tables : OrderedMap Value (List Value)) (written : List Text) :
    addColumns (.tables (tables.mapValues .array)) written =
      (readColumns written).map fun columns =>
        .tables ((columns.foldl addColumn tables).mapValues .array) := by
  have items : listItems (tables.mapValues .array).entries = .ok tables.entries :=
    listItems_eq tables.entries
  simp only [addColumns, items]
  cases readColumns written with
  | error error => rfl
  | ok columns =>
      simp only [bind, Except.bind, OrderedMap.ofList_entries]
      rfl

/-- Columns are added in two turns as at once. -/
theorem merge_append (listing : Listing) (first second : List Text) :
    merge listing (first ++ second) = merge listing first >>= (merge · second) := by
  by_cases none : first = []
  · subst none
    rfl
  by_cases done : second = []
  · subst done
    rw [List.append_nil]
    cases merge listing first <;> rfl
  rw [merge, merge, if_neg none, if_neg (by simp [none])]
  cases listing with
  | other value => rfl
  | tables entries =>
      simp only [addColumns, readColumns_append]
      cases listItems entries.entries with
      | error error => rfl
      | ok tables =>
          cases readColumns first with
          | error error => rfl
          | ok columns =>
              simp only [bind, Except.bind, pure, Except.pure, merge, if_neg done,
                addColumns_tables]
              cases readColumns second with
              | error error => rfl
              | ok others => simp only [Except.map, List.foldl_append]

/-- Columns that can all be read are added to the tables of a listing. -/
theorem merge_listing {written : List Text} {columns : List ColumnName}
    (read : written.mapM ColumnName.ofText? = some columns)
    (tables : OrderedMap Text (List Text)) :
    merge (listing tables) written = .ok (listing (withColumns tables columns)) := by
  by_cases none : written = []
  · subst none
    cases read
    rfl
  · rw [merge, if_neg none, addColumns_listing read]

/-- Columns are refused with one of those that are malformed. -/
theorem merge_listing_eq_error {written : List Text}
    (malformed : written.mapM ColumnName.ofText? = none) (tables : OrderedMap Text (List Text)) :
    ∃ text ∈ written, ColumnName.ofText? text = none ∧
      merge (listing tables) written = .error (.malformedColumn text) := by
  obtain ⟨text, mem, unread, failed⟩ := readColumns_eq_error malformed
  refine ⟨text, mem, unread, ?_⟩
  rw [merge, if_neg (List.ne_nil_of_mem mem), listing, addColumns_tables, failed]
  rfl

/-- Columns that are added a second time change nothing. -/
theorem merge_append_self (tables : OrderedMap Text (List Text)) (written : List Text) :
    merge (listing tables) (written ++ written) = merge (listing tables) written := by
  rw [merge_append]
  cases read : written.mapM ColumnName.ofText? with
  | none =>
      obtain ⟨text, -, -, failed⟩ := merge_listing_eq_error read tables
      rw [failed]
      rfl
  | some columns =>
      rw [merge_listing read]
      refine (merge_listing read _).trans ?_
      rw [withColumns_withColumns]

end SeedCatalog.Settings
