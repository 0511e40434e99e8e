import SeedCatalog.Proofs.Sql.Name
import SeedCatalog.Scan.Step

/-!
# Columns and the values at their positions

The columns of a statement get the positions one, two, and so on, and a value is
asked for if the column at its position is listed.  Seen as lists, the columns
and the values of a row are paired off from the front.
-/

namespace SeedCatalog

/-- The values of a row whose columns are listed, the columns and the values paired off from the
front. -/
def Registry.asked {α : Type} (registry : Registry) (table : PlainName) (columns : List PlainName)
    (values : List α) : List α :=
  (columns.zip values).filterMap fun pair =>
    if registry.lists table pair.1 then some pair.2 else none

/-- The value at a position is asked for if the column at the position is listed. -/
theorem Registry.asked_drop_cons {α : Type} (registry : Registry) (table : PlainName)
    (columns : List PlainName) (position : Nat) (value : α) (values : List α) :
    registry.asked table (columns.drop position) (value :: values) =
      (if columns[position]?.any (registry.lists table) then [value] else []) ++
        registry.asked table (columns.drop (position + 1)) values := by
  cases column : columns[position]? with
  | none =>
      have short := List.getElem?_eq_none_iff.1 column
      rw [List.drop_eq_nil_of_le short, List.drop_eq_nil_of_le (Nat.le_succ_of_le short)]
      rfl
  | some name =>
      obtain ⟨bound, same⟩ := List.getElem?_eq_some_iff.1 column
      rw [List.drop_eq_getElem_cons bound, same, Option.any_some, asked, List.zip_cons_cons,
        List.filterMap_cons]
      cases registry.lists table name <;> rfl

namespace Scan

/-- The statement with one more column. -/
def Statement.withColumn (statement : Statement) (name : Text) : Statement :=
  { statement with
    columns := statement.columns.insert (statement.ordinal + 1) name
    ordinal := statement.ordinal + 1 }

/-- The statement with more columns. -/
def Statement.withNames (statement : Statement) (names : List Text) : Statement :=
  names.foldl Statement.withColumn statement

def Statement.withColumns (statement : Statement) (names : List PlainName) : Statement :=
  statement.withNames (names.map PlainName.text)

/-- The statement has read a list of columns so far, which stand at the positions from one on. -/
structure Statement.Numbers (statement : Statement) (names : List Text) : Prop where
  counted : statement.ordinal = names.length
  numbered : ∀ position : Nat, statement.columns.get? (position + 1) = names[position]?

/-- The statement is about a table, and has columns at the positions from one on. -/
structure Statement.Lays (statement : Statement) (table : PlainName) (columns : List PlainName) :
    Prop where
  named : statement.table = table.text.lower
  numbered : ∀ position : Nat,
    statement.columns.get? (position + 1) = columns[position]?.map PlainName.text

namespace Statement

variable {registry : Registry} {statement : Statement} {table : PlainName}
  {columns : List PlainName}

/-- A further column stands at the position behind the others. -/
theorem Numbers.withColumn {names : List Text} (numbers : statement.Numbers names) (name : Text) :
    (statement.withColumn name).Numbers (names ++ [name]) := by
  constructor
  · simp [Statement.withColumn, numbers.counted]
  · intro position
    rw [Statement.withColumn, OrderedMap.get?_insert, numbers.counted, numbers.numbered]
    rcases Nat.lt_trichotomy position names.length with before | rfl | behind
    · rw [if_neg (by omega), List.getElem?_append_left before]
    · rw [if_pos rfl, List.getElem?_concat_length]
    · rw [if_neg (by omega), List.getElem?_eq_none (Nat.le_of_lt behind), List.getElem?_eq_none]
      rw [List.length_append, List.length_singleton]
      exact behind

theorem Numbers.withNames {names : List Text} (numbers : statement.Numbers names)
    (further : List Text) : (statement.withNames further).Numbers (names ++ further) := by
  induction further generalizing statement names with
  | nil => simpa [Statement.withNames] using numbers
  | cons name further ih =>
      have ih := ih (numbers.withColumn name)
      rwa [List.append_assoc, List.singleton_append] at ih

/-- The columns of a list are those that were read since it was opened. -/
theorem numbers_withNames (table : Text) (names : List Text) :
    (Statement.withNames { table, columnsOpen := true } names).Numbers names := by
  have opened : Statement.Numbers { table, columnsOpen := true } [] := ⟨rfl, fun _ => rfl⟩
  exact opened.withNames names

/-- Columns do not change the table. -/
theorem table_withNames (statement : Statement) (names : List Text) :
    (statement.withNames names).table = statement.table := by
  induction names generalizing statement with
  | nil => rfl
  | cons name names ih => exact ih (statement.withColumn name)

theorem lays_withColumns (table : PlainName) (names : List PlainName) :
    (Statement.withColumns { table := table.text.lower, columnsOpen := true } names).Lays
      table names := by
  constructor
  · exact table_withNames _ _
  · intro position
    rw [withColumns, (numbers_withNames _ _).numbered, List.getElem?_map]

/-- Whether a value is asked for is seen from the column at its position. -/
theorem Lays.isTranslatable_eq (lays : statement.Lays table columns)
    (known : registry.tables.contains table.text.lower = true) (position : Nat) :
    statement.isTranslatable registry (position + 1) =
      columns[position]?.any (registry.lists table) := by
  rw [isTranslatable, lays.numbered, lays.named, Option.any_map]
  congr 1
  funext column
  exact Registry.isTranslatable_lower known column

end Statement

/-- The fields of a row are paired off with the columns. -/
theorem Cursor.translatableFields_eq_asked {registry : Registry} {statement : Statement}
    {table : PlainName} {columns : List PlainName} (lays : statement.Lays table columns)
    (known : registry.tables.contains table.text.lower = true) (position : Nat)
    (fields : List Text) :
    translatableFields registry statement (position + 1) fields =
      registry.asked table (columns.drop position) fields := by
  induction fields generalizing position with
  | nil => simp [translatableFields, Registry.asked]
  | cons field fields ih =>
      have ih := ih (position + 1)
      rw [Int.natCast_add, Int.natCast_one] at ih
      rw [translatableFields, ih, lays.isTranslatable_eq known, Registry.asked_drop_cons]
      split <;> rfl

end Scan

end SeedCatalog
