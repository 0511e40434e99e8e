import SeedCatalog.Config.Override

/-!
# Columns in memory

In memory, tables refer to their lists of columns, and both are changed where they are.  Columns are
therefore added to a copy of the tables and of every list.
-/

namespace SeedCatalog.Settings

/-- What is at a place of the memory. -/
inductive Cell where
  | items (values : List Value)
  /-- Tables, each with the place of its list. -/
  | tables (references : OrderedMap Value Nat)

/-- The memory, place by place. -/
abbrev Memory := List Cell

namespace Memory

/-- The list at a place; there is none at the place of tables. -/
def itemsAt (memory : Memory) (place : Nat) : List Value :=
  match memory[place]? with
  | some (.items values) => values
  | _ => []

/-- The tables at a place; there are none at the place of a list. -/
def tablesAt (memory : Memory) (place : Nat) : OrderedMap Value Nat :=
  match memory[place]? with
  | some (.tables references) => references
  | _ => .empty

/-- Copy the lists of tables one after the other, each to a new place. -/
def copyLists (memory : Memory) : List (Value × Nat) → List (Value × Nat) × Memory
  | [] => ([], memory)
  | (table, place) :: rest =>
      let (copies, memory') := copyLists (memory ++ [.items (memory.itemsAt place)]) rest
      ((table, memory.length) :: copies, memory')

/-- The place of the list of a table.  If there is no such table, one with an empty list is put into
the tables. -/
def listOf (memory : Memory) (merged : Nat) (table : Value) : Nat × Memory :=
  match (memory.tablesAt merged).get? table with
  | some place => (place, memory)
  | none =>
      let tables := (memory.tablesAt merged).insert table memory.length
      (memory.length, memory.set merged (.tables tables) ++ [.items []])

/-- Put a column behind the others of its table, unless it is there. -/
def addColumn (memory : Memory) (merged : Nat) (column : ColumnName) : Memory :=
  let (place, memory) := memory.listOf merged (.string column.1)
  let columns := memory.itemsAt place
  if .string column.2 ∈ columns then memory
  else memory.set place (.items (columns ++ [.string column.2]))

/-- Add columns to tables one after the other, up to the first that is malformed. -/
def addColumns (memory : Memory) (merged : Nat) : List Text → Memory × Except OverrideError Unit
  | [] => (memory, .ok ())
  | written :: rest =>
      match ColumnName.ofText? written with
      | none => (memory, .error (.malformedColumn written))
      | some column => addColumns (memory.addColumn merged column) merged rest

/-- Add columns to a copy of tables, if there are any to add, and give the place of the tables with
these columns. -/
def merge (memory : Memory) (source : Nat) (written : List Text) :
    Memory × Except OverrideError Nat :=
  if written = [] then (memory, .ok source)
  else
    let (copies, memory) := memory.copyLists (memory.tablesAt source).entries
    let (memory', outcome) :=
      addColumns (memory ++ [.tables (.ofList copies)]) memory.length written
    (memory', outcome.map fun _ => memory.length)

end Memory

end SeedCatalog.Settings
