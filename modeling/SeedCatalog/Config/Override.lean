import SeedCatalog.Config.Settings

/-!
# Overrides

Settings can be overridden one by one, and translatable columns can be added to those that are
listed.  A column is added as the name of its table and its own name with a dot between them; a
table or a column that is listed already keeps its place.  What is overridden and the columns are
given on their own, so that no override can have their names.
-/

namespace SeedCatalog

/-- The name of a table and the name of a column of it. -/
abbrev ColumnName := Text × Text

/-- The column that a text names: what stands behind the last dot is the name of the column. -/
def ColumnName.ofText? (text : Text) : Option ColumnName :=
  match Text.cutLast? '.' text.strip with
  | some (table, column) => if table = [] ∨ column = [] then none else some (table, column)
  | none => none

/-- Why settings cannot be overridden. -/
inductive OverrideError where
  | nameTaken (name : Text)
  | malformedColumn (written : Text)
  | notTables (value : Value)
  | notColumns (value : Value)
  | unknownSetting (error : UnknownSetting)
  deriving DecidableEq

/-- The kind of a value in words. -/
def Value.kind : Value → String
  | .null => "NoneType"
  | .boolean _ => "bool"
  | .integer _ => "int"
  | .decimal _ => "float"
  | .moment _ => "datetime.datetime"
  | .string _ => "str"
  | .array _ => "list"
  | .table _ => "dict"

/-- The error in words. -/
def OverrideError.message : OverrideError → Text
  | .nameTaken name =>
      "apply_overrides() got multiple values for argument '".toList ++ name ++ ['\'']
  | .malformedColumn written =>
      "Invalid translatable column `".toList ++ written ++ "` (expected TABLE.COLUMN)".toList
  | .notTables value => s!"'{value.kind}' object has no attribute 'items'".toList
  | .notColumns value => s!"'{value.kind}' object is not iterable".toList
  | .unknownSetting error => error.message

namespace Settings

/-- The values that a value holds: the items of an array, the keys of a table, or the characters of
a text. -/
def itemsOf : Value → Except OverrideError (List Value)
  | .array items => .ok items
  | .table entries => .ok (entries.map fun entry => .string entry.1)
  | .string text => .ok (text.map fun c => .string [c])
  | value => .error (.notColumns value)

/-- Tables with the values that they list. -/
def listItems : List (Value × Value) → Except OverrideError (List (Value × List Value))
  | [] => .ok []
  | (table, columns) :: rest =>
      match itemsOf columns with
      | .error error => .error error
      | .ok items => (listItems rest).map ((table, items) :: ·)

/-- Read the names of columns, up to the first that is malformed. -/
def readColumns : List Text → Except OverrideError (List ColumnName)
  | [] => .ok []
  | written :: rest =>
      match ColumnName.ofText? written with
      | none => .error (.malformedColumn written)
      | some column => (readColumns rest).map (column :: ·)

/-- Add a column to the tables, unless it is there. -/
def addColumn (tables : OrderedMap Value (List Value)) (column : ColumnName) :
    OrderedMap Value (List Value) :=
  tables.update (.string column.1) fun columns =>
    let columns := columns.getD []
    if .string column.2 ∈ columns then columns else columns ++ [.string column.2]

/-- The listing with columns added to it. -/
def addColumns (listing : Listing) (written : List Text) : Except OverrideError Listing :=
  match listing with
  | .other value => .error (.notTables value)
  | .tables entries => do
      let tables ← listItems entries.entries
      let columns ← readColumns written
      return .tables ((columns.foldl addColumn (.ofList tables)).mapValues .array)

/-- The first override with one of the given names. -/
def firstNamed? (names : List String) (values : List (Text × Value)) : Option Text :=
  (values.map Prod.fst).find? fun name => names.contains (String.ofList name)

/-- The names that no override can have. -/
def takenNames : List String := ["config", "translatables"]

/-- Whether there is nothing to override: a setting without a value is not overridden. -/
def changesNothing (written : List Text) (values : List (Text × Value)) : Bool :=
  written = [] && values.all fun entry => entry.2 = .null

/-- Add translatable columns, and give settings new values. -/
def override (settings : Settings) (written : List Text) (values : List (Text × Value)) :
    Except OverrideError Settings := do
  if let some name := firstNamed? takenNames values then throw (.nameTaken name)
  let translatables ←
    if written = [] then pure settings.translatables
    else addColumns settings.translatables written
  match settings.setAll (values.filter fun entry => entry.2 ≠ .null) with
  | .error error => throw (.unknownSetting error)
  | .ok settings' => return { settings' with translatables }

end Settings

end SeedCatalog
