import SeedCatalog.Identifier
import SeedCatalog.OrderedMap
import SeedCatalog.Text.Quoted

/-!
# The registry of translatable columns

The registry says which columns of which tables hold text for people.  Tables and columns are
listed by the names that their identifiers stand for.  A reference to a table that names a schema
is looked up whole first, and then by what stands behind its last dot.
-/

namespace SeedCatalog

/-- Tables with their translatable columns, all by normalized name. -/
structure Registry where
  tables : OrderedMap Text (List Text)
  deriving DecidableEq

namespace Registry

/-- The registry of a list of tables and columns as users write them.  When two tables have the
same name, the columns of the later one stand in the place of the earlier one. -/
def ofTables (tables : List (Text × List Text)) : Registry :=
  ⟨.ofList (tables.map fun (table, columns) =>
    (Identifier.normalize table, columns.map Identifier.normalize))⟩

/-- The part of a name behind its last dot, or the whole name. -/
def unqualified (name : Text) : Text :=
  ((Text.cutLast? '.' name).map Prod.snd).getD name

/-- The table that a reference means. -/
def resolve (registry : Registry) (reference : Text) : Option Text :=
  let name := Identifier.normalize reference
  if registry.tables.contains name then some name
  else if registry.tables.contains (unqualified name) then some (unqualified name)
  else none

/-- The translatable columns of the table that a reference means. -/
def columns (registry : Registry) (reference : Text) : List Text :=
  ((registry.resolve reference).bind registry.tables.get?).getD []

/-- Whether a column of a table is translatable. -/
def isTranslatable (registry : Registry) (reference column : Text) : Bool :=
  Identifier.normalize column ∈ registry.columns reference

/-- Names in order, each once. -/
def sorted (names : List Text) : List Text :=
  names.eraseDups.mergeSort Text.le

/-- A list of quoted names between brackets. -/
def showNames (names : List Text) : Text :=
  '[' :: Text.join [',', ' '] (names.map Text.quoted) ++ [']']

/-- The registry in full, with the columns of each table in order. -/
def render (registry : Registry) : Text :=
  let tables := registry.tables.entries.map fun (table, columns) =>
    Text.quoted table ++ [':', ' '] ++ showNames (sorted columns)
  "TranslatableRegistry(\x7b".toList ++ Text.join [',', ' '] tables ++ "\x7d)".toList

end Registry

/-- Tables that seed data with translatable text is usually shipped for. -/
def defaultTranslatables : List (Text × List Text) :=
  [("account_heading", ["description"]), ("batch_class", ["class"]),
    ("business_unit_class", ["label"]), ("contact_class", ["class"]), ("country", ["name"]),
    ("entity_class", ["class"]), ("language", ["description"]), ("location_class", ["class"]),
    ("menu_node", ["label"]), ("note_class", ["class"]), ("payment_type", ["label"])].map
    fun (table, columns) => (String.toList table, columns.map String.toList)

end SeedCatalog
