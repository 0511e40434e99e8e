import SeedCatalog.OrderedMap
import SeedCatalog.Text.Integer

/-!
# The catalog of translatable texts

A catalog lists each distinct text once, in the order in which the texts were first seen, with
every place at which it was seen.  It is written as one block per text: a line for each place, the
text between double quotes, an empty text for its wording in another language, and an empty line.
Nothing is written of a catalog with a line whose number is too long.
-/

namespace SeedCatalog

/-- A line of an input. -/
structure Location where
  source : Text
  line : Int
  deriving DecidableEq, Repr

/-- A location is written as its source, a colon and its line. -/
def Location.render (location : Location) : Except Text.IntegerError Text :=
  (Text.ofInteger location.line).map fun line => location.source ++ ':' :: line

/-- Texts in the order in which they were first seen, each with its locations. -/
structure Catalog where
  entries : OrderedMap Text (List Location)
  deriving DecidableEq

namespace Catalog

/-- The catalog without entries. -/
def empty : Catalog :=
  ⟨.empty⟩

instance : Inhabited Catalog :=
  ⟨empty⟩

/-- Record one more location of a text. -/
def record (catalog : Catalog) (text : Text) (location : Location) : Catalog :=
  ⟨catalog.entries.update text fun locations => locations.getD [] ++ [location]⟩

/-- Record texts in order, each at its location. -/
def recordAll (catalog : Catalog) (records : List (Text × Location)) : Catalog :=
  records.foldl (fun catalog entry => catalog.record entry.1 entry.2) catalog

/-- The texts in the order in which they were first seen. -/
def texts (catalog : Catalog) : List Text :=
  catalog.entries.keys

/-- The locations of a text in the order in which they were recorded. -/
def locations (catalog : Catalog) (text : Text) : List Location :=
  (catalog.entries.get? text).getD []

/-- Whether a text was recorded. -/
def contains (catalog : Catalog) (text : Text) : Bool :=
  catalog.entries.contains text

/-- The number of distinct texts. -/
def size (catalog : Catalog) : Nat :=
  catalog.entries.size

/-- A text as it stands between double quotes: a backslash goes before every backslash and every
double quote. -/
def escape : Text → Text
  | [] => []
  | c :: rest => if c = '\\' ∨ c = '"' then '\\' :: c :: escape rest else c :: escape rest

/-- The lines of the block of one text, each with its line feed. -/
def renderEntry (text : Text) (locations : List Location) : Except Text.IntegerError (List Text) :=
  (locations.mapM Location.render).map fun places =>
    places.map (fun place => ['#', ':', ' '] ++ place ++ ['\n']) ++
      [['m', 's', 'g', 'i', 'd', ' ', '"'] ++ escape text ++ ['"', '\n'],
        ['m', 's', 'g', 's', 't', 'r', ' ', '"', '"', '\n'], ['\n']]

/-- The lines of the catalog. -/
def render (catalog : Catalog) : Except Text.IntegerError (List Text) :=
  (catalog.entries.entries.mapM fun entry => renderEntry entry.1 entry.2).map List.flatten

/-- The catalog as one text. -/
def serialize (catalog : Catalog) : Except Text.IntegerError Text :=
  catalog.render.map List.flatten

/-- Recording a text adds its location to those of that text, and to no other. -/
theorem locations_record (catalog : Catalog) (text other : Text) (location : Location) :
    (catalog.record text location).locations other =
      if text = other then catalog.locations text ++ [location] else catalog.locations other := by
  simp only [record, locations, OrderedMap.get?_update]
  split <;> rfl

/-- Recording a text that is new puts it behind the others. -/
theorem texts_record (catalog : Catalog) (text : Text) (location : Location) :
    (catalog.record text location).texts =
      if text ∈ catalog.texts then catalog.texts else catalog.texts ++ [text] := by
  by_cases h : text ∈ catalog.entries.keys <;> simp [record, texts, h]

end Catalog

end SeedCatalog
