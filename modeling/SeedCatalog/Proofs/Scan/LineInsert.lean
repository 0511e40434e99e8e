import SeedCatalog.Proofs.Scan.Column
import SeedCatalog.Proofs.Sql.ValueComment

/-!
# INSERT statements on one line

Between any two tokens of a statement on one line there may be white space and
block comments.  This file says how such a statement is written, how it is
written without its comments, and which comments it tolerates: none between a
column and the mark that ends it, and behind a value those that the value
tolerates.
-/

namespace SeedCatalog.Scan

open SeedCatalog.Sql Text

/-! ## Between the tokens -/

/-- What may stand between two tokens on a line. -/
inductive Spacer where
  | blank (c : Char) (isBlank : isBlank c = true) (inLine : c ≠ '\n')
  /-- A block comment, of which the inside is given. -/
  | comment (body : Text) (first : ClosesFirst body) (inLine : '\n' ∉ body)

namespace Spacer

def space : Spacer :=
  .blank ' ' rfl (by decide)

def text : Spacer → Text
  | blank c _ _ => [c]
  | comment body _ _ => blockComment body

def isComment : Spacer → Bool
  | blank _ _ _ => false
  | comment _ _ _ => true

end Spacer

/-- What stands between two tokens. -/
abbrev Spacing :=
  List Spacer

namespace Spacing

variable (spacing : Spacing)

def text : Text :=
  spacing.flatMap Spacer.text

/-- The white space without the comments. -/
def plain : Spacing :=
  spacing.filter fun spacer => !spacer.isComment

@[simp]
theorem text_cons (spacer : Spacer) : text (spacer :: spacing) = spacer.text ++ spacing.text :=
  rfl

@[simp]
theorem plain_plain : spacing.plain.plain = spacing.plain := by
  simp [plain]

end Spacing

/-! ## How a statement is written -/

/-- A keyword, in letters of either case. -/
structure Keyword (word : Text) where
  text : Text
  spells : Spells word text

/-- A value that does not run over the end of its line. -/
structure LineValue where
  value : WrittenValue
  inLine : '\n' ∉ value.written

def LineValue.written (value : LineValue) : Text :=
  value.value.written

/-- Something with the spacing around it. -/
structure Spaced (α : Type) where
  before : Spacing
  content : α
  after : Spacing

namespace Spaced

variable {α : Type} (write : α → Text)

/-- The text of an item, given how its content is written. -/
def text (item : Spaced α) : Text :=
  item.before.text ++ (write item.content ++ item.after.text)

/-- The items of a list up to its closing parenthesis. -/
def list (item : Spaced α) : List (Spaced α) → Text
  | [] => item.text write ++ [endMark true]
  | next :: others => item.text write ++ endMark false :: list next others

def plain (item : Spaced α) : Spaced α :=
  { item with before := item.before.plain, after := item.after.plain }

end Spaced

/-- The texts that are asked for, the first of them at a position. -/
def askedFrom (asks : Nat → Bool) (position : Nat) : List Text → List Text
  | [] => []
  | text :: texts =>
      (if asks position then [text] else []) ++ askedFrom asks (position + 1) texts

/-- A row of values with the spacing around it. -/
structure LineRow where
  before : Spacing
  first : Spaced LineValue
  others : List (Spaced LineValue)
  after : Spacing

namespace LineRow

def text (row : LineRow) : Text :=
  row.before.text ++ '(' :: (row.first.list LineValue.written row.others ++ row.after.text)

/-- Rows with the commas between them, up to the semicolon. -/
def list (row : LineRow) : List LineRow → Text
  | [] => row.text ++ [';']
  | next :: others => row.text ++ ',' :: list next others

def items (row : LineRow) : List (Spaced LineValue) :=
  row.first :: row.others

/-- The texts of the values that are asked for. -/
def found (asks : Nat → Bool) (row : LineRow) : List Text :=
  askedFrom asks 0 (row.items.map fun item => item.content.value.text)

/-- Every value tolerates the comments behind it. -/
def ToleratesComments (asks : Nat → Bool) (row : LineRow) : Prop :=
  ∀ position item, row.items[position]? = some item →
    Tolerates (asks position) item.content.value item.after.text

/-- Rows begin with the opening parenthesis of the first. -/
theorem exists_list_eq (row : LineRow) (others : List LineRow) :
    ∃ rest, row.list others = row.before.text ++ '(' :: rest := by
  cases others with
  | nil => exact ⟨_, List.append_assoc _ _ _⟩
  | cons next others => exact ⟨_, List.append_assoc _ _ _⟩

def plain (row : LineRow) : LineRow where
  before := row.before.plain
  first := row.first.plain
  others := row.others.map Spaced.plain
  after := row.after.plain

end LineRow

/-- An INSERT statement on one line. -/
structure LineInsert where
  beforeInsert : Spacing
  insert : Keyword "INSERT".toList
  beforeInto : Spacing
  into : Keyword "INTO".toList
  beforeTable : Spacing
  table : UnquotedReference
  beforeColumns : Spacing
  column : Spaced UnquotedName
  columns : List (Spaced UnquotedName)
  beforeValues : Spacing
  values : Keyword "VALUES".toList
  row : LineRow
  rows : List LineRow
  intoApart : beforeInto.plain ≠ []
  tableApart : beforeTable.plain ≠ []

namespace LineInsert

variable (written : LineInsert)

/-- The statement up to its rows. -/
def opening : Text :=
  written.beforeInsert.text ++ (written.insert.text ++
    (written.beforeInto.text ++ (written.into.text ++
      (written.beforeTable.text ++ (written.table.text ++
        (written.beforeColumns.text ++ '(' ::
          (written.column.list UnquotedName.text written.columns ++
            (written.beforeValues.text ++ written.values.text))))))))

def text : Text :=
  written.opening ++ written.row.list written.rows

/-- The names of the columns in order. -/
def names : List Text :=
  (written.column :: written.columns).map fun item => item.content.text

/-- The statement without its comments. -/
def plain : LineInsert where
  beforeInsert := written.beforeInsert.plain
  insert := written.insert
  beforeInto := written.beforeInto.plain
  into := written.into
  beforeTable := written.beforeTable.plain
  table := written.table
  beforeColumns := written.beforeColumns.plain
  column := written.column.plain
  columns := written.columns.map Spaced.plain
  beforeValues := written.beforeValues.plain
  values := written.values
  row := written.row.plain
  rows := written.rows.map LineRow.plain
  intoApart := by simpa using written.intoApart
  tableApart := by simpa using written.tableApart

/-- Whether the column at a position is listed under the table, so that the values at this position
are asked for.  The first position is zero. -/
def asks (registry : Registry) (table : Text) (position : Nat) : Bool :=
  written.names[position]?.any (registry.isTranslatable table)

/-- The texts of the values that are asked for, row by row. -/
def found (registry : Registry) (table : Text) : List Text :=
  (written.row :: written.rows).flatMap (LineRow.found (written.asks registry table))

/-- No comment stands between a column and the comma or the parenthesis that ends it, and
every value tolerates the comments behind it. -/
structure ToleratesComments (registry : Registry) (table : Text) : Prop where
  columns : ∀ item ∈ written.column :: written.columns, item.after.plain = item.after
  values : ∀ row ∈ written.row :: written.rows,
    row.ToleratesComments (written.asks registry table)

end LineInsert

end SeedCatalog.Scan
