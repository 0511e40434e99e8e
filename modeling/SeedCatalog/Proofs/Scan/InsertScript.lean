import SeedCatalog.Catalog
import SeedCatalog.Proofs.Scan.Column
import SeedCatalog.Proofs.Sql.Value

/-!
# Scripts of INSERT statements

A script is a list of INSERT statements in a free layout: between any two tokens
there may be spaces, tabs, line feeds and line comments.  This file says how a
script is written, and what is to be recorded of it.
-/

namespace SeedCatalog.Scan

open SeedCatalog.Sql Text

/-! ## Layouts -/

/-- What may stand between two tokens. -/
inductive Piece where
  | space
  | tab
  | newline
  /-- A line comment, with the line feed that ends it. -/
  | comment (body : Text) (oneLine : '\n' ∉ body)

def Piece.text : Piece → Text
  | space => [' ']
  | tab => ['\t']
  | newline => ['\n']
  | comment body _ => '-' :: '-' :: (body ++ ['\n'])

/-- What stands between two tokens. -/
abbrev Layout :=
  List Piece

def Layout.text (layout : Layout) : Text :=
  layout.flatMap Piece.text

@[simp]
theorem Layout.text_nil : Layout.text [] = [] :=
  rfl

@[simp]
theorem Layout.text_cons (piece : Piece) (layout : Layout) :
    Layout.text (piece :: layout) = piece.text ++ layout.text :=
  rfl

/-- The number of line feeds of a text. -/
def feeds (text : Text) : Int :=
  text.count '\n'

/-! ## How a script is written -/

/-- Something with the layout around it. -/
structure Placed (α : Type) where
  before : Layout
  content : α
  after : Layout

/-- The text of what is placed, given how its content is written. -/
def Placed.text {α : Type} (write : α → Text) (item : Placed α) : Text :=
  item.before.text ++ (write item.content ++ item.after.text)

/-- The items of a list up to its closing parenthesis. -/
def writtenItems {α : Type} (write : α → Text) (item : Placed α) : List (Placed α) → Text
  | [] => item.text write ++ [endMark true]
  | next :: others => item.text write ++ endMark false :: writtenItems write next others

/-- A row of values with the layout around it. -/
structure Row where
  before : Layout
  first : Placed WrittenValue
  others : List (Placed WrittenValue)
  after : Layout

def Row.text (row : Row) : Text :=
  row.before.text ++
    '(' :: (writtenItems WrittenValue.written row.first row.others ++ row.after.text)

/-- Rows with the commas between them, up to the semicolon. -/
def writtenRows (row : Row) : List Row → Text
  | [] => row.text ++ [';']
  | next :: others => row.text ++ ',' :: writtenRows next others

/-- An INSERT statement on a table with columns. -/
structure InsertStatement where
  beforeInsert : Layout
  beforeInto : Layout
  beforeTable : Layout
  table : PlainName
  beforeColumns : Layout
  column : Placed PlainName
  columns : List (Placed PlainName)
  beforeValues : Layout
  row : Row
  rows : List Row
  intoApart : beforeInto ≠ []
  tableApart : beforeTable ≠ []

namespace InsertStatement

variable (statement : InsertStatement)

/-- The statement up to its rows. -/
def opening : Text :=
  statement.beforeInsert.text ++ ("INSERT".toList ++
    (statement.beforeInto.text ++ ("INTO".toList ++
      (statement.beforeTable.text ++ (statement.table.text ++
        (statement.beforeColumns.text ++ '(' ::
          (writtenItems PlainName.text statement.column statement.columns ++
            (statement.beforeValues.text ++ "VALUES".toList))))))))

def text : Text :=
  statement.opening ++ writtenRows statement.row statement.rows

/-- The names of the columns in order. -/
def names : List PlainName :=
  (statement.column :: statement.columns).map Placed.content

end InsertStatement

/-- Statements one after the other, and what stands behind the last of them. -/
structure InsertScript where
  statements : List InsertStatement
  closing : Layout

def InsertScript.text (script : InsertScript) : Text :=
  script.statements.flatMap InsertStatement.text ++ script.closing.text

/-! ## What is to be recorded -/

section

variable (registry : Registry) (source : Text)

/-- The texts of values, each at the line of the comma or the parenthesis that ends it, given the
line on which the first of them begins. -/
def locatedValues (line : Int) : List (Placed WrittenValue) → List (Text × Location)
  | [] => []
  | item :: items =>
      let last := line + feeds (item.text WrittenValue.written)
      (item.content.text, ⟨source, last⟩) :: locatedValues last items

/-- What is to be recorded of a row: the values at the positions of listed columns. -/
def Row.records (table : PlainName) (names : List PlainName) (line : Int) (row : Row) :
    List (Text × Location) :=
  registry.asked table names
    (locatedValues source (line + feeds row.before.text) (row.first :: row.others))

/-- What is to be recorded of rows, given the line on which the first of them begins. -/
def recordsOfRows (table : PlainName) (names : List PlainName) (line : Int) :
    List Row → List (Text × Location)
  | [] => []
  | row :: rows =>
      row.records registry source table names line ++
        recordsOfRows table names (line + feeds row.text) rows

def InsertStatement.records (line : Int) (statement : InsertStatement) :
    List (Text × Location) :=
  recordsOfRows registry source statement.table statement.names (line + feeds statement.opening)
    (statement.row :: statement.rows)

/-- What is to be recorded of statements, given the line on which the first of them begins. -/
def recordsOfStatements (line : Int) : List InsertStatement → List (Text × Location)
  | [] => []
  | statement :: statements =>
      statement.records registry source line ++
        recordsOfStatements (line + feeds statement.text) statements

def InsertScript.records (script : InsertScript) : List (Text × Location) :=
  recordsOfStatements registry source 1 script.statements

end

end SeedCatalog.Scan
