import SeedCatalog.OrderedMap
import SeedCatalog.Text.Basic

/-!
# Where the scanner stands

The scanner goes through a script token by token.  Its cursor holds the phase it is in, the
statement it is reading, and the text that the next line is to complete.
-/

namespace SeedCatalog.Scan

/-- What the scanner has read last of a statement, and so what it expects next. -/
inductive Phase where
  /-- Between statements; whatever begins no statement is skipped. -/
  | idle
  /-- Behind INSERT. -/
  | afterInsert
  /-- Behind INSERT INTO. -/
  | afterInto
  /-- Behind the table of an INSERT, or inside its column list. -/
  | columnList
  /-- Behind the column list of an INSERT, before VALUES. -/
  | beforeValues
  /-- Before the opening parenthesis of a tuple. -/
  | beforeTuple
  /-- Inside a tuple. -/
  | tuple
  /-- Behind a tuple, before a further tuple or the end of the statement. -/
  | afterTuple
  /-- Behind COPY. -/
  | afterCopy
  /-- Behind the table of a COPY, or inside its column list. -/
  | copyColumnList
  /-- Behind the column list of a COPY, before FROM STDIN. -/
  | beforeFromStdin
  /-- Behind FROM STDIN, before the options. -/
  | copyOptions
  /-- Behind the DELIMITER option. -/
  | afterDelimiter
  /-- Among the rows of a COPY. -/
  | dataBlock
  /-- Inside a block comment. -/
  | comment
  deriving DecidableEq, Repr

/-- The statement that is being read. -/
structure Statement where
  /-- The name of its table. -/
  table : Text
  /-- The columns by their position in the column list, which starts at one. -/
  columns : OrderedMap Int Text := .empty
  /-- The position of the column or the value that was read last. -/
  ordinal : Int := 0
  /-- Whether the opening parenthesis of the column list was read. -/
  columnsOpen : Bool := false
  /-- The separator of the fields of its rows. -/
  delimiter : Text := ['\t']
  /-- Whether the registry has its table; other statements are only followed to their end. -/
  registered : Bool := true
  deriving DecidableEq, Repr

/-- All that the scanner knows at a place of the input. -/
structure Cursor where
  phase : Phase := .idle
  /-- The number of the line that was read last; the first line has number one. -/
  line : Int := 0
  /-- The text that the next line is to complete. -/
  pending : Text := []
  /-- The statement that is being read, if one is. -/
  statement : Option Statement := none
  /-- The phase to go back to when the block comment closes. -/
  resume : Option Phase := none
  deriving DecidableEq, Repr

/-- Why a statement is given up. -/
inductive Problem where
  | intoMissing
  | tableMissingAfterInsert
  | tableMissingAfterCopy
  | columnsMissing (table : Text)
  | malformedColumns (table : Text)
  | valuesMissing (table : Text)
  | tupleMissing
  | unsupportedValue (table : Text)
  | fromStdinMissing (table : Text)
  | unsupportedOption (table : Text)
  deriving DecidableEq, Repr

/-- The problem in words. -/
def Problem.message : Problem → Text
  | .intoMissing => "INSERT not followed by INTO".toList
  | .tableMissingAfterInsert => "INSERT INTO not followed by a table name".toList
  | .tableMissingAfterCopy => "COPY not followed by a table name".toList
  | .columnsMissing table =>
      "Table ".toList ++ table ++ " not followed by a column list and VALUES".toList
  | .malformedColumns table => "Malformed column list for ".toList ++ table
  | .valuesMissing table =>
      "Column list for ".toList ++ table ++ " not followed by VALUES".toList
  | .tupleMissing => "VALUES not followed by a value tuple".toList
  | .unsupportedValue table => "Unsupported value in ".toList ++ table ++ " tuple".toList
  | .fromStdinMissing table => "COPY ".toList ++ table ++ " not followed by FROM STDIN".toList
  | .unsupportedOption table => "Unsupported COPY option for ".toList ++ table

/-- What one step of the scanner does. -/
structure Transition where
  /-- The cursor behind the step. -/
  cursor : Cursor
  /-- The text that the step leaves. -/
  remainder : Text := []
  /-- The translatable texts that the step read. -/
  found : List Text := []
  /-- The problem that made the step give up its statement. -/
  problem : Option Problem := none
  /-- Whether the line is finished; the text that is left then waits for the next line. -/
  needsInput : Bool := false
  deriving DecidableEq, Repr

end SeedCatalog.Scan
