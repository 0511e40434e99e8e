import SeedCatalog.Proofs.Scan.Boundary
import SeedCatalog.Proofs.Scan.Copy

/-!
# Copies into tables that are not registered

A COPY whose table is not registered is followed from its header to the end of
its rows, so that nothing in a row is taken for a statement, a quote or a
comment.  Its statement asks for no field, whatever its columns are, and keeps
asking for none from row to row.
-/

namespace SeedCatalog.Scan

open SeedCatalog.Sql Text

/-- The line in front of the rows of a COPY. -/
structure CopyHeader where
  table : PlainReference
  /-- The columns of its list; without columns there is no list. -/
  columns : List SpacedColumn
  /-- The separator that its option names, if it has one. -/
  separator : Option Char

namespace CopyHeader

variable (header : CopyHeader)

def columnList : Text :=
  match header.columns with
  | [] => []
  | column :: others => [' '] ++ '(' :: writtenColumns column others

/-- What stands behind the table. -/
def behindTable : Text :=
  header.columnList ++ ([' '] ++ ("FROM".toList ++ ([' '] ++ ("stdin".toList ++
    (delimiterOption header.separator ++ [';'])))))

def text : Text :=
  "COPY".toList ++ ([' '] ++ (header.table.text ++ header.behindTable))

theorem closed_columnList : Closed header.columnList := by
  unfold columnList
  split
  · exact closed_nil
  · rename_i column others _
    have opening : Closed [' ', '('] := closed_of_all rfl
    exact opening.append (closed_writtenColumns column others)

theorem closed_text : Closed header.text := by
  have semicolon : Closed [';'] := closed_of_all rfl
  have option := (closed_delimiterOption header.separator).append semicolon
  have fromStdin : Closed ([' '] ++ ("FROM".toList ++ ([' '] ++ ("stdin".toList ++ _)))) :=
    (closed_of_all rfl).append ((closed_of_all rfl).append ((closed_of_all rfl).append
      ((closed_of_all rfl).append option)))
  have table := header.table.closed.append (header.closed_columnList.append fromStdin)
  exact Closed.append (closed_of_all rfl) (Closed.append (closed_of_all rfl) table)

theorem unended_text : Unended header.text := by
  have written : header.text =
      ("COPY".toList ++ ([' '] ++ (header.table.text ++ (header.columnList ++ ([' '] ++
        ("FROM".toList ++ ([' '] ++ ("stdin".toList ++ delimiterOption header.separator)))))))) ++
        [';'] := by
    simp only [text, behindTable, List.append_assoc]
  rw [written]
  exact unended_concat (by decide) (by decide) _

/-- Behind the table stands a space, and then a parenthesis or FROM. -/
theorem exists_behindTable_eq : ∃ c rest, header.behindTable = [' '] ++ c :: rest ∧
    isBlank c = false ∧ c ≠ '.' := by
  unfold behindTable columnList
  split
  · exact ⟨'F', _, rfl, rfl, by decide⟩
  · exact ⟨'(', _, rfl, rfl, by decide⟩

end CopyHeader

variable {registry : Registry} {delimiter : Text}

/-! ## Statements that ask for nothing -/

/-- A statement among whose rows nothing is asked for: its table is not registered.  It stands
before the first field of a row. -/
structure Statement.Inert (registry : Registry) (statement : Statement) : Prop where
  unknown : registry.resolve statement.table = none
  separates : statement.delimiter ≠ []
  first : statement.ordinal = 1

namespace Statement

variable {statement : Statement}

theorem isTranslatable_of_unknown (unknown : registry.resolve statement.table = none)
    (ordinal : Int) : statement.isTranslatable registry ordinal = false := by
  unfold isTranslatable
  cases statement.columns.get? ordinal with
  | none => rfl
  | some column => simp [Registry.isTranslatable, Registry.columns, unknown]

theorem translatableFields_of_unknown (unknown : registry.resolve statement.table = none)
    (ordinal : Int) (fields : List Text) :
    Cursor.translatableFields registry statement ordinal fields = [] := by
  induction fields generalizing ordinal with
  | nil => rfl
  | cons field fields ih =>
      simp [Cursor.translatableFields, ih, isTranslatable_of_unknown unknown]

theorem Inert.eq_first (inert : statement.Inert registry) :
    { statement with ordinal := 1 } = statement := by
  rw [← inert.first]

end Statement

/-! ## The header -/

namespace CopyHeader

variable {header : CopyHeader}

/-- The statement behind the table. -/
def opened (header : CopyHeader) : Statement :=
  { table := Identifier.normalize header.table.text, registered := false }

/-- The beginning of a header is read up to its table. -/
theorem textAccount_table (unknown : registry.resolve header.table.text = none) (line : Int) :
    textAccount registry delimiter { line } (header.text ++ ['\n']) =
      textAccount registry delimiter
        { phase := .copyColumnList, line, statement := some header.opened }
        (header.behindTable ++ ['\n']) := by
  obtain ⟨c, rest, begins, filled, noDot⟩ := header.exists_behindTable_eq
  have space : Text.allBlank [' '] = true := rfl
  have skipped : skipBlanks (header.behindTable ++ ['\n']) = c :: (rest ++ ['\n']) := by
    rw [begins, List.append_assoc]
    exact skipBlanks_lead space filled _
  have stops : (header.behindTable ++ ['\n']).stopsAt continuesIdentifier = true := by
    rw [begins]
    rfl
  have unqualified : (skipBlanks (header.behindTable ++ ['\n'])).head? ≠ some '.' := by
    rw [skipped]
    simpa using noDot
  have copy : Cursor.step registry delimiter { line }
      ("COPY".toList ++ ([' '] ++ (header.table.text ++ (header.behindTable ++ ['\n'])))) = .ok _ :=
    step_copy (rfl : Text.allBlank [] = true) rfl rfl
  have name : Cursor.step registry delimiter { phase := .afterCopy, line }
      ([' '] ++ (header.table.text ++ (header.behindTable ++ ['\n']))) =
        .ok (Cursor.advanceWith { phase := .afterCopy, line } .copyColumnList header.opened
          (header.behindTable ++ ['\n'])) := by
    rw [← header.table.text_unquoted] at unknown
    rw [opened, ← header.table.text_unquoted]
    exact step_copyUnknown space header.table.unquoted stops unqualified unknown rfl
  have written : header.text ++ ['\n'] =
      "COPY".toList ++ ([' '] ++ (header.table.text ++ (header.behindTable ++ ['\n']))) := by
    simp only [text, List.append_assoc]
  rw [written, textAccount_of_silent copy rfl rfl]
  exact textAccount_of_silent name rfl rfl

/-- Behind the table, with or without a column list, the header is read to its end, and a statement
is left that asks for nothing. -/
theorem exists_textAccount_behindTable (unknown : registry.resolve header.table.text = none)
    (nonempty : delimiter ≠ []) (line : Int) :
    ∃ statement : Statement, statement.Inert registry ∧
      textAccount registry delimiter
          { phase := .copyColumnList, line, statement := some header.opened }
          (header.behindTable ++ ['\n']) =
        .rest { phase := .dataBlock, line, statement := some statement } := by
  have separates : (header.separator.map fun separator => [separator]).getD delimiter ≠ [] := by
    cases header.separator with
    | none => exact nonempty
    | some separator => simp
  have inert {statement : Statement} (named : statement.table = header.opened.table) :
      Statement.Inert registry
        { statement with
          delimiter := (header.separator.map fun separator => [separator]).getD delimiter
          ordinal := 1 } :=
    ⟨by rw [named]; exact Registry.resolve_normalize_of_unknown unknown, separates, rfl⟩
  unfold behindTable columnList
  cases header.columns with
  | nil =>
      refine ⟨_, inert rfl, ?_⟩
      simp only [List.nil_append, List.append_assoc]
      exact textAccount_fromStdin (.inr ⟨rfl, rfl⟩) rfl header.separator
  | cons column others =>
      have space : Text.allBlank [' '] = true := rfl
      have mark (rest : Text) : Cursor.step registry delimiter
          { phase := .copyColumnList, line, statement := some header.opened }
          ([' '] ++ '(' :: rest) = .ok _ :=
        step_openColumns .copyColumns rfl rfl space rest
      have named := Statement.table_withNames { header.opened with columnsOpen := true }
        (((column :: others).map SpacedColumn.name).map PlainName.text)
      refine ⟨_, inert named, ?_⟩
      simp only [List.append_assoc, List.cons_append]
      refine (textAccount_of_silent (mark _) rfl rfl).trans ?_
      refine (textAccount_columns .copyColumns rfl rfl _ _ _).trans ?_
      exact textAccount_fromStdin (.inl rfl) rfl header.separator

/-- Behind the header the rows begin. -/
theorem exists_lineAccount_text (unknown : registry.resolve header.table.text = none)
    (nonempty : delimiter ≠ []) {raw : Text} (read : IsRead header.text raw) :
    ∃ statement : Statement, statement.Inert registry ∧
      lineAccount registry delimiter {} raw =
        .rest { phase := .dataBlock, line := 1, statement := some statement } := by
  have text : (prepareLine {} raw).2 = header.text ++ ['\n'] := by
    change dropLineComment ([] ++ dropLineEnd raw) ++ ['\n'] = _
    rw [List.nil_append, read.dropLineEnd_eq header.unended_text,
      header.closed_text.dropLineComment_eq]
  obtain ⟨statement, inert, behind⟩ := exists_textAccount_behindTable unknown nonempty 1
  refine ⟨statement, inert, ?_⟩
  rw [lineAccount, text]
  exact (textAccount_table unknown 1).trans behind

end CopyHeader

/-! ## The rows -/

section

variable {statement : Statement} (inert : statement.Inert registry)
include inert

/-- Whatever a row holds, it tells nothing and leaves the statement as it is. -/
theorem lineAccount_inertRow {raw : Text} (going : dropLineEnd raw ≠ ['\\', '.']) (line : Int) :
    lineAccount registry delimiter { phase := .dataBlock, line, statement := some statement } raw =
      .rest { phase := .dataBlock, line := line + 1, statement := some statement } := by
  have step : Cursor.step registry delimiter
      { phase := .dataBlock, line := line + 1, statement := some statement } (dropLineEnd raw) =
      .ok (Cursor.await
        { phase := .dataBlock, line := line + 1, statement := some statement } []) := by
    simp only [Cursor.step, if_true, Cursor.stepDataBlock, if_neg going, inert.eq_first,
      if_neg inert.separates, Statement.translatableFields_of_unknown inert.unknown]
    split <;> rfl
  rw [lineAccount_dataBlock, textAccount_of_needsInput step rfl]
  rfl

/-- Rows tell nothing, up to the backslash and the dot. -/
theorem account_inertRows {rows : List Text} (going : ∀ row ∈ rows, dropLineEnd row ≠ ['\\', '.'])
    {last : Text} (ended : dropLineEnd last = ['\\', '.']) (line : Int) :
    account registry delimiter { phase := .dataBlock, line, statement := some statement }
        (rows ++ [last]) =
      .rest { line := line + rows.length + 1 } := by
  induction rows generalizing line with
  | nil =>
      simp [account, lineAccount_endRows ended]
  | cons row rows ih =>
      have ih := ih (fun other mem => going other (List.mem_cons_of_mem row mem)) (line + 1)
      rw [List.cons_append, account, lineAccount_inertRow inert (going row List.mem_cons_self),
        Account.rest_andThen, ih, List.length_cons, Int.natCast_succ]
      congr 2
      omega

end

/-- A COPY into a table that is not registered tells nothing, whatever its rows hold, and what
stands behind it is reported as an input of its own. -/
theorem scanLines_unregisteredCopy {header : CopyHeader}
    (unknown : registry.resolve header.table.text = none) (nonempty : delimiter ≠ [])
    (source : Text) {raw last : Text} {rows : List Text} (read : IsRead header.text raw)
    (going : ∀ row ∈ rows, dropLineEnd row ≠ ['\\', '.'])
    (ended : dropLineEnd last = ['\\', '.']) (further : List Text) :
    scanLines registry delimiter source (raw :: (rows ++ [last])) = ⟨[], [], none⟩ ∧
      cursorBehind registry delimiter (raw :: (rows ++ [last])) = { line := rows.length + 2 } ∧
      scanLines registry delimiter source (raw :: (rows ++ last :: further)) =
        (scanLines registry delimiter source further).shift (rows.length + 2) := by
  obtain ⟨statement, inert, header⟩ := CopyHeader.exists_lineAccount_text unknown nonempty read
  have block : account registry delimiter {} (raw :: (rows ++ [last])) =
      .rest { line := rows.length + 2 } := by
    rw [account, header, Account.rest_andThen, account_inertRows inert going ended]
    congr 2
    omega
  have silent : scanLines registry delimiter source (raw :: (rows ++ [last])) = ⟨[], [], none⟩ := by
    rw [scanLines_eq_report, block]
    rfl
  have outcome : (account registry delimiter {} (raw :: (rows ++ [last]))).outcome =
      .ok { line := rows.length + 2 } := by
    rw [block]
    rfl
  refine ⟨silent, cursorBehind_eq outcome, ?_⟩
  have parts := scanLines_append nonempty source outcome rfl further
  rw [silent] at parts
  have lines : raw :: (rows ++ [last]) ++ further = raw :: (rows ++ last :: further) := by simp
  have count : ((raw :: (rows ++ [last])).length : Int) = rows.length + 2 := by
    simp
    omega
  rw [lines, count] at parts
  exact parts

/-- Rows with an open comment, an open literal and a statement, between bars. -/
theorem scanLines_unregisteredCopy_rows :
    let registry := Registry.ofTables [("menu_node".toList, ["label".toList])]
    let header : CopyHeader :=
      { table := ⟨some ⟨"Audit".toList, rfl, rfl⟩, ⟨"log".toList, rfl, rfl⟩⟩
        columns := [⟨[], ⟨"id".toList, rfl, rfl⟩, [], rfl, rfl⟩,
          ⟨[' '], ⟨"Label".toList, rfl, rfl⟩, [], rfl, rfl⟩]
        separator := some '|' }
    let raw := "COPY Audit.log (id, Label) FROM stdin WITH DELIMITER '|';\n".toList
    let rows := ["1|/* it's\n".toList, "\n".toList,
      "INSERT INTO menu_node (label) VALUES ('A');\r\n".toList]
    let last := "\\.\n".toList
    let further := ["INSERT INTO menu_node (label) VALUES ('B');\n".toList]
    registry.resolve header.table.text = none ∧ ['\t'] ≠ [] ∧ IsRead header.text raw ∧
      (∀ row ∈ rows, dropLineEnd row ≠ ['\\', '.']) ∧ dropLineEnd last = ['\\', '.'] ∧
      scanLines registry ['\t'] "f".toList (raw :: (rows ++ [last])) = ⟨[], [], none⟩ ∧
      scanLines registry ['\t'] "f".toList (raw :: (rows ++ last :: further)) =
        ⟨[("B".toList, ⟨"f".toList, 6⟩)], [], none⟩ := by
  intro registry header raw rows last further
  have unknown : registry.resolve header.table.text = none := by decide +kernel
  have nonempty : ['\t'] ≠ [] := by decide
  have read : IsRead header.text raw := ⟨['\n'], by decide +kernel, by simp⟩
  have going : ∀ row ∈ rows, dropLineEnd row ≠ ['\\', '.'] := by decide +kernel
  have ended : dropLineEnd last = ['\\', '.'] := by decide +kernel
  obtain ⟨silent, -, report⟩ :=
    scanLines_unregisteredCopy unknown nonempty "f".toList read going ended further
  have fresh : scanLines registry ['\t'] "f".toList further =
      ⟨[("B".toList, ⟨"f".toList, 1⟩)], [], none⟩ := by
    decide +kernel
  rw [fresh] at report
  exact ⟨unknown, nonempty, read, going, ended, silent, report⟩

end SeedCatalog.Scan
