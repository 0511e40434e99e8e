import Mathlib.Data.List.Forall2
import SeedCatalog.Proofs.Scan.Account
import SeedCatalog.Proofs.Scan.Token

/-!
# Copied rows

A COPY stands on a header line, then come its rows, one on each line, and then a
backslash and a dot.  The header says how the rows are cut: by the separator
that its option names, or else by the one that the scan was started with.  A row
is taken as it stands, whatever it holds.
-/

namespace SeedCatalog.Scan

open SeedCatalog.Sql Text

/-! ## The script of a COPY -/

/-- A column with the gaps around it. -/
structure SpacedColumn where
  before : Text
  name : PlainName
  after : Text
  leads : before.IsGap
  trails : after.IsGap

/-- The column with the mark that ends it. -/
def SpacedColumn.written (column : SpacedColumn) (isLast : Bool) : Text :=
  column.before ++ (column.name.text ++ (column.after ++ [endMark isLast]))

/-- The columns of a list up to its closing parenthesis. -/
def writtenColumns (column : SpacedColumn) : List SpacedColumn → Text
  | [] => column.written true
  | next :: others => column.written false ++ writtenColumns next others

/-- A row can be told from other rows and from the end of the rows. -/
structure RowFits (separator : Char) (row : List Text) : Prop where
  fields : ∀ field ∈ row, separator ∉ field ∧ '\n' ∉ field
  filled : join [separator] row ≠ []
  noEnd : join [separator] row ≠ ['\\', '.']
  noReturn : (join [separator] row).getLast? ≠ some '\r'

/-- A COPY on a table with columns, and its rows. -/
structure CopyScript where
  table : PlainName
  column : SpacedColumn
  others : List SpacedColumn
  separator : Char
  /-- Whether an option of the header names the separator. -/
  hasOption : Bool
  rows : List (List Text)
  noFeed : separator ≠ '\n'
  noReturn : separator ≠ '\r'
  fits : ∀ row ∈ rows, RowFits separator row

namespace CopyScript

variable (script : CopyScript)

/-- The names of the columns in order. -/
def names : List PlainName :=
  (script.column :: script.others).map SpacedColumn.name

/-- The option that names the separator, with a single quote doubled. -/
def option : Text :=
  if script.hasOption then " WITH DELIMITER ".toList ++ literal [script.separator] else []

/-- What stands behind the column list, but for the semicolon. -/
def fromStdin : Text :=
  [' '] ++ ("FROM".toList ++ ([' '] ++ ("stdin".toList ++ script.option)))

/-- The line in front of the rows. -/
def header : Text :=
  "COPY".toList ++ ([' '] ++ (script.table.text ++ ([' '] ++ '(' ::
    (writtenColumns script.column script.others ++ script.fromStdin)))) ++ [';']

/-- The lines of the script, without line ends. -/
def lines : List Text :=
  script.header :: (script.rows.map (join [script.separator]) ++ [['\\', '.']])

/-- The delimiter with which the scan starts: any one if the option names the separator. -/
def delimiter (preset : Text) : Text :=
  if script.hasOption then preset else [script.separator]

/-- What is to be recorded of some rows, given the line of the first. -/
def recordsFrom (registry : Registry) (source : Text) (line : Int) :
    List (List Text) → List (Text × Location)
  | [] => []
  | row :: rows =>
      (registry.asked script.table script.names row).map (·, ⟨source, line⟩) ++
        recordsFrom registry source (line + 1) rows

/-- What is to be recorded of the script; its first row stands on line two. -/
def records (registry : Registry) (source : Text) : List (Text × Location) :=
  script.recordsFrom registry source 2 script.rows

end CopyScript

/-- The line as it is read from the input, with or without a line end. -/
def IsRead (line raw : Text) : Prop :=
  ∃ lineEnd, raw = line ++ lineEnd ∧ ∀ c ∈ lineEnd, c = '\r' ∨ c = '\n'

theorem IsRead.dropLineEnd_eq {line raw : Text} (read : IsRead line raw)
    (unended : Unended line) : dropLineEnd raw = line := by
  obtain ⟨lineEnd, rfl, ends⟩ := read
  rw [dropLineEnd_append unended, dropLineEnd_of_forall ends, List.append_nil]

variable {registry : Registry} {delimiter : Text}

/-! ## The header -/

section

variable {cursor : Cursor} {statement : Statement}

theorem fromStdin?_eq {rest : Text} (stops : rest.stopsAt isWord = true) :
    fromStdin? ([' '] ++ ("FROM".toList ++ ([' '] ++ ("stdin".toList ++ rest)))) = some rest := by
  have spells : Spells "STDIN".toList "stdin".toList := rfl
  exact spells.keyword?_append stops

/-- FROM STDIN, which a column list need not precede, sets the delimiter with which the scan
started. -/
theorem step_fromStdin
    (phase : cursor.phase = .beforeFromStdin ∨
      cursor.phase = .copyColumnList ∧ statement.columnsOpen = false)
    (reading : cursor.statement = some statement) {rest : Text}
    (stops : rest.stopsAt isWord = true) :
    cursor.step registry delimiter
        ([' '] ++ ("FROM".toList ++ ([' '] ++ ("stdin".toList ++ rest)))) =
      .ok (cursor.advanceWith .copyOptions { statement with delimiter } rest) := by
  have skipped : skipBlanks ([' '] ++ ("FROM".toList ++ ([' '] ++ ("stdin".toList ++ rest)))) =
      'F' :: ("ROM".toList ++ ([' '] ++ ("stdin".toList ++ rest))) := rfl
  have noList : mark? '(' ([' '] ++ ("FROM".toList ++ ([' '] ++ ("stdin".toList ++ rest)))) =
      none := rfl
  rcases phase with phase | ⟨phase, notOpen⟩
  · rw [step_eq_stepToken (by simp [phase]) (by simp [phase]) skipped (by decide)]
    simp only [Cursor.stepToken, phase, reading, Cursor.stepBeforeFromStdin, fromStdin?_eq stops]
  · rw [step_eq_stepToken (by simp [phase]) (by simp [phase]) skipped (by decide)]
    simp only [Cursor.stepToken, phase, reading, Cursor.stepCopyColumnList, notOpen,
      Bool.false_eq_true, if_false, noList, Cursor.stepBeforeFromStdin, fromStdin?_eq stops]

theorem delimiterOption?_eq (separator : Char) (rest : Text) :
    delimiterOption? (" WITH DELIMITER ".toList ++ (literal [separator] ++ ';' :: rest)) =
      some ([separator], ';' :: rest) := by
  have read : filledRun? '\'' (double '\'' [separator] ++ '\'' :: ';' :: rest) =
      some (double '\'' [separator], ';' :: rest) := filledRun?_double (by simp) (by simp)
  rw [literal_append]
  change ((filledRun? '\'' (double '\'' [separator] ++ '\'' :: ';' :: rest)).map fun run =>
    (undouble '\'' run.1, (mark? ')' run.2).getD run.2.skipBlanks)) = _
  rw [read, Option.map_some, undouble_double]
  rfl

/-- The option sets the separator that it names. -/
theorem step_delimiterOption (phase : cursor.phase = .copyOptions)
    (reading : cursor.statement = some statement) (separator : Char) (rest : Text) :
    cursor.step registry delimiter
        (" WITH DELIMITER ".toList ++ (literal [separator] ++ ';' :: rest)) =
      .ok (cursor.advanceWith .afterDelimiter { statement with delimiter := [separator] }
        (';' :: rest)) := by
  have skipped : skipBlanks (" WITH DELIMITER ".toList ++ (literal [separator] ++ ';' :: rest)) =
      'W' :: ("ITH DELIMITER ".toList ++ (literal [separator] ++ ';' :: rest)) := rfl
  rw [step_eq_stepToken (by simp [phase]) (by simp [phase]) skipped (by decide)]
  simp only [Cursor.stepToken, phase, reading, Cursor.stepCopyOptions, if_true,
    delimiterOption?_eq]

/-- The semicolon ends the header, and the rows begin. -/
theorem textAccount_beginRows
    (phase : cursor.phase = .copyOptions ∨ cursor.phase = .afterDelimiter)
    (reading : cursor.statement = some statement) :
    textAccount registry delimiter cursor [';', '\n'] =
      ⟨[], .ok
        { cursor with
          phase := .dataBlock
          pending := []
          statement := some { statement with ordinal := 1 } }⟩ := by
  have skipped : Text.skipBlanks [';', '\n'] = ';' :: ['\n'] := rfl
  have noOption : delimiterOption? [';', '\n'] = none := rfl
  have ended : statementIsOver [';', '\n'] = true := rfl
  have step : cursor.step registry delimiter [';', '\n'] =
      .ok (Cursor.await
        { cursor with phase := .dataBlock, statement := some { statement with ordinal := 1 } }
        []) := by
    rcases phase with phase | phase
    · rw [step_eq_stepToken (by simp [phase]) (by simp [phase]) skipped (by decide)]
      simp [Cursor.stepToken, phase, reading, Cursor.stepCopyOptions, noOption, ended]
    · rw [step_eq_stepToken (by simp [phase]) (by simp [phase]) skipped (by decide)]
      simp [Cursor.stepToken, phase, reading, Cursor.stepCopyOptions, ended]
  exact textAccount_of_needsInput step rfl

/-- The option that names a separator, or none. -/
def delimiterOption : Option Char → Text
  | some separator => " WITH DELIMITER ".toList ++ literal [separator]
  | none => []

theorem closed_delimiterOption (option : Option Char) : Closed (delimiterOption option) := by
  cases option with
  | none => exact closed_nil
  | some separator => exact (closed_of_all rfl).append (closed_literal _)

/-- The end of a header is read from behind its column list or its table, and the rows begin. -/
theorem textAccount_fromStdin
    (phase : cursor.phase = .beforeFromStdin ∨
      cursor.phase = .copyColumnList ∧ statement.columnsOpen = false)
    (reading : cursor.statement = some statement) (option : Option Char) :
    textAccount registry delimiter cursor
        ([' '] ++ ("FROM".toList ++ ([' '] ++ ("stdin".toList ++
          (delimiterOption option ++ [';', '\n']))))) =
      ⟨[], .ok
        { cursor with
          phase := .dataBlock
          pending := []
          statement := some
            { statement with
              delimiter := (option.map fun separator => [separator]).getD delimiter
              ordinal := 1 } }⟩ := by
  have read : cursor.step registry delimiter
      ([' '] ++ ("FROM".toList ++ ([' '] ++ ("stdin".toList ++
        (delimiterOption option ++ [';', '\n']))))) = .ok _ :=
    step_fromStdin phase reading (by cases option <;> rfl)
  refine (textAccount_of_silent read rfl rfl).trans ?_
  cases option with
  | none =>
      exact @textAccount_beginRows registry delimiter
        { cursor with phase := .copyOptions, statement := some { statement with delimiter } }
        { statement with delimiter } (.inl rfl) rfl
  | some separator =>
      have written : delimiterOption (some separator) ++ [';', '\n'] =
          " WITH DELIMITER ".toList ++ (literal [separator] ++ [';', '\n']) :=
        List.append_assoc _ _ _
      have named : Cursor.step registry delimiter
          { cursor with phase := .copyOptions, statement := some { statement with delimiter } }
          (" WITH DELIMITER ".toList ++ (literal [separator] ++ [';', '\n'])) = .ok _ :=
        step_delimiterOption rfl rfl separator ['\n']
      rw [written]
      refine (textAccount_of_silent named rfl rfl).trans ?_
      exact @textAccount_beginRows registry delimiter
        { cursor with
          phase := .afterDelimiter
          statement := some { statement with delimiter := [separator] } }
        { statement with delimiter := [separator] } (.inr rfl) rfl

end

/-- The columns of a list are read one after the other. -/
theorem textAccount_columns {cursor : Cursor} {statement : Statement} {closed : Phase}
    (closes : Closes cursor.phase closed) (reading : cursor.statement = some statement)
    (isOpen : statement.columnsOpen = true) (column : SpacedColumn) (others : List SpacedColumn)
    (rest : Text) :
    textAccount registry delimiter cursor (writtenColumns column others ++ rest) =
      textAccount registry delimiter
        { cursor with
          phase := closed
          statement := some (statement.withColumns
            ((column :: others).map SpacedColumn.name)) }
        rest := by
  induction others generalizing cursor statement column with
  | nil =>
      have step : cursor.step registry delimiter
          (column.before ++ (column.name.text ++ (column.after ++ endMark true :: rest))) = .ok _ :=
        step_column closes reading isOpen column.leads.allBlank column.name.unquoted
          column.trails.allBlank true rest
      rw [writtenColumns, SpacedColumn.written]
      simp only [List.append_assoc, List.cons_append, List.nil_append]
      rw [textAccount_of_silent step rfl rfl]
      rfl
  | cons next others ih =>
      have step : cursor.step registry delimiter
          (column.before ++ (column.name.text ++
            (column.after ++ endMark false :: (writtenColumns next others ++ rest)))) = .ok _ :=
        step_column closes reading isOpen column.leads.allBlank column.name.unquoted
          column.trails.allBlank false _
      rw [writtenColumns, SpacedColumn.written]
      simp only [List.append_assoc, List.cons_append, List.nil_append]
      rw [textAccount_of_silent step rfl rfl]
      exact @ih { cursor with statement := some (statement.withColumn column.name.text) }
        (statement.withColumn column.name.text) closes rfl isOpen next

theorem SpacedColumn.closed_written (column : SpacedColumn) (isLast : Bool) :
    Closed (column.written isLast) := by
  have closed : Closed [endMark isLast] := closed_of_all (by cases isLast <;> rfl)
  exact column.leads.closed.append (column.name.closed.append (column.trails.closed.append closed))

theorem closed_writtenColumns (column : SpacedColumn) (others : List SpacedColumn) :
    Closed (writtenColumns column others) := by
  induction others generalizing column with
  | nil => exact column.closed_written true
  | cons next others ih => exact (column.closed_written false).append (ih next)

/-- The beginning of a header is read up to its column list. -/
theorem textAccount_copyTable {table : PlainName}
    (known : registry.tables.contains table.text.lower = true) (line : Int) (rest : Text) :
    textAccount registry delimiter { line }
        ("COPY".toList ++ ([' '] ++ (table.text ++ ([' '] ++ '(' :: rest)))) =
      textAccount registry delimiter
        { phase := .copyColumnList
          line
          statement := some { table := table.text.lower, columnsOpen := true } }
        rest := by
  have space : Text.allBlank [' '] = true := rfl
  have unqualified : (skipBlanks ([' '] ++ '(' :: rest)).head? ≠ some '.' := by
    rw [skipBlanks_lead space rfl]
    simp
  have copy : Cursor.step registry delimiter { line }
      ("COPY".toList ++ ([' '] ++ (table.text ++ ([' '] ++ '(' :: rest)))) = .ok _ :=
    step_copy (rfl : Text.allBlank [] = true) rfl rfl
  have name : Cursor.step registry delimiter { phase := .afterCopy, line }
      ([' '] ++ (table.text ++ ([' '] ++ '(' :: rest))) = .ok _ :=
    step_copyTable space ⟨none, table.unquoted⟩ rfl unqualified
      (Registry.resolve_plainName known) rfl
  have mark : Cursor.step registry delimiter
      { phase := .copyColumnList, line, statement := some { table := table.text.lower } }
      ([' '] ++ '(' :: rest) = .ok _ :=
    step_openColumns .copyColumns rfl rfl space rest
  rw [textAccount_of_silent copy rfl rfl]
  refine (textAccount_of_silent name rfl rfl).trans ?_
  exact textAccount_of_silent mark rfl rfl

namespace CopyScript

variable (script : CopyScript)

/-- The separator that the option names, if there is an option. -/
def named : Option Char :=
  if script.hasOption then some script.separator else none

theorem option_eq : script.option = delimiterOption script.named := by
  unfold option named
  split <;> rfl

/-- The separator is the one that the option names, or else the preset one. -/
theorem separator_eq (preset : Text) :
    (script.named.map fun separator => [separator]).getD (script.delimiter preset) =
      [script.separator] := by
  unfold named delimiter
  cases script.hasOption <;> rfl

theorem closed_option : Closed script.option := by
  rw [option_eq]
  exact closed_delimiterOption _

theorem closed_fromStdin : Closed script.fromStdin :=
  (closed_of_all rfl).append ((closed_of_all rfl).append ((closed_of_all rfl).append
    ((closed_of_all rfl).append script.closed_option)))

theorem closed_header : Closed script.header := by
  have columns := closed_writtenColumns script.column script.others
  have list : Closed ([' ', '('] ++ (writtenColumns script.column script.others ++ _)) :=
    (closed_of_all rfl).append (columns.append script.closed_fromStdin)
  have copy : Closed ("COPY".toList ++ ([' '] ++ (script.table.text ++ _))) :=
    (closed_of_all rfl).append ((closed_of_all rfl).append (script.table.closed.append list))
  exact copy.append (closed_of_all rfl)

theorem unended_header : Unended script.header :=
  unended_concat (by decide) (by decide) _

/-- The statement as it stands behind its header. -/
def statement : Statement :=
  { Statement.withColumns { table := script.table.text.lower, columnsOpen := true }
      script.names with
    delimiter := [script.separator], ordinal := 1 }

/-- Behind the header the rows begin. -/
theorem textAccount_header (known : registry.tables.contains script.table.text.lower = true)
    (preset : Text) (line : Int) :
    textAccount registry (script.delimiter preset) { line } (script.header ++ ['\n']) =
      ⟨[], .ok { phase := .dataBlock, line, statement := some script.statement }⟩ := by
  rw [header, fromStdin]
  simp only [List.append_assoc, List.cons_append, List.nil_append]
  refine (textAccount_copyTable known line _).trans ?_
  refine (textAccount_columns .copyColumns rfl rfl _ _ _).trans ?_
  rw [script.option_eq]
  refine (textAccount_fromStdin (.inl rfl) rfl _).trans ?_
  rw [script.separator_eq]
  rfl

theorem lays_statement : script.statement.Lays script.table script.names := by
  have lays := Statement.lays_withColumns script.table script.names
  exact ⟨lays.named, lays.numbered⟩

end CopyScript

/-! ## The rows -/

theorem RowFits.unended {separator : Char} {row : List Text} (fits : RowFits separator row)
    (noFeed : separator ≠ '\n') : Unended (join [separator] row) := by
  intro c last
  constructor
  · rintro rfl
    exact fits.noReturn last
  · rintro rfl
    rcases mem_join (List.mem_of_getLast? last) with same | ⟨field, among, mem⟩
    · exact noFeed same.symm
    · exact (fits.fields field among).2 mem

/-- A row is cut into its fields. -/
theorem RowFits.splitOn_eq {separator : Char} {row : List Text} (fits : RowFits separator row) :
    splitOn [separator] (join [separator] row) = row := by
  apply splitOn_join
  · rintro rfl
    exact fits.filled rfl
  · intro field among
    exact (fits.fields field among).1

/-- A line among the rows is scanned as it stands. -/
theorem lineAccount_dataBlock (line : Int) (statement : Statement) (raw : Text) :
    lineAccount registry delimiter { phase := .dataBlock, line, statement := some statement } raw =
      textAccount registry delimiter
        { phase := .dataBlock, line := line + 1, statement := some statement }
        (dropLineEnd raw) :=
  rfl

/-- The backslash and the dot end the rows. -/
theorem lineAccount_endRows {raw : Text} (ended : dropLineEnd raw = ['\\', '.']) (line : Int)
    (statement : Statement) :
    lineAccount registry delimiter { phase := .dataBlock, line, statement := some statement } raw =
      .rest { line := line + 1 } := by
  have step : Cursor.step registry delimiter
      { phase := .dataBlock, line := line + 1, statement := some statement } ['\\', '.'] =
      .ok (Cursor.giveUp
        { phase := .dataBlock, line := line + 1, statement := some statement } none) := rfl
  rw [lineAccount_dataBlock, ended, textAccount_of_needsInput step rfl]
  simp [Transition.events, Cursor.giveUp, Account.rest]

namespace CopyScript

variable (script : CopyScript)

/-- The cursor among the rows, behind a line. -/
def among (line : Int) : Cursor :=
  { phase := .dataBlock, line, statement := some script.statement }

theorem step_row (known : registry.tables.contains script.table.text.lower = true)
    {row : List Text} (fits : RowFits script.separator row) (line : Int) :
    (script.among line).step registry delimiter (join [script.separator] row) =
      .ok { (script.among line).await [] with
            found := registry.asked script.table script.names row } := by
  have found := Cursor.translatableFields_eq_asked script.lays_statement known 0 row
  rw [Int.natCast_zero, Int.zero_add, List.drop_zero] at found
  have delimiter : script.statement.delimiter = [script.separator] := rfl
  simp only [Cursor.step, among, if_true, Cursor.stepDataBlock, if_neg fits.noEnd,
    if_neg fits.filled, delimiter, fits.splitOn_eq, found]
  rfl

/-- A row tells its listed fields. -/
theorem lineAccount_row (known : registry.tables.contains script.table.text.lower = true)
    {row : List Text} (fits : RowFits script.separator row) {raw : Text}
    (read : IsRead (join [script.separator] row) raw) (line : Int) :
    lineAccount registry delimiter (script.among line) raw =
      (Account.rest (script.among (line + 1))).after
        ((registry.asked script.table script.names row).map (Event.found · (line + 1))) := by
  rw [among, lineAccount_dataBlock, read.dropLineEnd_eq (fits.unended script.noFeed), ← among,
    textAccount_of_needsInput (script.step_row known fits (line + 1)) rfl]
  simp only [Transition.events, Account.rest, Account.after, Cursor.await, among]
  rfl

theorem lineAccount_end {raw : Text} (read : IsRead ['\\', '.'] raw) (line : Int) :
    lineAccount registry delimiter (script.among line) raw = .rest { line := line + 1 } :=
  lineAccount_endRows (read.dropLineEnd_eq (unended_concat (by decide) (by decide) ['\\'])) line _

/-- The rows are scanned one after the other, up to their end. -/
theorem account_rows (known : registry.tables.contains script.table.text.lower = true)
    (source : Text) {rows : List (List Text)} (fits : ∀ row ∈ rows, RowFits script.separator row)
    {raws : List Text}
    (read : List.Forall₂ IsRead (rows.map (join [script.separator]) ++ [['\\', '.']]) raws)
    (line : Int) :
    (account registry delimiter (script.among line) raws).report source =
        ⟨script.recordsFrom registry source (line + 1) rows, [], none⟩ ∧
      (account registry delimiter (script.among line) raws).outcome =
        .ok { line := line + rows.length + 1 } := by
  induction rows generalizing raws line with
  | nil =>
      rcases read with _ | ⟨last, _ | _⟩
      rw [account, script.lineAccount_end last, Account.rest_andThen, account]
      constructor
      · rfl
      · simp [Account.rest]
  | cons row rows ih =>
      rcases read with _ | ⟨first, others⟩
      have ih := ih (fun row among => fits row (List.mem_cons_of_mem _ among)) others (line + 1)
      rw [account, script.lineAccount_row known (fits row List.mem_cons_self) first,
        Account.after_andThen, Account.rest_andThen, Account.report_after, ih.1,
        Account.outcome_after, ih.2]
      constructor
      · rfl
      · rw [List.length_cons, Int.natCast_succ]
        congr 2
        omega

theorem lineAccount_header (known : registry.tables.contains script.table.text.lower = true)
    (preset : Text) {raw : Text} (read : IsRead script.header raw) :
    lineAccount registry (script.delimiter preset) {} raw = .rest (script.among 1) := by
  have text : (prepareLine {} raw).2 = script.header ++ ['\n'] := by
    change dropLineComment ([] ++ dropLineEnd raw) ++ ['\n'] = _
    rw [List.nil_append, read.dropLineEnd_eq script.unended_header,
      script.closed_header.dropLineComment_eq]
  rw [lineAccount, text]
  exact script.textAccount_header known preset 1

end CopyScript

/-- Of a COPY exactly the fields at the positions of listed columns are recorded, each at the line
of its row.  Nobody is warned, and the scan ends between statements. -/
theorem scanLines_copy (script : CopyScript)
    (known : registry.tables.contains script.table.text.lower = true) (preset source : Text)
    {raws : List Text} (read : List.Forall₂ IsRead script.lines raws) :
    scanLines registry (script.delimiter preset) source raws =
        ⟨script.records registry source, [], none⟩ ∧
      (scanLinesFrom registry (script.delimiter preset) {} raws).getLast?.map LineScan.next =
        some { line := script.rows.length + 2 } := by
  rcases read with _ | ⟨header, others⟩
  obtain ⟨report, outcome⟩ := script.account_rows known source script.fits others 1
  constructor
  · rw [scanLines_eq_report, account, script.lineAccount_header known preset header,
      Account.rest_andThen, report]
    rfl
  · apply getLast?_scanLinesFrom (by simp)
    rw [account, script.lineAccount_header known preset header, Account.rest_andThen, outcome]
    congr 2
    omega

/-- The rows may hold double quotes, comments and the words of other statements, and the separator
may be a quote. -/
theorem scanLines_copy_quotes :
    let registry := Registry.ofTables [("menu_node".toList, ["label".toList])]
    let script : CopyScript :=
      { table := ⟨"Menu_Node".toList, rfl, rfl⟩
        column := ⟨[], ⟨"id".toList, rfl, rfl⟩, [], rfl, rfl⟩
        others := [⟨[' '], ⟨"Label".toList, rfl, rfl⟩, [], rfl, rfl⟩]
        separator := '\''
        hasOption := true
        rows := [["1".toList, "INSERT -- /*".toList], ["2".toList, "\"".toList, "x".toList]]
        noFeed := by decide
        noReturn := by decide
        fits := by
          intro row mem
          rcases List.mem_pair.1 mem with rfl | rfl
          · constructor <;> decide
          · constructor <;> decide }
    let raws := ["COPY Menu_Node (id, Label) FROM stdin WITH DELIMITER '''';\n".toList,
      "1'INSERT -- /*\r\n".toList, "2'\"'x\n".toList, "\\.".toList]
    registry.tables.contains script.table.text.lower = true ∧
      List.Forall₂ IsRead script.lines raws ∧
      scanLines registry ['\t'] "f".toList raws =
        ⟨[("INSERT -- /*".toList, ⟨"f".toList, 2⟩), ("\"".toList, ⟨"f".toList, 3⟩)], [], none⟩ ∧
      (scanLinesFrom registry ['\t'] {} raws).getLast?.map LineScan.next = some { line := 4 } := by
  intro registry script raws
  have known : registry.tables.contains script.table.text.lower = true := by decide +kernel
  have read : List.Forall₂ IsRead script.lines raws :=
    .cons ⟨['\n'], rfl, by simp⟩ (.cons ⟨['\r', '\n'], rfl, by simp⟩
      (.cons ⟨['\n'], rfl, by simp⟩ (.cons ⟨[], rfl, by simp⟩ .nil)))
  obtain ⟨report, ended⟩ := scanLines_copy script known ['\t'] "f".toList read
  have records : script.records registry "f".toList =
      [("INSERT -- /*".toList, ⟨"f".toList, 2⟩), ("\"".toList, ⟨"f".toList, 3⟩)] := by
    decide +kernel
  rw [records] at report
  exact ⟨known, read, report, ended⟩

end SeedCatalog.Scan
