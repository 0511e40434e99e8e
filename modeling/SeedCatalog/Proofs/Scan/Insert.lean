import SeedCatalog.Proofs.Scan.Layout

/-!
# Inserted values

A script of INSERT statements is followed token by token.  Every item of a list,
a column or a value, is passed together with its layout and with the mark that
ends it; lists, rows, statements and scripts are then passed by induction.
-/

namespace SeedCatalog.Scan

open SeedCatalog.Sql Text

variable {registry : Registry} {delimiter source : Text} {phase phase' : Phase} {line : Int}
  {statement statement' : Option Statement}

/-! ## Tokens behind a layout -/

/-- A token that nothing has to follow is taken behind its layout. -/
theorem reportFrom_token (tokens : phase.readsTokens = true) (tokens' : phase'.readsTokens = true)
    {gap token rest : Text} (spaced : gap.IsGap) (layout : Layout) (filled : rest ≠ [])
    (plain : IsPlain token)
    (step : ∀ line gap, IsGap gap →
      Cursor.step registry delimiter { phase, line, statement } (gap ++ (token ++ seen rest)) =
        .ok { cursor := { phase := phase', line, statement := statement' }
              remainder := seen rest }) :
    reportFrom registry delimiter source { phase, line, pending := gap, statement }
        (layout.text ++ (token ++ rest)) =
      reportFrom registry delimiter source
        { phase := phase', line := line + feeds (layout.text ++ token), statement := statement' }
        rest := by
  apply reportFrom_before tokens spaced (by simp [filled])
  intro gap' spaced'
  have closed := spaced'.closed.append plain.closed
  rw [reportFrom_take tokens tokens' plain.notMem plain.unended filled closed (step _ _ spaced'),
    feeds_append, feeds_of_notMem plain.notMem, Int.add_zero]
  rfl

/-! ## Items of a list -/

/-- How the content of an item is read: it may run over line ends, and then it waits until a mark
ends it. -/
structure Reads (registry : Registry) (delimiter source : Text) (phase : Phase)
    (statement : Statement) (content : Text) : Prop where
  closed : Closed content
  passes : ∀ {line gap rest}, IsGap gap → rest ≠ [] →
    reportFrom registry delimiter source
        { phase, line, pending := gap, statement := some statement } (content ++ rest) =
      reportFrom registry delimiter source
        { phase
          line := line + feeds content
          pending := gap ++ content
          statement := some statement }
        rest
  waits : ∀ {line gap gap'}, IsGap gap → IsGap gap' →
    Cursor.step registry delimiter { phase, line, statement := some statement }
        (gap ++ (content ++ gap')) =
      .ok (Cursor.await { phase, line, statement := some statement } (gap ++ (content ++ gap')))

section

variable {reading : Statement}

theorem reads_of_isPlain (tokens : phase.readsTokens = true) {content : Text}
    (plain : IsPlain content)
    (waits : ∀ {line gap gap'}, IsGap gap → IsGap gap' →
      Cursor.step registry delimiter { phase, line, statement := some reading }
          (gap ++ (content ++ gap')) =
        .ok (Cursor.await { phase, line, statement := some reading } (gap ++ (content ++ gap')))) :
    Reads registry delimiter source phase reading content where
  closed := plain.closed
  passes _ filled := by
    rw [reportFrom_append tokens plain.notMem plain.unended filled, feeds_of_notMem plain.notMem,
      Int.add_zero]
  waits := waits

theorem reads_column (isOpen : reading.columnsOpen = true) (name : PlainName) :
    Reads registry delimiter source .columnList reading name.text := by
  refine reads_of_isPlain rfl (isPlain_name name) ?_
  intro line gap gap' spaced spaced'
  exact step_columnWaits .columns rfl isOpen spaced.allBlank name.unquoted spaced'.allBlank

theorem reads_value (value : WrittenValue) :
    Reads registry delimiter source .tuple reading value.written := by
  have waits : ∀ {line gap gap'}, IsGap gap → IsGap gap' →
      Cursor.step registry delimiter { phase := .tuple, line, statement := some reading }
          (gap ++ (value.written ++ gap')) =
        .ok (Cursor.await { phase := .tuple, line, statement := some reading }
          (gap ++ (value.written ++ gap'))) := by
    intro line gap gap' spaced spaced'
    exact step_valueWaits rfl rfl spaced.allBlank value spaced'.allBlank
  cases value with
  | literal text noReturn =>
      refine ⟨closed_literal text, ?_, waits⟩
      intro line gap rest spaced filled
      have quote : feeds (literal text) = feeds (double '\'' text) := by
        have none : feeds ['\''] = 0 := rfl
        rw [literal, List.cons_append, feeds_cons (by decide), feeds_append, none, Int.add_zero]
      have oneLine : '\n' ∉ ['\''] := by decide
      have unended := unended_concat (c := '\'') (by decide) (by decide) []
      have filled' : double '\'' text ++ '\'' :: rest ≠ [] := by simp
      rw [WrittenValue.written, literal_append, quote]
      exact (reportFrom_append rfl oneLine unended filled').trans
        (reportFrom_literal spaced noReturn [] filled)
  | bare text filled parts =>
      exact reads_of_isPlain rfl (isPlain_bare parts) waits

/-- An item is passed together with its layout and the mark that ends it. -/
theorem reportFrom_item {content : Text} {next : Statement} {isLast : Bool} {found : List Text}
    {gap rest : Text} (tokens : phase.readsTokens = true) (tokens' : phase'.readsTokens = true)
    (reads : Reads registry delimiter source phase reading content)
    (takes : ∀ line {gap gap'}, IsGap gap → IsGap gap' →
      Cursor.step registry delimiter { phase, line, statement := some reading }
          (gap ++ (content ++ (gap' ++ endMark isLast :: seen rest))) =
        .ok { cursor := { phase := phase', line, statement := some next }
              remainder := seen rest
              found })
    (spaced : gap.IsGap) (before after : Layout) (filled : rest ≠ []) :
    reportFrom registry delimiter source
        { phase, line, pending := gap, statement := some reading }
        (before.text ++ (content ++ (after.text ++ endMark isLast :: rest))) =
      (reportFrom registry delimiter source
        { phase := phase'
          line := line + feeds (before.text ++ (content ++ after.text))
          statement := some next }
        rest).behind
        (found.map
          (·, ⟨source, line + feeds (before.text ++ (content ++ after.text)) + 1⟩)) := by
  have mark := isPlain_endMark isLast
  apply reportFrom_before tokens spaced (by simp)
  intro gap spaced
  rw [reads.passes spaced (by simp), ← List.append_nil (gap ++ content)]
  have held := spaced.closed.append reads.closed
  refine reportFrom_layout tokens held ?_ .nil (by simp) ?_
  · intro line gap' spaced'
    refine ⟨gap', spaced', ?_⟩
    rw [List.append_assoc]
    exact reads.waits spaced spaced'
  · intro gap' spaced'
    have number : line + feeds before.text + feeds content + feeds after.text =
        line + feeds (before.text ++ (content ++ after.text)) := by
      rw [feeds_append, feeds_append, Int.add_assoc, Int.add_assoc]
    have step := takes (line + feeds (before.text ++ (content ++ after.text)) + 1) spaced spaced'
    have closed := (held.append spaced'.closed).append mark.closed
    have text : gap ++ (content ++ (gap' ++ endMark isLast :: seen rest)) =
        gap ++ content ++ gap' ++ ([endMark isLast] ++ seen rest) := by
      simp
    rw [text] at step
    rw [number, ← List.singleton_append]
    exact reportFrom_take tokens tokens' mark.notMem mark.unended filled closed step

/-- A column is read with its layout and its mark. -/
theorem reportFrom_column (isOpen : reading.columnsOpen = true) (item : Placed PlainName)
    (isLast : Bool) {rest : Text} (filled : rest ≠ []) :
    reportFrom registry delimiter source { phase := .columnList, line, statement := some reading }
        (item.text PlainName.text ++ endMark isLast :: rest) =
      reportFrom registry delimiter source
        { phase := if isLast then .beforeValues else .columnList
          line := line + feeds (item.text PlainName.text)
          statement := some (reading.withColumn item.content.text) }
        rest := by
  have tokens : (if isLast then Phase.beforeValues else .columnList).readsTokens = true := by
    cases isLast <;> rfl
  have takes : ∀ line {gap gap'}, IsGap gap → IsGap gap' →
      Cursor.step registry delimiter { phase := .columnList, line, statement := some reading }
          (gap ++ (item.content.text ++ (gap' ++ endMark isLast :: seen rest))) = .ok
        { cursor :=
            { phase := if isLast then .beforeValues else .columnList
              line
              statement := some (reading.withColumn item.content.text) }
          remainder := seen rest
          found := [] } :=
    fun line _ _ spaced spaced' =>
      step_column .columns rfl isOpen spaced.allBlank item.content.unquoted spaced'.allBlank isLast
        (seen rest)
  rw [Placed.text, List.append_assoc, List.append_assoc]
  exact reportFrom_item rfl tokens (reads_column isOpen item.content) takes .nil item.before
    item.after filled

/-- The columns of a list are read one after the other. -/
theorem reportFrom_columns (isOpen : reading.columnsOpen = true) {rest : Text} (filled : rest ≠ [])
    (item : Placed PlainName) (others : List (Placed PlainName)) :
    reportFrom registry delimiter source { phase := .columnList, line, statement := some reading }
        (writtenItems PlainName.text item others ++ rest) =
      reportFrom registry delimiter source
        { phase := .beforeValues
          line := line + feeds (writtenItems PlainName.text item others)
          statement := some (reading.withColumns ((item :: others).map Placed.content)) }
        rest := by
  induction others generalizing line reading item with
  | nil =>
      have mark : feeds [endMark true] = 0 := rfl
      rw [writtenItems, List.append_assoc, List.singleton_append,
        reportFrom_column isOpen item true filled, feeds_append, mark, Int.add_zero]
      rfl
  | cons next others ih =>
      have isOpen' : (reading.withColumn item.content.text).columnsOpen = true := isOpen
      have filled' : writtenItems PlainName.text next others ++ rest ≠ [] := by simp [filled]
      rw [writtenItems, List.append_assoc, List.cons_append,
        reportFrom_column isOpen item false filled', feeds_append, feeds_cons (by decide),
        ← Int.add_assoc]
      exact ih isOpen' next

/-! ## Values -/

/-- A value is read with its layout and its mark, and is recorded at the line of the mark if the
column at its position is listed. -/
theorem reportFrom_value {table : PlainName} {names : List PlainName}
    (known : registry.tables.contains table.text.lower = true) (lays : reading.Lays table names)
    (position : Nat) (item : Placed WrittenValue) (isLast : Bool) {rest : Text}
    (filled : rest ≠ []) :
    reportFrom registry delimiter source
        { phase := .tuple, line, statement := some { reading with ordinal := position } }
        (item.text WrittenValue.written ++ endMark isLast :: rest) =
      (reportFrom registry delimiter source
        { phase := if isLast then .afterTuple else .tuple
          line := line + feeds (item.text WrittenValue.written)
          statement := some { reading with ordinal := (position + 1 : Nat) } }
        rest).behind
        (if names[position]?.any (registry.lists table) then
          [(item.content.text, ⟨source, line + 1 + feeds (item.text WrittenValue.written)⟩)]
        else []) := by
  have tokens : (if isLast then Phase.afterTuple else .tuple).readsTokens = true := by
    cases isLast <;> rfl
  have takes : ∀ line {gap gap'}, IsGap gap → IsGap gap' →
      Cursor.step registry delimiter
          { phase := .tuple, line, statement := some { reading with ordinal := position } }
          (gap ++ (item.content.written ++ (gap' ++ endMark isLast :: seen rest))) = .ok
        { cursor :=
            { phase := if isLast then .afterTuple else .tuple
              line
              statement := some { reading with ordinal := (position + 1 : Nat) } }
          remainder := seen rest
          found :=
            if names[position]?.any (registry.lists table) then [item.content.text] else [] } := by
    intro line gap gap' spaced spaced'
    have read : Cursor.step registry delimiter
        { phase := .tuple, line, statement := some { reading with ordinal := position } }
        (gap ++ (item.content.written ++ (gap' ++ endMark isLast :: seen rest))) = .ok _ :=
      step_value rfl rfl spaced.allBlank item.content spaced'.allBlank isLast (seen rest)
    rw [← lays.isTranslatable_eq known position]
    exact read
  have recorded : (if names[position]?.any (registry.lists table) then
        [(item.content.text,
          (⟨source, line + 1 + feeds (item.text WrittenValue.written)⟩ : Location))]
      else []) =
      (if names[position]?.any (registry.lists table) then [item.content.text] else []).map
        (·, ⟨source, line + feeds (item.text WrittenValue.written) + 1⟩) := by
    rw [Int.add_right_comm]
    split <;> rfl
  rw [recorded, Placed.text, List.append_assoc, List.append_assoc]
  exact reportFrom_item rfl tokens (reads_value item.content) takes .nil item.before item.after
    filled

/-- The values of a row are read one after the other. -/
theorem reportFrom_values {table : PlainName} {names : List PlainName}
    (known : registry.tables.contains table.text.lower = true) (lays : reading.Lays table names)
    {rest : Text} (filled : rest ≠ []) (position : Nat) (item : Placed WrittenValue)
    (others : List (Placed WrittenValue)) :
    reportFrom registry delimiter source
        { phase := .tuple, line, statement := some { reading with ordinal := position } }
        (writtenItems WrittenValue.written item others ++ rest) =
      (reportFrom registry delimiter source
        { phase := .afterTuple
          line := line + feeds (writtenItems WrittenValue.written item others)
          statement := some { reading with ordinal := (position + 1 + others.length : Nat) } }
        rest).behind
        (registry.asked table (names.drop position)
          (locatedValues source (line + 1) (item :: others))) := by
  induction others generalizing line position item with
  | nil =>
      have mark : feeds [endMark true] = 0 := rfl
      rw [writtenItems, List.append_assoc, List.singleton_append,
        reportFrom_value known lays position item true filled, feeds_append, mark, Int.add_zero,
        locatedValues, Registry.asked_drop_cons]
      simp [locatedValues, Registry.asked]
  | cons next others ih =>
      have filled' : writtenItems WrittenValue.written next others ++ rest ≠ [] := by simp [filled]
      have ih := @ih (line + feeds (item.text WrittenValue.written)) (position + 1) next
      have number : position + 1 + (next :: others).length = position + 1 + 1 + others.length := by
        rw [List.length_cons]
        omega
      rw [writtenItems, List.append_assoc, List.cons_append,
        reportFrom_value known lays position item false filled', feeds_append,
        feeds_cons (by decide), ← Int.add_assoc, locatedValues, Registry.asked_drop_cons,
        Int.add_right_comm line 1, number]
      simp only [Bool.false_eq_true, if_false]
      rw [ih, Report.behind_behind]

/-! ## Rows -/

/-- A row is read up to its closing parenthesis. -/
theorem reportFrom_row {table : PlainName} {names : List PlainName}
    (known : registry.tables.contains table.text.lower = true) (lays : reading.Lays table names)
    (row : Row) {rest : Text} (filled : rest ≠ []) :
    reportFrom registry delimiter source
        { phase := .beforeTuple, line, statement := some reading }
        (row.before.text ++
          '(' :: (writtenItems WrittenValue.written row.first row.others ++ rest)) =
      (reportFrom registry delimiter source
        { phase := .afterTuple
          line := line + feeds (row.before.text ++
            '(' :: writtenItems WrittenValue.written row.first row.others)
          statement := some { reading with ordinal := (0 + 1 + row.others.length : Nat) } }
        rest).behind (row.records registry source table names (line + 1)) := by
  have plain : IsPlain ['('] := rfl
  have filled' : writtenItems WrittenValue.written row.first row.others ++ rest ≠ [] := by
    simp [filled]
  have step : ∀ line gap, IsGap gap →
      Cursor.step registry delimiter { phase := .beforeTuple, line, statement := some reading }
          (gap ++ (['('] ++
            seen (writtenItems WrittenValue.written row.first row.others ++ rest))) = .ok
        { cursor :=
            { phase := .tuple, line, statement := some { reading with ordinal := (0 : Nat) } }
          remainder := seen (writtenItems WrittenValue.written row.first row.others ++ rest) } :=
    fun line gap spaced => step_openTuple spaced.allBlank _ rfl rfl
  have mark : feeds ['('] = 0 := rfl
  have number : line + feeds (row.before.text ++
        '(' :: writtenItems WrittenValue.written row.first row.others) =
      line + feeds row.before.text +
        feeds (writtenItems WrittenValue.written row.first row.others) := by
    rw [feeds_append, feeds_cons (by decide), Int.add_assoc]
  rw [number, Row.records, Int.add_right_comm line 1]
  refine (reportFrom_token rfl rfl .nil row.before filled' plain step).trans ?_
  rw [feeds_append, mark, Int.add_zero]
  exact reportFrom_values known lays filled 0 row.first row.others

/-- The semicolon ends the statement, also at the end of the content. -/
theorem reportFrom_semicolon (layout : Layout) (rest : Text) :
    reportFrom registry delimiter source
        { phase := .afterTuple, line, statement := some reading } (layout.text ++ ';' :: rest) =
      reportFrom registry delimiter source { line := line + feeds (layout.text ++ [';']) }
        rest := by
  have mark : feeds [';'] = 0 := rfl
  have plain : IsPlain [';'] := rfl
  rw [feeds_append, mark, Int.add_zero]
  cases rest with
  | nil =>
      apply reportFrom_before rfl .nil (by simp)
      intro gap spaced
      have text : dropLineComment (gap ++ dropLineEnd (firstLine [';'])) ++ ['\n'] =
          gap ++ ';' :: ['\n'] := by
        have closed := spaced.closed.append plain.closed
        have whole : dropLineEnd (firstLine [';']) = [';'] := rfl
        rw [whole, closed.dropLineComment_eq]
        simp
      have ends : Cursor.step registry delimiter
          { phase := .afterTuple, line := line + feeds layout.text + 1, statement := some reading }
          (gap ++ ';' :: ['\n']) = .ok _ :=
        step_endTuples spaced.allBlank ['\n'] rfl
      have pause : Cursor.step registry delimiter { line := line + feeds layout.text + 1 } ['\n'] =
          .ok _ :=
        step_of_allBlank rfl rfl
      rw [reportFrom_eq rfl (by simp), text, textAccount_of_silent ends rfl rfl]
      change ((textAccount registry delimiter { line := line + feeds layout.text + 1 }
        ['\n']).andThen _).report source = _
      rw [textAccount_of_needsInput pause rfl]
      rfl
  | cons c rest =>
      have step : ∀ line gap, IsGap gap →
          Cursor.step registry delimiter { phase := .afterTuple, line, statement := some reading }
              (gap ++ ([';'] ++ seen (c :: rest))) = .ok
            { cursor := { phase := .idle, line, statement := none }
              remainder := seen (c :: rest) } :=
        fun line gap spaced => step_endTuples spaced.allBlank _ rfl
      refine (reportFrom_token rfl rfl .nil layout (by simp) plain step).trans ?_
      rw [feeds_append, mark, Int.add_zero]

/-- A comma announces a further row. -/
theorem reportFrom_comma (layout : Layout) {rest : Text} (filled : rest ≠ []) :
    reportFrom registry delimiter source
        { phase := .afterTuple, line, statement := some reading } (layout.text ++ ',' :: rest) =
      reportFrom registry delimiter source
        { phase := .beforeTuple
          line := line + feeds (layout.text ++ [','])
          statement := some reading }
        rest := by
  have plain : IsPlain [','] := rfl
  have step : ∀ line gap, IsGap gap →
      Cursor.step registry delimiter { phase := .afterTuple, line, statement := some reading }
          (gap ++ ([','] ++ seen rest)) = .ok
        { cursor := { phase := .beforeTuple, line, statement := some reading }
          remainder := seen rest } :=
    fun line gap spaced => step_nextTuple spaced.allBlank _ rfl
  exact reportFrom_token rfl rfl .nil layout filled plain step

/-- Rows begin with the opening parenthesis of the first. -/
theorem exists_writtenRows_eq (row : Row) (others : List Row) :
    ∃ rest, writtenRows row others = row.before.text ++ '(' :: rest := by
  cases others with
  | nil => exact ⟨_, List.append_assoc _ _ _⟩
  | cons next others => exact ⟨_, List.append_assoc _ _ _⟩

/-- Rows are read one after the other, up to the semicolon. -/
theorem reportFrom_rows {table : PlainName} {names : List PlainName}
    (known : registry.tables.contains table.text.lower = true) (lays : reading.Lays table names)
    (row : Row) (others : List Row) (rest : Text) :
    reportFrom registry delimiter source
        { phase := .beforeTuple, line, statement := some reading }
        (writtenRows row others ++ rest) =
      (reportFrom registry delimiter source { line := line + feeds (writtenRows row others) }
        rest).behind
        (recordsOfRows registry source table names (line + 1) (row :: others)) := by
  induction others generalizing line reading row with
  | nil =>
      have written : writtenRows row [] ++ rest =
          row.before.text ++ '(' :: (writtenItems WrittenValue.written row.first row.others ++
            (row.after.text ++ ';' :: rest)) := by
        simp [writtenRows, Row.text]
      have number : line + feeds (writtenRows row []) =
          line + feeds (row.before.text ++
            '(' :: writtenItems WrittenValue.written row.first row.others) +
            feeds (row.after.text ++ [';']) := by
        rw [Int.add_assoc, ← feeds_append]
        simp [writtenRows, Row.text]
      rw [written, reportFrom_row known lays row (by simp), reportFrom_semicolon, number,
        recordsOfRows, recordsOfRows, List.append_nil]
  | cons next others ih =>
      have lays' : ∀ ordinal, Statement.Lays { reading with ordinal } table names :=
        fun _ => ⟨lays.named, lays.numbered⟩
      have filled : writtenRows next others ++ rest ≠ [] := by
        cases others <;> simp [writtenRows]
      have written : writtenRows row (next :: others) ++ rest =
          row.before.text ++ '(' :: (writtenItems WrittenValue.written row.first row.others ++
            (row.after.text ++ ',' :: (writtenRows next others ++ rest))) := by
        simp [writtenRows, Row.text]
      have mark : feeds [','] = 0 := rfl
      have row_eq : feeds (row.before.text ++
            '(' :: writtenItems WrittenValue.written row.first row.others) +
          feeds (row.after.text ++ [',']) = feeds row.text := by
        rw [feeds_append row.after.text, mark, Int.add_zero, ← feeds_append, Row.text]
        simp
      have number : feeds (writtenRows row (next :: others)) =
          feeds row.text + feeds (writtenRows next others) := by
        rw [writtenRows, feeds_append, feeds_cons (by decide)]
      have records : recordsOfRows registry source table names (line + 1) (row :: next :: others) =
          row.records registry source table names (line + 1) ++
            recordsOfRows registry source table names (line + feeds row.text + 1)
              (next :: others) := by
        rw [Int.add_right_comm]
        rfl
      rw [written, reportFrom_row known lays row (by simp), reportFrom_comma row.after filled,
        ih (lays' _), Report.behind_behind, Int.add_assoc line, row_eq, number, ← Int.add_assoc,
        records]

end

/-! ## Statements -/

section

variable {rest : Text} (layout : Layout)

theorem reportFrom_insert (stops : (seen rest).stopsAt isWord = true) (filled : rest ≠ []) :
    reportFrom registry delimiter source { line } (layout.text ++ ("INSERT".toList ++ rest)) =
      reportFrom registry delimiter source
        { phase := .afterInsert, line := line + feeds (layout.text ++ "INSERT".toList) } rest := by
  have plain : IsPlain "INSERT".toList := rfl
  have step : ∀ line gap, IsGap gap →
      Cursor.step registry delimiter { line } (gap ++ ("INSERT".toList ++ seen rest)) = .ok
        { cursor := { phase := .afterInsert, line }, remainder := seen rest } :=
    fun line gap spaced => step_insert spaced.allBlank stops rfl rfl
  exact reportFrom_token rfl rfl .nil layout filled plain step

theorem reportFrom_into (stops : (seen rest).stopsAt isWord = true) (filled : rest ≠ []) :
    reportFrom registry delimiter source { phase := .afterInsert, line }
        (layout.text ++ ("INTO".toList ++ rest)) =
      reportFrom registry delimiter source
        { phase := .afterInto, line := line + feeds (layout.text ++ "INTO".toList) } rest := by
  have plain : IsPlain "INTO".toList := rfl
  have step : ∀ line gap, IsGap gap →
      Cursor.step registry delimiter { phase := .afterInsert, line }
          (gap ++ ("INTO".toList ++ seen rest)) = .ok
        { cursor := { phase := .afterInto, line }, remainder := seen rest } :=
    fun line gap spaced => step_into spaced.allBlank stops rfl rfl
  exact reportFrom_token rfl rfl .nil layout filled plain step

theorem reportFrom_table {table : PlainName}
    (known : registry.tables.contains table.text.lower = true)
    (stops : (seen rest).stopsAt continuesIdentifier = true)
    (unqualified : (seen rest).skipBlanks.head? ≠ some '.') (filled : rest ≠ []) :
    reportFrom registry delimiter source { phase := .afterInto, line }
        (layout.text ++ (table.text ++ rest)) =
      reportFrom registry delimiter source
        { phase := .columnList
          line := line + feeds (layout.text ++ table.text)
          statement := some { table := table.text.lower } }
        rest := by
  have step : ∀ line gap, IsGap gap →
      Cursor.step registry delimiter { phase := .afterInto, line }
          (gap ++ (table.text ++ seen rest)) = .ok
        { cursor := { phase := .columnList, line, statement := some { table := table.text.lower } }
          remainder := seen rest } :=
    fun line gap spaced =>
      step_insertTable spaced.allBlank ⟨none, table.unquoted⟩ stops unqualified
        (Registry.resolve_plainName known) rfl
  exact reportFrom_token rfl rfl .nil layout filled (isPlain_name table) step

theorem reportFrom_openColumns {reading : Statement} (notOpen : reading.columnsOpen = false)
    (filled : rest ≠ []) :
    reportFrom registry delimiter source { phase := .columnList, line, statement := some reading }
        (layout.text ++ (['('] ++ rest)) =
      reportFrom registry delimiter source
        { phase := .columnList
          line := line + feeds (layout.text ++ ['('])
          statement := some { reading with columnsOpen := true } }
        rest := by
  have plain : IsPlain ['('] := rfl
  have step : ∀ line gap, IsGap gap →
      Cursor.step registry delimiter { phase := .columnList, line, statement := some reading }
          (gap ++ (['('] ++ seen rest)) = .ok
        { cursor :=
            { phase := .columnList
              line
              statement := some { reading with columnsOpen := true } }
          remainder := seen rest } :=
    fun line gap spaced => step_openColumns .columns rfl notOpen spaced.allBlank (seen rest)
  exact reportFrom_token rfl rfl .nil layout filled plain step

theorem reportFrom_valuesWord {reading : Statement} (stops : (seen rest).stopsAt isWord = true)
    (filled : rest ≠ []) :
    reportFrom registry delimiter source
        { phase := .beforeValues, line, statement := some reading }
        (layout.text ++ ("VALUES".toList ++ rest)) =
      reportFrom registry delimiter source
        { phase := .beforeTuple
          line := line + feeds (layout.text ++ "VALUES".toList)
          statement := some reading }
        rest := by
  have plain : IsPlain "VALUES".toList := rfl
  have step : ∀ line gap, IsGap gap →
      Cursor.step registry delimiter { phase := .beforeValues, line, statement := some reading }
          (gap ++ ("VALUES".toList ++ seen rest)) = .ok
        { cursor := { phase := .beforeTuple, line, statement := some reading }
          remainder := seen rest } :=
    fun line gap spaced => step_values spaced.allBlank stops rfl rfl rfl
  exact reportFrom_token rfl rfl .nil layout filled plain step

end

namespace InsertStatement

variable (written : InsertStatement)

/-- The statement as it stands behind its column list. -/
def reading : Statement :=
  Statement.withColumns { table := written.table.text.lower, columnsOpen := true } written.names

theorem lays_reading : written.reading.Lays written.table written.names :=
  Statement.lays_withColumns written.table written.names

/-- A statement is read up to its rows. -/
theorem reportFrom_opening (known : registry.tables.contains written.table.text.lower = true)
    {rest : Text} (stops : (seen rest).stopsAt isWord = true) (filled : rest ≠ []) :
    reportFrom registry delimiter source { line } (written.opening ++ rest) =
      reportFrom registry delimiter source
        { phase := .beforeTuple
          line := line + feeds written.opening
          statement := some written.reading }
        rest := by
  have text : written.opening ++ rest =
      written.beforeInsert.text ++ ("INSERT".toList ++
        (written.beforeInto.text ++ ("INTO".toList ++
          (written.beforeTable.text ++ (written.table.text ++
            (written.beforeColumns.text ++ (['('] ++
              (writtenItems PlainName.text written.column written.columns ++
                (written.beforeValues.text ++ ("VALUES".toList ++ rest)))))))))) := by
    simp [opening]
  have number : line + feeds written.opening =
      line + feeds (written.beforeInsert.text ++ "INSERT".toList) +
        feeds (written.beforeInto.text ++ "INTO".toList) +
        feeds (written.beforeTable.text ++ written.table.text) +
        feeds (written.beforeColumns.text ++ ['(']) +
        feeds (writtenItems PlainName.text written.column written.columns) +
        feeds (written.beforeValues.text ++ "VALUES".toList) := by
    simp only [Int.add_assoc, ← feeds_append]
    simp [opening]
  have mark : ∀ rest, seen ('(' :: rest) = '(' :: seen rest :=
    seen_cons (by decide) (by decide) rfl
  rw [text, number,
    reportFrom_insert written.beforeInsert (stopsAt_seen rfl rfl rfl (.inl written.intoApart))
      (by simp),
    reportFrom_into written.beforeInto (stopsAt_seen rfl rfl rfl (.inl written.tableApart))
      (by simp),
    reportFrom_table written.beforeTable known (stopsAt_seen rfl rfl rfl (.inr ?_))
      (head?_skipBlanks_seen ?_ _) (by simp),
    reportFrom_openColumns written.beforeColumns rfl (by simp),
    reportFrom_columns rfl (by simp), reportFrom_valuesWord written.beforeValues stops filled]
  · rfl
  · rw [List.singleton_append, mark]
    rfl
  · rw [List.singleton_append, mark]
    exact nofun

/-- A statement is read up to its semicolon, and everything that is to be recorded of it is. -/
theorem reportFrom_text (known : registry.tables.contains written.table.text.lower = true)
    (rest : Text) :
    reportFrom registry delimiter source { line } (written.text ++ rest) =
      (reportFrom registry delimiter source { line := line + feeds written.text } rest).behind
        (written.records registry source (line + 1)) := by
  obtain ⟨others, begins⟩ := exists_writtenRows_eq written.row written.rows
  have stops : (seen (writtenRows written.row written.rows ++ rest)).stopsAt isWord = true := by
    rw [begins, List.append_assoc]
    apply stopsAt_seen rfl rfl rfl
    right
    rw [List.cons_append, seen_cons (by decide) (by decide) rfl]
    rfl
  have filled : writtenRows written.row written.rows ++ rest ≠ [] := by simp [begins]
  rw [text, List.append_assoc, written.reportFrom_opening known stops filled,
    reportFrom_rows known written.lays_reading, feeds_append, ← Int.add_assoc, records,
    Int.add_right_comm line 1]

end InsertStatement

/-- Statements are read one after the other. -/
theorem reportFrom_statements {statements : List InsertStatement}
    (known : ∀ written ∈ statements,
      registry.tables.contains written.table.text.lower = true) (rest : Text) :
    reportFrom registry delimiter source { line }
        (statements.flatMap InsertStatement.text ++ rest) =
      (reportFrom registry delimiter source
        { line := line + feeds (statements.flatMap InsertStatement.text) } rest).behind
        (recordsOfStatements registry source (line + 1) statements) := by
  induction statements generalizing line with
  | nil =>
      have none : feeds ([].flatMap InsertStatement.text) = 0 := rfl
      rw [none, Int.add_zero]
      rfl
  | cons written others ih =>
      have ih := @ih (line + feeds written.text) fun other mem =>
        known other (List.mem_cons_of_mem written mem)
      rw [List.flatMap_cons, List.append_assoc,
        written.reportFrom_text (known written List.mem_cons_self), ih, Report.behind_behind,
        feeds_append, ← Int.add_assoc, Int.add_right_comm line _ 1]
      rfl

/-- Behind the last statement nothing is told. -/
theorem reportFrom_closing {gap : Text} (spaced : gap.IsGap) (layout : Layout) :
    reportFrom registry delimiter source { line, pending := gap } layout.text =
      ⟨[], [], none⟩ := by
  induction layout generalizing line gap with
  | nil => rfl
  | cons piece layout ih =>
      rw [Layout.text_cons]
      rcases piece.gap_or_lineBreak with ⟨c, same, blank⟩ | ends
      · have plain := isPlain_blank blank
        have spaced' := spaced.append (isGap_blank blank)
        rw [same]
        by_cases empty : Layout.text layout = []
        · have text : dropLineComment (gap ++ dropLineEnd (firstLine [c])) ++ ['\n'] =
              gap ++ [c] ++ ['\n'] := by
            have line_eq : firstLine [c] = [c] := firstLine_append plain.notMem []
            have whole := dropLineEnd_append plain.unended []
            rw [List.append_nil, dropLineEnd_nil, List.append_nil] at whole
            rw [line_eq, whole, spaced'.closed.dropLineComment_eq]
          have pause : Cursor.step registry delimiter { line := line + 1 }
              (gap ++ [c] ++ ['\n']) = .ok _ :=
            step_of_allBlank rfl (spaced'.append (rfl : IsGap ['\n'])).allBlank
          rw [empty, List.append_nil, reportFrom_eq rfl (by simp), text,
            textAccount_of_needsInput pause rfl]
          have last : otherLines [c] = [] := otherLines_append plain.notMem []
          rw [last]
          rfl
        · rw [reportFrom_append rfl plain.notMem plain.unended empty]
          exact ih spaced'
      · have pause : Cursor.step registry delimiter { line := line + 1 } (gap ++ ['\n']) = .ok _ :=
          step_of_allBlank rfl (spaced.append (rfl : IsGap ['\n'])).allBlank
        rw [reportFrom_await rfl (ends.firstLine_eq _) (ends.otherLines_eq _) ends.filled
          (ends.hidden spaced.closed) pause]
        exact ih .nil

/-- The report on a script of INSERT statements lists exactly the values at the positions of listed
columns, each at the line of the comma or the parenthesis that ends it. -/
theorem scanText_insertScript (script : InsertScript)
    (known : ∀ written ∈ script.statements,
      registry.tables.contains written.table.text.lower = true) :
    scanText registry delimiter source script.text =
      ⟨script.records registry source, [], none⟩ := by
  rw [scanText_eq_reportFrom, InsertScript.text]
  refine (reportFrom_statements known script.closing.text).trans ?_
  rw [reportFrom_closing .nil, Report.behind, List.append_nil]
  rfl

/-- A comment behind the table, a literal over two lines and a value behind the last column. -/
theorem scanText_insertScript_layout :
    let registry := Registry.ofTables [("menu_node".toList, ["label".toList])]
    let statement : InsertStatement :=
      { beforeInsert := [], beforeInto := [.space], beforeTable := [.space]
        table := ⟨"Menu_Node".toList, rfl, rfl⟩
        beforeColumns := [.comment " it's".toList (by decide)]
        column := ⟨[], ⟨"id".toList, rfl, rfl⟩, []⟩
        columns := [⟨[.space], ⟨"Label".toList, rfl, rfl⟩, []⟩]
        beforeValues := [.newline]
        row :=
          { before := [], first := ⟨[], .bare "1".toList (by decide) rfl, []⟩
            others := [⟨[], .literal "it's --\n(a)".toList (by decide +kernel), [.newline]⟩]
            after := [] }
        rows :=
          [{ before := [.tab], first := ⟨[], .bare "2".toList (by decide) rfl, []⟩
             others := [⟨[.space], .bare "b.c".toList (by decide) rfl, []⟩,
               ⟨[], .literal "x".toList (by decide +kernel), []⟩]
             after := [] }]
        intoApart := by simp
        tableApart := by simp }
    let script : InsertScript := ⟨[statement], [.newline]⟩
    (∀ written ∈ script.statements, registry.tables.contains written.table.text.lower = true) ∧
      script.text =
        "INSERT INTO Menu_Node-- it's\n(id, Label)\nVALUES(1,'it''s --\n(a)'\n),".toList ++
          "\t(2, b.c,'x');\n".toList ∧
      scanText registry ['\t'] "f".toList script.text =
        ⟨[("it's --\n(a)".toList, ⟨"f".toList, 5⟩), ("b.c".toList, ⟨"f".toList, 5⟩)], [],
          none⟩ := by
  intro registry statement script
  have known : ∀ written ∈ script.statements,
      registry.tables.contains written.table.text.lower = true := by
    intro written mem
    rw [List.mem_singleton.1 mem]
    decide +kernel
  have written : script.text =
      "INSERT INTO Menu_Node-- it's\n(id, Label)\nVALUES(1,'it''s --\n(a)'\n),".toList ++
        "\t(2, b.c,'x');\n".toList := by
    decide +kernel
  have records : script.records registry "f".toList =
      [("it's --\n(a)".toList, ⟨"f".toList, 5⟩), ("b.c".toList, ⟨"f".toList, 5⟩)] := by
    decide +kernel
  have report : scanText registry ['\t'] "f".toList script.text = _ :=
    scanText_insertScript script known
  rw [records] at report
  exact ⟨known, written, report⟩

end SeedCatalog.Scan
