import SeedCatalog.Proofs.Text.Blank
import SeedCatalog.Scan.Step

/-!
# What a step can do

The rules of the scanner as a relation: in which phase a rule applies, what it
reads, and what it makes of the cursor.  Every step that can be taken follows
one of the rules, so that whatever all rules keep, a step keeps.
-/

namespace SeedCatalog.Scan

open SeedCatalog.Sql

variable {registry : Registry} {delimiter : Text} {cursor : Cursor} {text : Text}

/-- The phases that wait for the next line with a text, given the statement. -/
inductive Waits (statement : Statement) : Phase → Prop
  | columns (isOpen : statement.columnsOpen = true) : Waits statement .columnList
  | copyColumns : Waits statement .copyColumnList
  | fromStdin : Waits statement .beforeFromStdin
  | value : Waits statement .tuple

/-- The phase behind a column list, given the phase inside it. -/
inductive Closes : Phase → Phase → Prop
  | columns : Closes .columnList .beforeValues
  | copyColumns : Closes .copyColumnList .beforeFromStdin

theorem Closes.waits {statement : Statement} {phase closed : Phase} (closes : Closes phase closed)
    (isOpen : statement.columnsOpen = true) : Waits statement phase := by
  cases closes with
  | columns => exact .columns isOpen
  | copyColumns => exact .copyColumns

theorem Closes.ne_comment {phase closed : Phase} (closes : Closes phase closed) :
    phase ≠ .comment := by
  cases closes <;> simp

theorem Closes.ne_tuple {phase closed : Phase} (closes : Closes phase closed) :
    phase ≠ .tuple := by
  cases closes <;> simp

/-- The rules of a step on a text. -/
inductive Move (registry : Registry) (delimiter : Text) (cursor : Cursor) (text : Text) :
    Transition → Prop
  /-- A statement goes wrong, or its rows end. -/
  | giveUp (problem : Option Problem) (outside : cursor.phase ≠ .comment) :
      Move registry delimiter cursor text (cursor.giveUp problem)
  /-- A blank line holds nothing worth keeping. -/
  | pause (outside : cursor.phase ≠ .comment) (noRows : cursor.phase ≠ .dataBlock)
      (blank : text.allBlank = true) :
      Move registry delimiter cursor text (cursor.await [])
  /-- A comment goes on behind the end of the line. -/
  | stay (inside : cursor.phase = .comment) (unclosed : afterComment? text = none) :
      Move registry delimiter cursor text (cursor.await [])
  | openComment {rest : Text} (outside : cursor.phase ≠ .comment)
      (noRows : cursor.phase ≠ .dataBlock) (opening : commentOpening? text = some rest) :
      Move registry delimiter cursor text
        ({ cursor with resume := some cursor.phase }.advance .comment rest)
  | closeComment {rest : Text} (inside : cursor.phase = .comment)
      (closing : afterComment? text = some rest) :
      Move registry delimiter cursor text
        ({ cursor with resume := none }.advance (cursor.resume.getD .idle) rest)
  | insert {rest : Text} (phase : cursor.phase = .idle) (read : insert? text = some rest) :
      Move registry delimiter cursor text (cursor.advance .afterInsert rest)
  | copy {rest : Text} (phase : cursor.phase = .idle) (read : copy? text = some rest) :
      Move registry delimiter cursor text (cursor.advance .afterCopy rest)
  | skip {rest : Text} (phase : cursor.phase = .idle) (read : skipToken? text = some rest) :
      Move registry delimiter cursor text (cursor.advance .idle rest)
  | into {rest : Text} (phase : cursor.phase = .afterInsert) (read : into? text = some rest) :
      Move registry delimiter cursor text (cursor.advance .afterInto rest)
  | insertTable {name rest table : Text} (phase : cursor.phase = .afterInto)
      (read : tableName? text = some (name, rest))
      (resolved : registry.resolve name = some table) :
      Move registry delimiter cursor text (cursor.advanceWith .columnList { table } rest)
  | insertUnknown {name rest : Text} (phase : cursor.phase = .afterInto)
      (read : tableName? text = some (name, rest)) (unknown : registry.resolve name = none) :
      Move registry delimiter cursor text (cursor.leave rest)
  | copyTable {name rest table : Text} (phase : cursor.phase = .afterCopy)
      (read : tableName? text = some (name, rest))
      (resolved : registry.resolve name = some table) :
      Move registry delimiter cursor text (cursor.advanceWith .copyColumnList { table } rest)
  | copyUnknown {name rest : Text} (phase : cursor.phase = .afterCopy)
      (read : tableName? text = some (name, rest)) (unknown : registry.resolve name = none) :
      Move registry delimiter cursor text
        (cursor.advanceWith .copyColumnList
          { table := Identifier.normalize name, registered := false } rest)
  | openColumns {statement : Statement} {closed : Phase} {rest : Text}
      (phase : Closes cursor.phase closed) (reading : cursor.statement = some statement)
      (notOpen : statement.columnsOpen = false) (read : mark? '(' text = some rest) :
      Move registry delimiter cursor text
        (cursor.advanceWith cursor.phase { statement with columnsOpen := true } rest)
  | column {statement : Statement} {closed : Phase} {column : ColumnToken}
      (phase : Closes cursor.phase closed) (reading : cursor.statement = some statement)
      (isOpen : statement.columnsOpen = true) (read : column? text = some column) :
      Move registry delimiter cursor text
        (cursor.advanceWith (if column.isLast then closed else cursor.phase)
          { statement with
            columns := statement.columns.insert (statement.ordinal + 1) column.name
            ordinal := statement.ordinal + 1 }
          column.rest)
  /-- The next line may complete a column, FROM STDIN or a value. -/
  | wait {statement : Statement} (reading : cursor.statement = some statement)
      (phase : Waits statement cursor.phase) (filled : text.allBlank = false) :
      Move registry delimiter cursor text (cursor.await text)
  | values {statement : Statement} {rest : Text} (phase : cursor.phase = .beforeValues)
      (reading : cursor.statement = some statement) (read : values? text = some rest) :
      Move registry delimiter cursor text (cursor.advance .beforeTuple rest)
  | openTuple {statement : Statement} {rest : Text} (phase : cursor.phase = .beforeTuple)
      (reading : cursor.statement = some statement) (read : mark? '(' text = some rest) :
      Move registry delimiter cursor text
        (cursor.advanceWith .tuple { statement with ordinal := 0 } rest)
  | value {statement : Statement} {token : ValueToken} (phase : cursor.phase = .tuple)
      (reading : cursor.statement = some statement) (read : value? text = some token) :
      Move registry delimiter cursor text
        { cursor.advanceWith (if token.isLast then .afterTuple else .tuple)
            { statement with ordinal := statement.ordinal + 1 } token.rest with
          found :=
            if statement.isTranslatable registry (statement.ordinal + 1) then [token.value.text]
            else [] }
  | nextTuple {rest : Text} (phase : cursor.phase = .afterTuple)
      (read : mark? ',' text = some rest) :
      Move registry delimiter cursor text (cursor.advance .beforeTuple rest)
  | endTuples (phase : cursor.phase = .afterTuple) (noComma : mark? ',' text = none) :
      Move registry delimiter cursor text (cursor.leave ((mark? ';' text).getD text))
  | fromStdin {statement : Statement} {rest : Text}
      (phase : cursor.phase = .beforeFromStdin ∨
        cursor.phase = .copyColumnList ∧ statement.columnsOpen = false)
      (reading : cursor.statement = some statement) (read : fromStdin? text = some rest) :
      Move registry delimiter cursor text
        (cursor.advanceWith .copyOptions { statement with delimiter } rest)
  | delimiterOption {statement : Statement} {option : Text × Text}
      (phase : cursor.phase = .copyOptions) (reading : cursor.statement = some statement)
      (read : delimiterOption? text = some option) :
      Move registry delimiter cursor text
        (cursor.advanceWith .afterDelimiter { statement with delimiter := option.1 } option.2)
  | beginRows {statement : Statement}
      (phase : cursor.phase = .copyOptions ∨ cursor.phase = .afterDelimiter)
      (reading : cursor.statement = some statement) (ended : statementIsOver text = true) :
      Move registry delimiter cursor text
        ({ cursor with
          phase := .dataBlock, statement := some { statement with ordinal := 1 } }.await [])
  | emptyRow {statement : Statement} (phase : cursor.phase = .dataBlock)
      (reading : cursor.statement = some statement) (empty : text = []) :
      Move registry delimiter cursor text
        ({ cursor with statement := some { statement with ordinal := 1 } }.await [])
  | row {statement : Statement} (phase : cursor.phase = .dataBlock)
      (reading : cursor.statement = some statement) (going : text ≠ ['\\', '.'])
      (filled : text ≠ []) (cut : statement.delimiter ≠ []) :
      Move registry delimiter cursor text
        { { cursor with statement := some { statement with ordinal := 1 } }.await [] with
          found := Cursor.translatableFields registry statement 1
            (Text.splitOn statement.delimiter text) }

namespace Move

/-! ## Every step follows a rule -/

/-- Between statements something is skipped unless the text is blank. -/
theorem allBlank_of_skipToken? (read : skipToken? text = none) : text.allBlank = true := by
  unfold skipToken? at read
  split at read
  · exact Text.skipBlanks_eq_nil_iff.1 ‹_›
  · split at read <;> contradiction

theorem of_stepIdle (phase : cursor.phase = .idle) (filled : text.allBlank = false) :
    Move registry delimiter cursor text (cursor.stepIdle text) := by
  unfold Cursor.stepIdle
  split
  · exact .insert phase ‹_›
  · split
    · exact .copy phase ‹_›
    · split
      · rw [phase]
        exact .skip phase ‹_›
      · rename_i unread
        exact absurd (allBlank_of_skipToken? unread) (by simp [filled])

theorem of_stepAfterInsert (phase : cursor.phase = .afterInsert) :
    Move registry delimiter cursor text (cursor.stepAfterInsert text) := by
  unfold Cursor.stepAfterInsert
  split
  · exact .into phase ‹_›
  · exact .giveUp _ (by simp [phase])

theorem of_stepAfterInto (phase : cursor.phase = .afterInto) :
    Move registry delimiter cursor text (cursor.stepAfterInto registry text) := by
  unfold Cursor.stepAfterInto
  split
  · exact .giveUp _ (by simp [phase])
  · split
    · exact .insertTable phase ‹_› ‹_›
    · exact .insertUnknown phase ‹_› ‹_›

theorem of_stepAfterCopy (phase : cursor.phase = .afterCopy) :
    Move registry delimiter cursor text (cursor.stepAfterCopy registry text) := by
  unfold Cursor.stepAfterCopy
  split
  · exact .giveUp _ (by simp [phase])
  · split
    · exact .copyTable phase ‹_› ‹_›
    · exact .copyUnknown phase ‹_› ‹_›

theorem of_stepAfterTuple (phase : cursor.phase = .afterTuple) :
    Move registry delimiter cursor text (cursor.stepAfterTuple text) := by
  unfold Cursor.stepAfterTuple
  split
  · exact .nextTuple phase ‹_›
  · exact .endTuples phase ‹_›

section

variable {statement : Statement} (reading : cursor.statement = some statement)
  (filled : text.allBlank = false)
include reading

include filled in
theorem of_stepColumn {closed : Phase} (phase : Closes cursor.phase closed)
    (isOpen : statement.columnsOpen = true) :
    Move registry delimiter cursor text (Cursor.stepColumn closed cursor statement text) := by
  unfold Cursor.stepColumn
  split
  · exact .column phase reading isOpen ‹_›
  · split
    · exact .wait reading (phase.waits isOpen) filled
    · exact .giveUp _ phase.ne_comment

include filled in
theorem of_stepColumnList (phase : cursor.phase = .columnList) :
    Move registry delimiter cursor text (cursor.stepColumnList statement text) := by
  have closes : Closes cursor.phase .beforeValues := phase ▸ .columns
  unfold Cursor.stepColumnList
  split
  · exact of_stepColumn reading filled closes ‹_›
  · rename_i notOpen
    split
    · exact .openColumns closes reading (by simpa using notOpen) ‹_›
    · exact .giveUp _ (by simp [phase])

include filled in
theorem of_stepBeforeFromStdin
    (phase : cursor.phase = .beforeFromStdin ∨
      cursor.phase = .copyColumnList ∧ statement.columnsOpen = false) :
    Move registry delimiter cursor text
      (cursor.stepBeforeFromStdin delimiter statement text) := by
  have waits : Waits statement cursor.phase := by
    rcases phase with phase | ⟨phase, _⟩
    · exact phase ▸ .fromStdin
    · exact phase ▸ .copyColumns
  unfold Cursor.stepBeforeFromStdin
  split
  · exact .fromStdin phase reading ‹_›
  · split
    · exact .wait reading waits filled
    · exact .giveUp _ (by rcases phase with phase | ⟨phase, _⟩ <;> simp [phase])

include filled in
theorem of_stepCopyColumnList (phase : cursor.phase = .copyColumnList) :
    Move registry delimiter cursor text
      (cursor.stepCopyColumnList delimiter statement text) := by
  have closes : Closes cursor.phase .beforeFromStdin := phase ▸ .copyColumns
  unfold Cursor.stepCopyColumnList
  split
  · exact of_stepColumn reading filled closes ‹_›
  · rename_i notOpen
    have notOpen : statement.columnsOpen = false := by simpa using notOpen
    split
    · exact .openColumns closes reading notOpen ‹_›
    · exact of_stepBeforeFromStdin reading filled (.inr ⟨phase, notOpen⟩)

theorem of_stepBeforeValues (phase : cursor.phase = .beforeValues) :
    Move registry delimiter cursor text (cursor.stepBeforeValues statement text) := by
  unfold Cursor.stepBeforeValues
  split
  · exact .values phase reading ‹_›
  · exact .giveUp _ (by simp [phase])

theorem of_stepBeforeTuple (phase : cursor.phase = .beforeTuple) :
    Move registry delimiter cursor text (cursor.stepBeforeTuple statement text) := by
  unfold Cursor.stepBeforeTuple
  split
  · exact .openTuple phase reading ‹_›
  · exact .giveUp _ (by simp [phase])

include filled in
theorem of_stepTuple (phase : cursor.phase = .tuple) :
    Move registry delimiter cursor text (cursor.stepTuple registry statement text) := by
  unfold Cursor.stepTuple
  split
  · rw [phase]
    exact .value phase reading ‹_›
  · split
    · exact .wait reading (phase ▸ .value) filled
    · exact .giveUp _ (by simp [phase])

theorem of_stepCopyOptions
    (phase : cursor.phase = .copyOptions ∨ cursor.phase = .afterDelimiter) :
    Move registry delimiter cursor text (cursor.stepCopyOptions statement text) := by
  unfold Cursor.stepCopyOptions
  split
  · rename_i option
    split at option
    · exact .delimiterOption ‹_› reading option
    · contradiction
  · split
    · exact .beginRows phase reading ‹_›
    · exact .giveUp _ (by rcases phase with phase | phase <;> simp [phase])

/-- A line among the rows either follows a rule or cannot be cut. -/
theorem of_stepDataBlock {transition : Transition} (phase : cursor.phase = .dataBlock)
    (step : cursor.stepDataBlock registry statement text = .ok transition) :
    Move registry delimiter cursor text transition := by
  unfold Cursor.stepDataBlock at step
  split at step
  · cases step
    exact .giveUp _ (by simp [phase])
  · simp only at step
    split at step
    · cases step
      exact .emptyRow phase reading ‹_›
    · split at step
      · contradiction
      · cases step
        exact .row phase reading ‹_› ‹_› ‹_›

end

theorem of_stepComment (phase : cursor.phase = .comment) :
    Move registry delimiter cursor text (cursor.stepComment text) := by
  unfold Cursor.stepComment
  split
  · exact .closeComment phase ‹_›
  · exact .stay phase ‹_›

/-- A token follows a rule.  Only the options of COPY are read at a blank text. -/
theorem of_stepToken (outside : cursor.phase ≠ .comment)
    (filled : text.allBlank = false ∨ cursor.readsLineEnd = true) :
    Move registry delimiter cursor text (cursor.stepToken registry delimiter text) := by
  have filledUnless (silent : cursor.readsLineEnd = false) : text.allBlank = false :=
    filled.resolve_right (by simp [silent])
  unfold Cursor.stepToken
  split
  case h_1 phase =>
    exact of_stepIdle phase (filledUnless (by simp [Cursor.readsLineEnd, phase]))
  case h_2 phase => exact of_stepAfterInsert phase
  case h_3 phase => exact of_stepAfterInto phase
  case h_4 phase => exact of_stepAfterCopy phase
  case h_5 phase => exact of_stepAfterTuple phase
  case h_6 phase reading =>
    exact of_stepColumnList reading (filledUnless (by simp [Cursor.readsLineEnd, phase])) phase
  case h_7 phase reading => exact of_stepBeforeValues reading phase
  case h_8 phase reading => exact of_stepBeforeTuple reading phase
  case h_9 phase reading =>
    exact of_stepTuple reading (filledUnless (by simp [Cursor.readsLineEnd, phase])) phase
  case h_10 phase reading =>
    exact of_stepCopyColumnList reading
      (filledUnless (by simp [Cursor.readsLineEnd, phase])) phase
  case h_11 phase reading =>
    exact of_stepBeforeFromStdin reading
      (filledUnless (by simp [Cursor.readsLineEnd, phase])) (.inl phase)
  case h_12 phase reading => exact of_stepCopyOptions reading (.inl phase)
  case h_13 phase reading => exact of_stepCopyOptions reading (.inr phase)
  case h_14 => exact .giveUp _ outside

/-- A step that can be taken follows a rule. -/
theorem of_step {transition : Transition}
    (step : cursor.step registry delimiter text = .ok transition) :
    Move registry delimiter cursor text transition := by
  unfold Cursor.step at step
  split at step
  · rename_i phase
    split at step
    · exact of_stepDataBlock ‹_› phase step
    · cases step
      exact .giveUp _ (by simp [phase])
  · rename_i noRows
    split at step
    · cases step
      exact of_stepComment ‹_›
    · rename_i outside
      split at step
      · split at step
        · cases step
          exact of_stepToken outside (.inr ‹_›)
        · cases step
          exact .pause outside noRows ‹_›
      · rename_i filled
        split at step
        · cases step
          exact .openComment outside noRows ‹_›
        · cases step
          exact of_stepToken outside (.inl (by simpa using filled))

end Move

/-- A step cannot be taken only on a row that is to be cut at nothing. -/
theorem Cursor.delimiter_eq_nil_of_step_eq_error {error : StepError}
    (step : cursor.step registry delimiter text = .error error) :
    ∃ statement, cursor.statement = some statement ∧ statement.delimiter = [] := by
  unfold Cursor.step at step
  split at step
  · split at step
    · rename_i statement reading
      refine ⟨statement, reading, ?_⟩
      unfold stepDataBlock at step
      split at step
      · contradiction
      · simp only at step
        split at step
        · contradiction
        · split at step
          · assumption
          · contradiction
    · contradiction
  · split at step
    · contradiction
    · split at step
      · contradiction
      · split at step <;> contradiction

end SeedCatalog.Scan
