import SeedCatalog.Registry
import SeedCatalog.Scan.Cursor
import SeedCatalog.Sql.Value

/-!
# One step of the scanner

A step reads one token, or finishes the line.  A statement on a table that the registry does not
have is skipped, except that a COPY is followed to the end of its rows so that they are not read
as statements.  A statement that goes wrong is given up with a problem, together with the rest of
its line.

A step that does not finish the line leaves less to do.
-/

namespace SeedCatalog.Scan

open SeedCatalog.Sql

/-- Why a step cannot be taken at all. -/
inductive StepError where
  /-- A row is to be cut at a separator that has no characters. -/
  | emptyDelimiter
  deriving DecidableEq, Repr

/-- The error in words. -/
def StepError.message : StepError → Text
  | .emptyDelimiter => "empty separator".toList

/-- Whether the registry asks for the value at a position of the statement. -/
def Statement.isTranslatable (registry : Registry) (statement : Statement) (ordinal : Int) : Bool :=
  (statement.columns.get? ordinal).any (registry.isTranslatable statement.table)

namespace Cursor

/-- Go on behind a token, in a phase. -/
def advance (cursor : Cursor) (phase : Phase) (rest : Text) : Transition where
  cursor := { cursor with phase }
  remainder := rest

/-- Go on behind a token, in a phase and with a statement. -/
def advanceWith (cursor : Cursor) (phase : Phase) (statement : Statement) (rest : Text) :
    Transition where
  cursor := { cursor with phase, statement := some statement }
  remainder := rest

/-- Go on between statements. -/
def leave (cursor : Cursor) (rest : Text) : Transition where
  cursor := { cursor with phase := .idle, statement := none }
  remainder := rest

/-- Finish the line, with a text that waits for the next one. -/
def await (cursor : Cursor) (waiting : Text) : Transition where
  cursor := cursor
  remainder := waiting
  needsInput := true

/-- Give the statement up, and the rest of the line with it.  Nobody is told of a statement whose
table is not registered. -/
def giveUp (cursor : Cursor) (problem : Option Problem) : Transition where
  cursor := { cursor with phase := .idle, pending := [], statement := none, resume := none }
  problem := if cursor.statement.any fun statement => !statement.registered then none else problem
  needsInput := true

/-! ## The phases -/

/-- Between statements. -/
def stepIdle (cursor : Cursor) (text : Text) : Transition :=
  match insert? text with
  | some rest => cursor.advance .afterInsert rest
  | none =>
      match copy? text with
      | some rest => cursor.advance .afterCopy rest
      | none =>
          match skipToken? text with
          | some rest => cursor.advance cursor.phase rest
          | none => cursor.await []

/-- Behind INSERT. -/
def stepAfterInsert (cursor : Cursor) (text : Text) : Transition :=
  match into? text with
  | some rest => cursor.advance .afterInto rest
  | none => cursor.giveUp (some .intoMissing)

/-- Behind INSERT INTO: the table decides whether the statement is read. -/
def stepAfterInto (registry : Registry) (cursor : Cursor) (text : Text) : Transition :=
  match tableName? text with
  | none => cursor.giveUp (some .tableMissingAfterInsert)
  | some (name, rest) =>
      match registry.resolve name with
      | some table => cursor.advanceWith .columnList { table } rest
      | none => cursor.leave rest

/-- Behind COPY: a table that is not registered is followed without recording anything. -/
def stepAfterCopy (registry : Registry) (cursor : Cursor) (text : Text) : Transition :=
  match tableName? text with
  | none => cursor.giveUp (some .tableMissingAfterCopy)
  | some (name, rest) =>
      match registry.resolve name with
      | some table => cursor.advanceWith .copyColumnList { table } rest
      | none =>
          cursor.advanceWith .copyColumnList
            { table := Identifier.normalize name, registered := false } rest

/-- Inside a column list: one more column, and then the phase `closed` if it is the last. -/
def stepColumn (closed : Phase) (cursor : Cursor) (statement : Statement) (text : Text) :
    Transition :=
  match column? text with
  | some column =>
      let ordinal := statement.ordinal + 1
      cursor.advanceWith (if column.isLast then closed else cursor.phase)
        { statement with columns := statement.columns.insert ordinal column.name, ordinal }
        column.rest
  | none =>
      if columnMayFollow text then cursor.await text
      else cursor.giveUp (some (.malformedColumns statement.table))

/-- Behind the table of an INSERT. -/
def stepColumnList (cursor : Cursor) (statement : Statement) (text : Text) : Transition :=
  if statement.columnsOpen then stepColumn .beforeValues cursor statement text
  else
    match mark? '(' text with
    | some rest => cursor.advanceWith cursor.phase { statement with columnsOpen := true } rest
    | none => cursor.giveUp (some (.columnsMissing statement.table))

/-- Before FROM STDIN; the rows are cut at `delimiter` unless an option says otherwise. -/
def stepBeforeFromStdin (delimiter : Text) (cursor : Cursor) (statement : Statement)
    (text : Text) : Transition :=
  match fromStdin? text with
  | some rest => cursor.advanceWith .copyOptions { statement with delimiter } rest
  | none =>
      if fromStdinMayFollow text then cursor.await text
      else cursor.giveUp (some (.fromStdinMissing statement.table))

/-- Behind the table of a COPY, which need not have a column list. -/
def stepCopyColumnList (delimiter : Text) (cursor : Cursor) (statement : Statement)
    (text : Text) : Transition :=
  if statement.columnsOpen then stepColumn .beforeFromStdin cursor statement text
  else
    match mark? '(' text with
    | some rest => cursor.advanceWith cursor.phase { statement with columnsOpen := true } rest
    | none => stepBeforeFromStdin delimiter cursor statement text

/-- Behind the column list of an INSERT. -/
def stepBeforeValues (cursor : Cursor) (statement : Statement) (text : Text) : Transition :=
  match values? text with
  | some rest => cursor.advance .beforeTuple rest
  | none => cursor.giveUp (some (.valuesMissing statement.table))

/-- Before a tuple. -/
def stepBeforeTuple (cursor : Cursor) (statement : Statement) (text : Text) : Transition :=
  match mark? '(' text with
  | some rest => cursor.advanceWith .tuple { statement with ordinal := 0 } rest
  | none => cursor.giveUp (some .tupleMissing)

/-- Inside a tuple: one more value, which is found if its column is translatable. -/
def stepTuple (registry : Registry) (cursor : Cursor) (statement : Statement) (text : Text) :
    Transition :=
  match value? text with
  | some token =>
      let ordinal := statement.ordinal + 1
      { cursor.advanceWith (if token.isLast then .afterTuple else cursor.phase)
          { statement with ordinal } token.rest with
        found := if statement.isTranslatable registry ordinal then [token.value.text] else [] }
  | none =>
      if valueMayFollow text then cursor.await text
      else cursor.giveUp (some (.unsupportedValue statement.table))

/-- Behind a tuple.  What is neither a comma nor a semicolon is left to be skipped between
statements. -/
def stepAfterTuple (cursor : Cursor) (text : Text) : Transition :=
  match mark? ',' text with
  | some rest => cursor.advance .beforeTuple rest
  | none => cursor.leave ((mark? ';' text).getD text)

/-- Behind FROM STDIN or behind the DELIMITER option; the rows begin on the next line. -/
def stepCopyOptions (cursor : Cursor) (statement : Statement) (text : Text) : Transition :=
  match (if cursor.phase = .copyOptions then delimiterOption? text else none) with
  | some (delimiter, rest) => cursor.advanceWith .afterDelimiter { statement with delimiter } rest
  | none =>
      if statementIsOver text then
        { cursor with phase := .dataBlock, statement := some { statement with ordinal := 1 } }.await
          []
      else cursor.giveUp (some (.unsupportedOption statement.table))

/-- The fields of a row that the registry asks for, the first of them at a position. -/
def translatableFields (registry : Registry) (statement : Statement) (ordinal : Int) :
    List Text → List Text
  | [] => []
  | field :: fields =>
      let found := translatableFields registry statement (ordinal + 1) fields
      if statement.isTranslatable registry ordinal then field :: found else found

/-- One line among the rows of a COPY; a backslash and a dot alone end the rows. -/
def stepDataBlock (registry : Registry) (cursor : Cursor) (statement : Statement) (line : Text) :
    Except StepError Transition :=
  if line = ['\\', '.'] then .ok (cursor.giveUp none)
  else
    let next := { cursor with statement := some { statement with ordinal := 1 } }
    if line = [] then .ok (next.await [])
    else if statement.delimiter = [] then .error .emptyDelimiter
    else
      .ok { next.await [] with
        found := translatableFields registry statement 1
          (Text.splitOn statement.delimiter line) }

/-- Inside a block comment. -/
def stepComment (cursor : Cursor) (text : Text) : Transition :=
  match afterComment? text with
  | some rest => { cursor with resume := none }.advance (cursor.resume.getD .idle) rest
  | none => cursor.await []

/-- A token of the phases that read tokens, in front of which no block comment opens. -/
def stepToken (registry : Registry) (delimiter : Text) (cursor : Cursor) (text : Text) :
    Transition :=
  match cursor.phase, cursor.statement with
  | .idle, _ => cursor.stepIdle text
  | .afterInsert, _ => cursor.stepAfterInsert text
  | .afterInto, _ => cursor.stepAfterInto registry text
  | .afterCopy, _ => cursor.stepAfterCopy registry text
  | .afterTuple, _ => cursor.stepAfterTuple text
  | .columnList, some statement => cursor.stepColumnList statement text
  | .beforeValues, some statement => cursor.stepBeforeValues statement text
  | .beforeTuple, some statement => cursor.stepBeforeTuple statement text
  | .tuple, some statement => cursor.stepTuple registry statement text
  | .copyColumnList, some statement => cursor.stepCopyColumnList delimiter statement text
  | .beforeFromStdin, some statement => cursor.stepBeforeFromStdin delimiter statement text
  | .copyOptions, some statement => cursor.stepCopyOptions statement text
  | .afterDelimiter, some statement => cursor.stepCopyOptions statement text
  | _, _ => cursor.giveUp none

/-- The phases in which the end of a line means something. -/
def readsLineEnd (cursor : Cursor) : Bool :=
  cursor.phase = .copyOptions || cursor.phase = .afterDelimiter

/-- Take one step.  A phase that needs a statement and has none is given up. -/
def step (registry : Registry) (delimiter : Text) (cursor : Cursor) (text : Text) :
    Except StepError Transition :=
  if cursor.phase = .dataBlock then
    match cursor.statement with
    | some statement => cursor.stepDataBlock registry statement text
    | none => .ok (cursor.giveUp none)
  else if cursor.phase = .comment then .ok (cursor.stepComment text)
  else if text.allBlank then
    .ok (if cursor.readsLineEnd then cursor.stepToken registry delimiter text else cursor.await [])
  else
    match commentOpening? text with
    | some rest => .ok ({ cursor with resume := some cursor.phase }.advance .comment rest)
    | none => .ok (cursor.stepToken registry delimiter text)

/-! ## A step leaves less to do -/

/-- What is left to do: two for each character, and one more behind a tuple, where a step may leave
the text as it is. -/
def toDo (cursor : Cursor) (text : Text) : Nat :=
  2 * text.length + if cursor.phase = .afterTuple then 1 else 0

end Cursor

/-- Whether a transition finishes the line or leaves a shorter text than `text`. -/
def Transition.Shortens (text : Text) (transition : Transition) : Prop :=
  transition.needsInput = true ∨ transition.remainder.length < text.length

namespace Cursor

theorem shortens_advance {text rest : Text} (cursor : Cursor) (phase : Phase)
    (h : rest.length < text.length) : (cursor.advance phase rest).Shortens text :=
  .inr h

theorem shortens_advanceWith {text rest : Text} (cursor : Cursor) (phase : Phase)
    (statement : Statement) (h : rest.length < text.length) :
    (cursor.advanceWith phase statement rest).Shortens text :=
  .inr h

theorem shortens_leave {text rest : Text} (cursor : Cursor) (h : rest.length < text.length) :
    (cursor.leave rest).Shortens text :=
  .inr h

theorem shortens_await (text waiting : Text) (cursor : Cursor) :
    (cursor.await waiting).Shortens text :=
  .inl rfl

theorem shortens_giveUp (text : Text) (cursor : Cursor) (problem : Option Problem) :
    (cursor.giveUp problem).Shortens text :=
  .inl rfl

theorem shortens_stepIdle (cursor : Cursor) (text : Text) :
    (cursor.stepIdle text).Shortens text := by
  unfold stepIdle
  split
  · rename_i h
    exact shortens_advance _ _ (length_of_insert? h)
  · split
    · rename_i h
      exact shortens_advance _ _ (length_of_copy? h)
    · split
      · rename_i h
        exact shortens_advance _ _ (length_of_skipToken? h)
      · exact shortens_await _ _ _

theorem shortens_stepAfterInsert (cursor : Cursor) (text : Text) :
    (cursor.stepAfterInsert text).Shortens text := by
  unfold stepAfterInsert
  split
  · rename_i h
    exact shortens_advance _ _ (length_of_into? h)
  · exact shortens_giveUp _ _ _

theorem shortens_stepAfterInto (registry : Registry) (cursor : Cursor) (text : Text) :
    (cursor.stepAfterInto registry text).Shortens text := by
  unfold stepAfterInto
  split
  · exact shortens_giveUp _ _ _
  · rename_i h
    split
    · exact shortens_advanceWith _ _ _ (length_of_tableName? h)
    · exact shortens_leave _ (length_of_tableName? h)

theorem shortens_stepAfterCopy (registry : Registry) (cursor : Cursor) (text : Text) :
    (cursor.stepAfterCopy registry text).Shortens text := by
  unfold stepAfterCopy
  split
  · exact shortens_giveUp _ _ _
  · rename_i h
    split <;> exact shortens_advanceWith _ _ _ (length_of_tableName? h)

theorem shortens_stepColumn (closed : Phase) (cursor : Cursor) (statement : Statement)
    (text : Text) : (stepColumn closed cursor statement text).Shortens text := by
  unfold stepColumn
  split
  · rename_i h
    exact shortens_advanceWith _ _ _ (length_of_column? h)
  · split
    · exact shortens_await _ _ _
    · exact shortens_giveUp _ _ _

theorem shortens_stepColumnList (cursor : Cursor) (statement : Statement) (text : Text) :
    (cursor.stepColumnList statement text).Shortens text := by
  unfold stepColumnList
  split
  · exact shortens_stepColumn _ _ _ _
  · split
    · rename_i h
      exact shortens_advanceWith _ _ _ (length_of_mark? h)
    · exact shortens_giveUp _ _ _

theorem shortens_stepBeforeFromStdin (delimiter : Text) (cursor : Cursor) (statement : Statement)
    (text : Text) : (cursor.stepBeforeFromStdin delimiter statement text).Shortens text := by
  unfold stepBeforeFromStdin
  split
  · rename_i h
    exact shortens_advanceWith _ _ _ (length_of_fromStdin? h)
  · split
    · exact shortens_await _ _ _
    · exact shortens_giveUp _ _ _

theorem shortens_stepCopyColumnList (delimiter : Text) (cursor : Cursor) (statement : Statement)
    (text : Text) : (cursor.stepCopyColumnList delimiter statement text).Shortens text := by
  unfold stepCopyColumnList
  split
  · exact shortens_stepColumn _ _ _ _
  · split
    · rename_i h
      exact shortens_advanceWith _ _ _ (length_of_mark? h)
    · exact shortens_stepBeforeFromStdin _ _ _ _

theorem shortens_stepBeforeValues (cursor : Cursor) (statement : Statement) (text : Text) :
    (cursor.stepBeforeValues statement text).Shortens text := by
  unfold stepBeforeValues
  split
  · rename_i h
    exact shortens_advance _ _ (length_of_values? h)
  · exact shortens_giveUp _ _ _

theorem shortens_stepBeforeTuple (cursor : Cursor) (statement : Statement) (text : Text) :
    (cursor.stepBeforeTuple statement text).Shortens text := by
  unfold stepBeforeTuple
  split
  · rename_i h
    exact shortens_advanceWith _ _ _ (length_of_mark? h)
  · exact shortens_giveUp _ _ _

theorem shortens_stepTuple (registry : Registry) (cursor : Cursor) (statement : Statement)
    (text : Text) : (cursor.stepTuple registry statement text).Shortens text := by
  unfold stepTuple
  split
  · rename_i h
    exact .inr (length_of_value? h)
  · split
    · exact shortens_await _ _ _
    · exact shortens_giveUp _ _ _

theorem shortens_stepCopyOptions (cursor : Cursor) (statement : Statement) (text : Text) :
    (cursor.stepCopyOptions statement text).Shortens text := by
  unfold stepCopyOptions
  split
  · rename_i h
    split at h
    · exact shortens_advanceWith _ _ _ (length_of_delimiterOption? h)
    · simp at h
  · split
    · exact shortens_await _ _ _
    · exact shortens_giveUp _ _ _

theorem toDo_lt_of_shortens {text : Text} {transition : Transition} (cursor : Cursor)
    (h : transition.Shortens text) (hn : transition.needsInput = false) :
    transition.cursor.toDo transition.remainder < cursor.toDo text := by
  have h : transition.remainder.length < text.length := by
    rcases h with h | h
    · simp [hn] at h
    · exact h
  unfold toDo
  split <;> split <;> omega

theorem toDo_stepAfterTuple_lt {cursor : Cursor} (text : Text) (h : cursor.phase = .afterTuple) :
    (cursor.stepAfterTuple text).cursor.toDo (cursor.stepAfterTuple text).remainder <
      cursor.toDo text := by
  unfold stepAfterTuple
  split
  · rename_i hm
    exact toDo_lt_of_shortens _ (shortens_advance _ _ (length_of_mark? hm)) rfl
  · have hl : ((mark? ';' text).getD text).length ≤ text.length := by
      cases hm : mark? ';' text with
      | none => exact Nat.le_refl _
      | some rest => exact Nat.le_of_lt (length_of_mark? hm)
    have hp : ¬Phase.idle = Phase.afterTuple := by decide
    simp only [leave, toDo, h, hp, if_true, if_false]
    omega

/-- A token that does not finish the line leaves less to do. -/
theorem toDo_stepToken_lt {registry : Registry} {delimiter : Text} {cursor : Cursor} {text : Text}
    (hn : (cursor.stepToken registry delimiter text).needsInput = false) :
    (cursor.stepToken registry delimiter text).cursor.toDo
      (cursor.stepToken registry delimiter text).remainder < cursor.toDo text := by
  revert hn
  unfold stepToken
  split <;> intro hn
  · exact toDo_lt_of_shortens _ (shortens_stepIdle _ _) hn
  · exact toDo_lt_of_shortens _ (shortens_stepAfterInsert _ _) hn
  · exact toDo_lt_of_shortens _ (shortens_stepAfterInto _ _ _) hn
  · exact toDo_lt_of_shortens _ (shortens_stepAfterCopy _ _ _) hn
  · rename_i hp
    exact toDo_stepAfterTuple_lt text hp
  · exact toDo_lt_of_shortens _ (shortens_stepColumnList _ _ _) hn
  · exact toDo_lt_of_shortens _ (shortens_stepBeforeValues _ _ _) hn
  · exact toDo_lt_of_shortens _ (shortens_stepBeforeTuple _ _ _) hn
  · exact toDo_lt_of_shortens _ (shortens_stepTuple _ _ _ _) hn
  · exact toDo_lt_of_shortens _ (shortens_stepCopyColumnList _ _ _ _) hn
  · exact toDo_lt_of_shortens _ (shortens_stepBeforeFromStdin _ _ _ _) hn
  · exact toDo_lt_of_shortens _ (shortens_stepCopyOptions _ _ _) hn
  · exact toDo_lt_of_shortens _ (shortens_stepCopyOptions _ _ _) hn
  · exact toDo_lt_of_shortens _ (shortens_giveUp _ _ _) hn

/-- A step that does not finish the line leaves less to do. -/
theorem toDo_step_lt {registry : Registry} {delimiter : Text} {cursor : Cursor} {text : Text}
    {transition : Transition} (h : cursor.step registry delimiter text = .ok transition)
    (hn : transition.needsInput = false) :
    transition.cursor.toDo transition.remainder < cursor.toDo text := by
  unfold step at h
  split at h
  · split at h
    · unfold stepDataBlock at h
      split at h
      · cases h
        simp [giveUp] at hn
      · simp only at h
        split at h
        · cases h
          simp [await] at hn
        · split at h
          · simp at h
          · cases h
            simp [await] at hn
    · cases h
      simp [giveUp] at hn
  · split at h
    · cases h
      unfold stepComment at hn ⊢
      split at hn
      · rename_i hc
        exact toDo_lt_of_shortens _ (shortens_advance _ _ (length_of_afterComment? hc)) rfl
      · simp [await] at hn
    · split at h
      · split at h
        · cases h
          exact toDo_stepToken_lt hn
        · cases h
          simp [await] at hn
      · split at h
        · rename_i hc
          cases h
          exact toDo_lt_of_shortens _ (shortens_advance _ _ (length_of_commentOpening? hc)) rfl
        · cases h
          exact toDo_stepToken_lt hn

end Cursor

end SeedCatalog.Scan
