import SeedCatalog.Proofs.Scan.Column
import SeedCatalog.Proofs.Scan.Move
import SeedCatalog.Proofs.Sql.Value

/-!
# Steps on written tokens

Where a token was written, the step that meets it takes it, and leaves what
stands behind it.  There is one statement for each token of INSERT and COPY
statements, and for each text that waits for the next line.
-/

namespace SeedCatalog.Scan

open SeedCatalog.Sql Text

variable {registry : Registry} {delimiter : Text} {cursor : Cursor} {lead trail rest : Text}

namespace Phase

/-- The phases that read tokens, and pass over blank lines. -/
def readsTokens : Phase → Bool
  | .copyOptions | .afterDelimiter | .dataBlock | .comment => false
  | _ => true

theorem ne_dataBlock {phase : Phase} (tokens : phase.readsTokens = true) : phase ≠ .dataBlock := by
  rintro rfl
  contradiction

theorem ne_comment {phase : Phase} (tokens : phase.readsTokens = true) : phase ≠ .comment := by
  rintro rfl
  contradiction

end Phase

theorem not_readsLineEnd (tokens : cursor.phase.readsTokens = true) :
    cursor.readsLineEnd = false := by
  unfold Cursor.readsLineEnd
  cases phase : cursor.phase <;> simp_all [Phase.readsTokens]

/-- A phase that reads tokens passes over a blank line. -/
theorem step_of_allBlank {text : Text} (tokens : cursor.phase.readsTokens = true)
    (blank : text.allBlank = true) :
    cursor.step registry delimiter text = .ok (cursor.await []) := by
  rw [Cursor.step, if_neg (Phase.ne_dataBlock tokens), if_neg (Phase.ne_comment tokens),
    if_pos blank, not_readsLineEnd tokens]
  rfl

/-- In front of what is no comment, the phase decides about the token. -/
theorem step_eq_stepToken {text : Text} {c : Char} (noRows : cursor.phase ≠ .dataBlock)
    (outside : cursor.phase ≠ .comment) (skipped : text.skipBlanks = c :: rest)
    (noSlash : c ≠ '/') :
    cursor.step registry delimiter text = .ok (cursor.stepToken registry delimiter text) := by
  have notBlank : ¬text.allBlank = true := by
    rw [← skipBlanks_eq_nil_iff, skipped]
    simp
  have noComment : commentOpening? text = none := by
    rw [commentOpening?, skipped]
    split
    · rename_i opening
      rw [List.cons.injEq] at opening
      exact absurd opening.1 noSlash
    · rfl
  rw [Cursor.step, if_neg noRows, if_neg outside, if_neg notBlank, noComment]

/-! ## Words and marks -/

section

variable (blank : lead.allBlank = true) {written : Text} (stops : rest.stopsAt isWord = true)
include blank stops

theorem step_insert (phase : cursor.phase = .idle) (spells : Spells "INSERT".toList written) :
    cursor.step registry delimiter (lead ++ (written ++ rest)) =
      .ok (cursor.advance .afterInsert rest) := by
  obtain ⟨c, others, skipped, noSlash⟩ := spells.skipBlanks_cons blank rfl (by simp) rest
  rw [step_eq_stepToken (by simp [phase]) (by simp [phase]) skipped noSlash]
  simp only [Cursor.stepToken, phase, Cursor.stepIdle, insert?_eq blank stops spells]

theorem step_copy (phase : cursor.phase = .idle) :
    cursor.step registry delimiter (lead ++ ("COPY".toList ++ rest)) =
      .ok (cursor.advance .afterCopy rest) := by
  have skipped : (lead ++ ("COPY".toList ++ rest)).skipBlanks = 'C' :: ("OPY".toList ++ rest) :=
    skipBlanks_lead blank rfl _
  have noInsert : insert? (lead ++ ("COPY".toList ++ rest)) = none := by
    rw [insert?, skipped]
    rfl
  rw [step_eq_stepToken (by simp [phase]) (by simp [phase]) skipped (by decide)]
  simp only [Cursor.stepToken, phase, Cursor.stepIdle, noInsert, copy?_eq blank stops]

theorem step_into (phase : cursor.phase = .afterInsert) (spells : Spells "INTO".toList written) :
    cursor.step registry delimiter (lead ++ (written ++ rest)) =
      .ok (cursor.advance .afterInto rest) := by
  obtain ⟨c, others, skipped, noSlash⟩ := spells.skipBlanks_cons blank rfl (by simp) rest
  rw [step_eq_stepToken (by simp [phase]) (by simp [phase]) skipped noSlash]
  simp only [Cursor.stepToken, phase, Cursor.stepAfterInsert, into?_eq blank stops spells]

theorem step_values {statement : Statement} (phase : cursor.phase = .beforeValues)
    (reading : cursor.statement = some statement) (spells : Spells "VALUES".toList written) :
    cursor.step registry delimiter (lead ++ (written ++ rest)) =
      .ok (cursor.advance .beforeTuple rest) := by
  obtain ⟨c, others, skipped, noSlash⟩ := spells.skipBlanks_cons blank rfl (by simp) rest
  rw [step_eq_stepToken (by simp [phase]) (by simp [phase]) skipped noSlash]
  simp only [Cursor.stepToken, phase, reading, Cursor.stepBeforeValues,
    values?_eq blank stops spells]

end

section

variable (blank : lead.allBlank = true) (rest : Text)
include blank

theorem step_openTuple {statement : Statement} (phase : cursor.phase = .beforeTuple)
    (reading : cursor.statement = some statement) :
    cursor.step registry delimiter (lead ++ '(' :: rest) =
      .ok (cursor.advanceWith .tuple { statement with ordinal := 0 } rest) := by
  have read := mark?_eq blank (c := '(') rfl rest
  rw [step_eq_stepToken (by simp [phase]) (by simp [phase]) (skipBlanks_lead blank rfl _)
    (by decide)]
  simp only [Cursor.stepToken, phase, reading, Cursor.stepBeforeTuple, read]

theorem step_nextTuple (phase : cursor.phase = .afterTuple) :
    cursor.step registry delimiter (lead ++ ',' :: rest) =
      .ok (cursor.advance .beforeTuple rest) := by
  have read := mark?_eq blank (c := ',') rfl rest
  rw [step_eq_stepToken (by simp [phase]) (by simp [phase]) (skipBlanks_lead blank rfl _)
    (by decide)]
  simp only [Cursor.stepToken, phase, Cursor.stepAfterTuple, read]

theorem step_endTuples (phase : cursor.phase = .afterTuple) :
    cursor.step registry delimiter (lead ++ ';' :: rest) = .ok (cursor.leave rest) := by
  have noComma := mark?_of_ne blank (c := ',') (d := ';') rfl (by decide) rest
  have read := mark?_eq blank (c := ';') rfl rest
  rw [step_eq_stepToken (by simp [phase]) (by simp [phase]) (skipBlanks_lead blank rfl _)
    (by decide)]
  simp only [Cursor.stepToken, phase, Cursor.stepAfterTuple, noComma, read, Option.getD_some]

end

/-! ## Names -/

section

variable (blank : lead.allBlank = true) (reference : UnquotedReference)
  (stops : rest.stopsAt continuesIdentifier = true)
  (unqualified : rest.skipBlanks.head? ≠ some '.')

include blank stops unqualified

/-- A statement keeps the table to which its reference resolves. -/
theorem step_insertTable {table : Text} (resolved : registry.resolve reference.text = some table)
    (phase : cursor.phase = .afterInto) :
    cursor.step registry delimiter (lead ++ (reference.text ++ rest)) =
      .ok (cursor.advanceWith .columnList { table } rest) := by
  obtain ⟨c, others, skipped, noSlash⟩ := skipBlanks_reference_cons blank reference rest
  rw [step_eq_stepToken (by simp [phase]) (by simp [phase]) skipped noSlash]
  simp only [Cursor.stepToken, phase, Cursor.stepAfterInto,
    tableName?_eq blank reference stops unqualified, resolved]

/-- A statement on a table that is not registered is left behind its table. -/
theorem step_insertUnknown (unknown : registry.resolve reference.text = none)
    (phase : cursor.phase = .afterInto) :
    cursor.step registry delimiter (lead ++ (reference.text ++ rest)) =
      .ok (cursor.leave rest) := by
  obtain ⟨c, others, skipped, noSlash⟩ := skipBlanks_reference_cons blank reference rest
  rw [step_eq_stepToken (by simp [phase]) (by simp [phase]) skipped noSlash]
  simp only [Cursor.stepToken, phase, Cursor.stepAfterInto,
    tableName?_eq blank reference stops unqualified, unknown]

theorem step_copyTable {table : Text} (resolved : registry.resolve reference.text = some table)
    (phase : cursor.phase = .afterCopy) :
    cursor.step registry delimiter (lead ++ (reference.text ++ rest)) =
      .ok (cursor.advanceWith .copyColumnList { table } rest) := by
  obtain ⟨c, others, skipped, noSlash⟩ := skipBlanks_reference_cons blank reference rest
  rw [step_eq_stepToken (by simp [phase]) (by simp [phase]) skipped noSlash]
  simp only [Cursor.stepToken, phase, Cursor.stepAfterCopy,
    tableName?_eq blank reference stops unqualified, resolved]

/-- A table that is not registered is kept by the name that it stands for. -/
theorem step_copyUnknown (unknown : registry.resolve reference.text = none)
    (phase : cursor.phase = .afterCopy) :
    cursor.step registry delimiter (lead ++ (reference.text ++ rest)) =
      .ok (cursor.advanceWith .copyColumnList
        { table := Identifier.normalize reference.text, registered := false } rest) := by
  obtain ⟨c, others, skipped, noSlash⟩ := skipBlanks_reference_cons blank reference rest
  rw [step_eq_stepToken (by simp [phase]) (by simp [phase]) skipped noSlash]
  simp only [Cursor.stepToken, phase, Cursor.stepAfterCopy,
    tableName?_eq blank reference stops unqualified, unknown]

end

/-! ## Columns -/

section

variable {statement : Statement} {closed : Phase} (closes : Closes cursor.phase closed)
  (reading : cursor.statement = some statement)

include closes reading

theorem stepToken_eq_stepColumn (isOpen : statement.columnsOpen = true) (text : Text) :
    cursor.stepToken registry delimiter text =
      Cursor.stepColumn closed cursor statement text := by
  generalize same : cursor.phase = phase at closes
  cases closes with
  | columns =>
      simp only [Cursor.stepToken, same, reading, Cursor.stepColumnList, isOpen, if_true]
  | copyColumns =>
      simp only [Cursor.stepToken, same, reading, Cursor.stepCopyColumnList, isOpen, if_true]

theorem step_openColumns (notOpen : statement.columnsOpen = false) (blank : lead.allBlank = true)
    (rest : Text) :
    cursor.step registry delimiter (lead ++ '(' :: rest) =
      .ok (cursor.advanceWith cursor.phase { statement with columnsOpen := true } rest) := by
  have read := mark?_eq blank (c := '(') rfl rest
  rw [step_eq_stepToken (by rintro same; cases same ▸ closes) closes.ne_comment
    (skipBlanks_lead blank rfl _) (by decide)]
  generalize same : cursor.phase = phase at closes
  cases closes with
  | columns => simp [Cursor.stepToken, same, reading, Cursor.stepColumnList, notOpen, read]
  | copyColumns => simp [Cursor.stepToken, same, reading, Cursor.stepCopyColumnList, notOpen, read]

variable (isOpen : statement.columnsOpen = true) (blank : lead.allBlank = true)
  (name : UnquotedName) (blank' : trail.allBlank = true)

include isOpen blank blank'

/-- A column gets the next position. -/
theorem step_column (isLast : Bool) (rest : Text) :
    cursor.step registry delimiter (lead ++ (name.text ++ (trail ++ endMark isLast :: rest))) =
      .ok (cursor.advanceWith (if isLast then closed else cursor.phase)
        (statement.withColumn name.text) rest) := by
  obtain ⟨c, others, skipped, noSlash⟩ :=
    skipBlanks_name_cons blank name (trail ++ endMark isLast :: rest)
  rw [step_eq_stepToken (by rintro same; cases same ▸ closes) closes.ne_comment skipped noSlash,
    stepToken_eq_stepColumn closes reading isOpen]
  simp only [Cursor.stepColumn, column?_eq blank name blank', Statement.withColumn]

theorem step_columnWaits :
    cursor.step registry delimiter (lead ++ (name.text ++ trail)) =
      .ok (cursor.await (lead ++ (name.text ++ trail))) := by
  obtain ⟨c, others, skipped, noSlash⟩ := skipBlanks_name_cons blank name trail
  rw [step_eq_stepToken (by rintro same; cases same ▸ closes) closes.ne_comment skipped noSlash,
    stepToken_eq_stepColumn closes reading isOpen]
  simp only [Cursor.stepColumn, column?_of_allBlank blank name blank',
    columnMayFollow_of_allBlank blank name blank', if_true]

end

/-! ## Values -/

section

variable {statement : Statement} (phase : cursor.phase = .tuple)
  (reading : cursor.statement = some statement)

include phase reading

/-- A value that is read gets the next position, and is found if its column is translatable. -/
theorem step_of_value? {text : Text} {token : ValueToken} {c : Char} {others : Text}
    (skipped : text.skipBlanks = c :: others) (noSlash : c ≠ '/')
    (read : value? text = some token) :
    cursor.step registry delimiter text =
      .ok { cursor.advanceWith (if token.isLast then .afterTuple else .tuple)
              { statement with ordinal := statement.ordinal + 1 } token.rest with
            found :=
              if statement.isTranslatable registry (statement.ordinal + 1) then [token.value.text]
              else [] } := by
  rw [step_eq_stepToken (by simp [phase]) (by simp [phase]) skipped noSlash]
  simp only [Cursor.stepToken, phase, reading, Cursor.stepTuple, read]

variable (blank : lead.allBlank = true)
include blank

theorem step_value (value : WrittenValue) (blank' : trail.allBlank = true) (isLast : Bool)
    (rest : Text) :
    cursor.step registry delimiter (lead ++ (value.written ++ (trail ++ endMark isLast :: rest))) =
      .ok { cursor.advanceWith (if isLast then .afterTuple else .tuple)
              { statement with ordinal := statement.ordinal + 1 } rest with
            found :=
              if statement.isTranslatable registry (statement.ordinal + 1) then [value.text]
              else [] } := by
  obtain ⟨c, others, skipped, noSlash⟩ :=
    skipBlanks_value_cons blank value (trail ++ endMark isLast :: rest)
  rw [step_of_value? phase reading skipped noSlash (value?_eq blank value blank' isLast rest),
    value.text_value]

theorem step_valueWaits (value : WrittenValue) (blank' : trail.allBlank = true) :
    cursor.step registry delimiter (lead ++ (value.written ++ trail)) =
      .ok (cursor.await (lead ++ (value.written ++ trail))) := by
  obtain ⟨c, others, skipped, noSlash⟩ := skipBlanks_value_cons blank value trail
  rw [step_eq_stepToken (by simp [phase]) (by simp [phase]) skipped noSlash]
  simp only [Cursor.stepToken, phase, reading, Cursor.stepTuple,
    value?_unended blank value blank', valueMayFollow_unended blank value blank', if_true]

/-- A literal that is still open waits for the next line. -/
theorem step_openWaits (text : Text) :
    cursor.step registry delimiter (lead ++ '\'' :: double '\'' text) =
      .ok (cursor.await (lead ++ '\'' :: double '\'' text)) := by
  rw [step_eq_stepToken (by simp [phase]) (by simp [phase]) (skipBlanks_lead blank rfl _)
    (by decide)]
  simp only [Cursor.stepToken, phase, reading, Cursor.stepTuple, value?_open blank,
    valueMayFollow_open blank, if_true]

end

end SeedCatalog.Scan
