import SeedCatalog.Proofs.Registry
import SeedCatalog.Proofs.Scan.Move
import SeedCatalog.Proofs.Scan.Reach

/-!
# The cursor is consistent

The phase of a cursor, its statement and the phase that a comment interrupts
belong together: a statement is there exactly behind its table, its columns are
numbered without gaps, and only COPY is followed on tables that the registry
does not have.  Every rule of the scanner keeps this, so that no scan comes to
a step that cannot be taken.
-/

namespace SeedCatalog.Scan

open SeedCatalog.Sql

/-! ## The phases by what they need -/

namespace Phase

/-- The phases before the table of a statement is read. -/
def precedesTable : Phase → Bool
  | .idle | .afterInsert | .afterInto | .afterCopy => true
  | _ => false

/-- The phases in which columns are read. -/
def readsColumns : Phase → Bool
  | .columnList | .copyColumnList => true
  | _ => false

/-- The phases that only a closed column list leads to. -/
def followsColumns : Phase → Bool
  | .beforeValues | .beforeTuple | .tuple | .afterTuple | .beforeFromStdin => true
  | _ => false

/-- The phases in which a statement on an unregistered table is followed. -/
def admitsUnregistered : Phase → Bool
  | .copyColumnList | .beforeFromStdin | .copyOptions | .afterDelimiter | .dataBlock => true
  | _ => false

/-- The phases in which a text may wait for the next line. -/
def keepsText : Phase → Bool
  | .columnList | .copyColumnList | .beforeFromStdin | .tuple => true
  | _ => false

/-- The scanner may go from one phase to the other behind the column list. -/
def goesOnTo (place next : Phase) : Bool :=
  place != .comment && next != .comment && !next.precedesTable && !next.readsColumns &&
    (!next.followsColumns || place.followsColumns) &&
    (!place.admitsUnregistered || next.admitsUnregistered)

end Phase

/-- The phase of the statement: the one that a comment interrupts, if one does. -/
def Cursor.place (cursor : Cursor) : Phase :=
  cursor.resume.getD cursor.phase

/-- A statement has what its phase needs. -/
structure Statement.Fits (registry : Registry) (statement : Statement) (place : Phase) : Prop where
  /-- The columns are numbered from one in the order in which they were read. -/
  numbered : statement.columns.keys =
    (List.range statement.columns.size).map fun index : Nat => (index : Int) + 1
  counted : place.readsColumns = true → statement.ordinal = statement.columns.size
  opened : place.followsColumns = true → statement.columnsOpen = true
  closed : place.readsColumns = false → statement.columnsOpen = true → 1 ≤ statement.columns.size
  unregistered : statement.registered = false → place.admitsUnregistered = true
  registered : statement.registered = true → registry.tables.contains statement.table = true
  separates : statement.delimiter ≠ []
  rows : place = .dataBlock → statement.ordinal = 1

/-- The parts of a cursor belong together. -/
structure Cursor.Consistent (registry : Registry) (cursor : Cursor) : Prop where
  statement_isSome_iff : cursor.statement.isSome = true ↔ cursor.place.precedesTable = false
  resume_isSome_iff : cursor.resume.isSome = true ↔ cursor.phase = .comment
  resume_ne_comment : cursor.resume ≠ some .comment
  resume_ne_dataBlock : cursor.resume ≠ some .dataBlock
  fits : ∀ statement, cursor.statement = some statement → statement.Fits registry cursor.place

/-- A text that waits between lines is not blank, and waits in a phase that keeps texts. -/
def Cursor.Rests (cursor : Cursor) : Prop :=
  cursor.pending ≠ [] → cursor.phase.keepsText = true ∧ cursor.pending.allBlank = false

variable {registry : Registry} {delimiter : Text}

namespace Closes

variable {place next : Phase}

theorem readsColumns_eq (closes : Closes place next) : place.readsColumns = true := by
  cases closes <;> rfl

theorem precedesTable_eq (closes : Closes place next) : place.precedesTable = false := by
  cases closes <;> rfl

theorem precedesTable_next_eq (closes : Closes place next) : next.precedesTable = false := by
  cases closes <;> rfl

theorem next_ne_comment (closes : Closes place next) : next ≠ .comment := by
  cases closes <;> simp

end Closes

/-! ## The delimiter of the option -/

theorem undouble_ne_nil (q : Char) {text : Text} (filled : text ≠ []) :
    Text.undouble q text ≠ [] := by
  match text with
  | [c] => simp [Text.undouble]
  | c :: d :: rest =>
      rw [Text.undouble]
      split <;> simp

theorem ne_nil_of_filledRun? {q : Char} {text : Text} {run : Text × Text}
    (read : filledRun? q text = some run) : run.1 ≠ [] := by
  unfold filledRun? at read
  split at read
  · cases read
    simp
  · contradiction

/-- A DELIMITER option names at least one character. -/
theorem ne_nil_of_delimiterOption? {text : Text} {option : Text × Text}
    (read : delimiterOption? text = some option) : option.1 ≠ [] := by
  unfold delimiterOption? at read
  simp only at read
  split at read
  · contradiction
  · split at read
    · split at read
      · contradiction
      · split at read
        · obtain ⟨run, inside, same⟩ := Option.map_eq_some_iff.1 read
          rw [← same]
          exact undouble_ne_nil _ (ne_nil_of_filledRun? inside)
        · contradiction
    · contradiction

/-! ## Statements that change -/

namespace Statement.Fits

variable {statement : Statement} {place next : Phase}

/-- A statement fits at the beginning of its column list. -/
theorem of_table {table : Text} (known : registry.tables.contains table = true)
    (reads : next.readsColumns = true) (inside : next.followsColumns = false)
    (noRows : next ≠ .dataBlock) :
    ({ table } : Statement).Fits registry next where
  numbered := rfl
  counted _ := rfl
  opened := by simp [inside]
  closed := by simp [reads]
  unregistered := by simp
  registered _ := known
  separates := by simp
  rows same := absurd same noRows

/-- A COPY on an unregistered table fits at the beginning of its column list. -/
theorem of_unregistered (table : Text) :
    ({ table, registered := false } : Statement).Fits registry .copyColumnList where
  numbered := rfl
  counted _ := rfl
  opened := by simp [Phase.followsColumns]
  closed := by simp [Phase.readsColumns]
  unregistered _ := rfl
  registered := by simp
  separates := by simp
  rows := by simp

theorem openColumns (fits : statement.Fits registry place) (reads : place.readsColumns = true) :
    ({ statement with columnsOpen := true } : Statement).Fits registry place where
  numbered := fits.numbered
  counted := fits.counted
  opened _ := rfl
  closed := by simp [reads]
  unregistered := fits.unregistered
  registered := fits.registered
  separates := fits.separates
  rows := fits.rows

/-- One more column gets the number behind the last one. -/
theorem keys_insert_column (fits : statement.Fits registry place)
    (reads : place.readsColumns = true) (name : Text) :
    (statement.columns.insert (statement.ordinal + 1) name).keys =
      statement.columns.keys ++ [statement.ordinal + 1] := by
  have fresh : statement.ordinal + 1 ∉ statement.columns.keys := by
    rw [fits.numbered, fits.counted reads]
    intro mem
    obtain ⟨index, inside, same⟩ := List.mem_map.1 mem
    have inside := List.mem_range.1 inside
    omega
  rw [OrderedMap.insert, OrderedMap.keys_update, if_neg fresh]

theorem size_eq_length_keys (columns : OrderedMap Int Text) :
    columns.size = columns.keys.length := by
  simp [OrderedMap.size, OrderedMap.keys]

theorem column (fits : statement.Fits registry place) (closes : Closes place next)
    (isOpen : statement.columnsOpen = true) (name : Text) (isLast : Bool) :
    ({ statement with
        columns := statement.columns.insert (statement.ordinal + 1) name
        ordinal := statement.ordinal + 1 } : Statement).Fits registry
      (if isLast then next else place) := by
  have reads := closes.readsColumns_eq
  have unknown : statement.registered = false →
      (if isLast then next else place).admitsUnregistered = true := by
    intro unregistered
    have admits := fits.unregistered unregistered
    cases closes with
    | columns => simp [Phase.admitsUnregistered] at admits
    | copyColumns => cases isLast <;> rfl
  have keys := fits.keys_insert_column reads name
  have size : (statement.columns.insert (statement.ordinal + 1) name).size =
      statement.columns.size + 1 := by
    rw [size_eq_length_keys, keys, size_eq_length_keys, List.length_append, List.length_singleton]
  have counted := fits.counted reads
  constructor
  · rw [size, keys, fits.numbered, counted, List.range_succ]
    simp
  · intro _
    rw [size, Int.natCast_succ, counted]
  · intro _
    exact isOpen
  · intro _ _
    rw [size]
    exact Nat.le_add_left _ _
  · exact unknown
  · exact fits.registered
  · exact fits.separates
  · intro same
    cases closes <;> cases isLast <;> simp at same

/-- Behind the column list only the ordinal and the delimiter of a statement change. -/
theorem beyond {ordinal : Int} {delimiter : Text} (fits : statement.Fits registry place)
    (behind : place.readsColumns = false ∨ statement.columnsOpen = false)
    (reads : next.readsColumns = false)
    (opened : next.followsColumns = true → place.followsColumns = true)
    (admits : place.admitsUnregistered = true → next.admitsUnregistered = true)
    (separates : delimiter ≠ []) (rows : next = .dataBlock → ordinal = 1) :
    ({ statement with ordinal, delimiter } : Statement).Fits registry next where
  numbered := fits.numbered
  counted := by simp [reads]
  opened follows := fits.opened (opened follows)
  closed _ isOpen := fits.closed (behind.resolve_right (by simpa using isOpen)) isOpen
  unregistered unknown := admits (fits.unregistered unknown)
  registered := fits.registered
  separates := separates
  rows := rows

end Statement.Fits

/-! ## Cursors that go on -/

namespace Cursor.Consistent

variable {cursor : Cursor}

/-- Outside comments no phase is kept for later. -/
theorem resume_eq_none (consistent : cursor.Consistent registry)
    (outside : cursor.phase ≠ .comment) : cursor.resume = none := by
  have resume := mt consistent.resume_isSome_iff.1 outside
  simpa using resume

theorem place_eq_phase (consistent : cursor.Consistent registry)
    (outside : cursor.phase ≠ .comment) : cursor.place = cursor.phase := by
  rw [place, consistent.resume_eq_none outside, Option.getD_none]

/-- The line and the text that waits have no part in consistency. -/
theorem congr (consistent : cursor.Consistent registry) (line : Int) (pending : Text) :
    ({ cursor with line, pending } : Cursor).Consistent registry :=
  ⟨consistent.statement_isSome_iff, consistent.resume_isSome_iff, consistent.resume_ne_comment,
    consistent.resume_ne_dataBlock, consistent.fits⟩

/-- A cursor that follows no statement is consistent before a table. -/
theorem of_none (none : cursor.statement = none) (resume : cursor.resume = .none)
    (precedes : cursor.phase.precedesTable = true) : cursor.Consistent registry := by
  have place : cursor.place = cursor.phase := by rw [Cursor.place, resume, Option.getD_none]
  constructor
  · simp [none, place, precedes]
  · have outside : cursor.phase ≠ .comment := by
      rintro inside
      simp [inside, Phase.precedesTable] at precedes
    simp [resume, outside]
  · simp [resume]
  · simp [resume]
  · simp [none]

/-- A cursor that follows a statement is consistent where the statement fits. -/
theorem of_some {statement : Statement} (reading : cursor.statement = some statement)
    (resume : cursor.resume = none) (outside : cursor.phase ≠ .comment)
    (follows : cursor.phase.precedesTable = false)
    (fits : statement.Fits registry cursor.phase) : cursor.Consistent registry := by
  have place : cursor.place = cursor.phase := by rw [Cursor.place, resume, Option.getD_none]
  constructor
  · simp [reading, place, follows]
  · simp [resume, outside]
  · simp [resume]
  · simp [resume]
  · rintro other same
    rw [reading, Option.some.injEq] at same
    exact place ▸ same ▸ fits

theorem statement_eq_none (consistent : cursor.Consistent registry)
    (precedes : cursor.phase.precedesTable = true) : cursor.statement = none := by
  have outside : cursor.phase ≠ .comment := by
    intro inside
    simp [inside, Phase.precedesTable] at precedes
  have absent := mt consistent.statement_isSome_iff.1
    (by simp [consistent.place_eq_phase outside, precedes])
  simpa using absent

theorem phase_ne_comment (precedes : cursor.phase.precedesTable = true) :
    cursor.phase ≠ .comment := by
  intro inside
  simp [inside, Phase.precedesTable] at precedes

/-- Before the table of a statement the scanner goes on without a statement. -/
theorem advance_unread (consistent : cursor.Consistent registry) {next : Phase} (rest : Text)
    (precedes : cursor.phase.precedesTable = true) (stays : next.precedesTable = true) :
    (cursor.advance next rest).cursor.Consistent registry :=
  of_none (consistent.statement_eq_none precedes)
    (consistent.resume_eq_none (phase_ne_comment precedes)) stays

/-- Behind the table of a statement the scanner goes on where the statement fits. -/
theorem advanceWith (consistent : cursor.Consistent registry) {next : Phase}
    {statement : Statement} (rest : Text) (outside : cursor.phase ≠ .comment)
    (runs : next ≠ .comment) (follows : next.precedesTable = false)
    (fits : statement.Fits registry next) :
    (cursor.advanceWith next statement rest).cursor.Consistent registry :=
  of_some rfl (consistent.resume_eq_none outside) runs follows fits

theorem fits_phase (consistent : cursor.Consistent registry) {statement : Statement}
    (reading : cursor.statement = some statement) (outside : cursor.phase ≠ .comment) :
    statement.Fits registry cursor.phase :=
  consistent.place_eq_phase outside ▸ consistent.fits statement reading

/-- Behind the column list the scanner goes on with another ordinal or another delimiter. -/
theorem onward {next : Cursor} {statement : Statement} {ordinal : Int} {delimiter : Text}
    (consistent : cursor.Consistent registry) (reading : cursor.statement = some statement)
    (goesOn : cursor.phase.goesOnTo next.phase = true)
    (behind : cursor.phase.readsColumns = false ∨ statement.columnsOpen = false)
    (kept : next.resume = cursor.resume)
    (changed : next.statement = some { statement with ordinal, delimiter })
    (separates : delimiter ≠ []) (rows : next.phase = .dataBlock → ordinal = 1) :
    next.Consistent registry := by
  simp only [Phase.goesOnTo, Bool.and_eq_true, bne_iff_ne, Bool.not_eq_true',
    Bool.or_eq_true] at goesOn
  obtain ⟨⟨⟨⟨⟨outside, runs⟩, follows⟩, reads⟩, opened⟩, admits⟩ := goesOn
  have fits := consistent.fits_phase reading outside
  refine of_some changed (kept.trans (consistent.resume_eq_none outside)) runs follows
    (fits.beyond behind reads ?_ ?_ separates rows)
  · exact fun inside => opened.resolve_left (by simp [inside])
  · exact fun inside => admits.resolve_left (by simp [inside])

/-- A comment keeps the phase that it interrupts. -/
theorem openComment (consistent : cursor.Consistent registry) (outside : cursor.phase ≠ .comment)
    (noRows : cursor.phase ≠ .dataBlock) (rest : Text) :
    ({ cursor with resume := some cursor.phase }.advance .comment rest).cursor.Consistent
      registry := by
  have place := consistent.place_eq_phase outside
  constructor
  · exact place ▸ consistent.statement_isSome_iff
  · simp [advance]
  · simpa [advance] using outside
  · simpa [advance] using noRows
  · exact place ▸ consistent.fits

/-- Behind a comment the phase that it interrupted goes on. -/
theorem closeComment (consistent : cursor.Consistent registry) (inside : cursor.phase = .comment)
    (rest : Text) :
    ({ cursor with resume := none }.advance (cursor.resume.getD .idle) rest).cursor.Consistent
      registry := by
  obtain ⟨phase, interrupted⟩ :=
    Option.isSome_iff_exists.1 (consistent.resume_isSome_iff.2 inside)
  have place : cursor.place = phase := by rw [Cursor.place, interrupted, Option.getD_some]
  have outside : phase ≠ .comment := fun same =>
    consistent.resume_ne_comment (same ▸ interrupted)
  simp only [interrupted, Option.getD_some]
  constructor
  · exact place ▸ consistent.statement_isSome_iff
  · simpa [advance] using outside
  · simp [advance]
  · simp [advance]
  · exact place ▸ consistent.fits

/-- One more column leaves the cursor in the list or behind it. -/
theorem column (consistent : cursor.Consistent registry) {statement : Statement} {closed : Phase}
    (closes : Closes cursor.phase closed) (reading : cursor.statement = some statement)
    (isOpen : statement.columnsOpen = true) (token : ColumnToken) :
    (cursor.advanceWith (if token.isLast then closed else cursor.phase)
      { statement with
        columns := statement.columns.insert (statement.ordinal + 1) token.name
        ordinal := statement.ordinal + 1 }
      token.rest).cursor.Consistent registry := by
  have fits := consistent.fits_phase reading closes.ne_comment
  refine consistent.advanceWith _ closes.ne_comment ?_ ?_ (fits.column closes isOpen _ _)
  · split
    · exact closes.next_ne_comment
    · exact closes.ne_comment
  · split
    · exact closes.precedesTable_next_eq
    · exact closes.precedesTable_eq

theorem separates (consistent : cursor.Consistent registry) {statement : Statement}
    (reading : cursor.statement = some statement) : statement.delimiter ≠ [] :=
  (consistent.fits statement reading).separates

/-- A rule of the scanner leads from a consistent cursor to a consistent one. -/
theorem of_move {text : Text} {transition : Transition} (nonempty : delimiter ≠ [])
    (consistent : cursor.Consistent registry)
    (move : Move registry delimiter cursor text transition) :
    transition.cursor.Consistent registry := by
  cases move with
  | giveUp problem outside => exact of_none rfl rfl rfl
  | pause outside noRows blank => exact consistent
  | stay inside unclosed => exact consistent
  | openComment outside noRows opening => exact consistent.openComment outside noRows _
  | closeComment inside closing => exact consistent.closeComment inside _
  | insert phase read => exact consistent.advance_unread _ (by rw [phase]; rfl) rfl
  | copy phase read => exact consistent.advance_unread _ (by rw [phase]; rfl) rfl
  | skip phase read => exact consistent.advance_unread _ (by rw [phase]; rfl) rfl
  | into phase read => exact consistent.advance_unread _ (by rw [phase]; rfl) rfl
  | insertTable phase read resolved =>
      have known := Registry.contains_of_resolve_eq_some resolved
      exact consistent.advanceWith _ (by simp [phase]) (by simp) rfl
        (.of_table known rfl rfl (by simp))
  | insertUnknown phase read unknown =>
      exact of_none rfl (consistent.resume_eq_none (by simp [phase])) rfl
  | copyTable phase read resolved =>
      have known := Registry.contains_of_resolve_eq_some resolved
      exact consistent.advanceWith _ (by simp [phase]) (by simp) rfl
        (.of_table known rfl rfl (by simp))
  | copyUnknown phase read unknown =>
      exact consistent.advanceWith _ (by simp [phase]) (by simp) rfl (.of_unregistered _)
  | openColumns phase reading notOpen read =>
      have fits := consistent.fits_phase reading phase.ne_comment
      exact consistent.advanceWith _ phase.ne_comment phase.ne_comment phase.precedesTable_eq
        (fits.openColumns phase.readsColumns_eq)
  | column phase reading isOpen read => exact consistent.column phase reading isOpen _
  | wait reading phase filled => exact consistent
  | values phase reading read =>
      exact consistent.onward reading (by rw [phase]; rfl) (.inl (by rw [phase]; rfl)) rfl reading
        (consistent.separates reading) nofun
  | openTuple phase reading read =>
      exact consistent.onward reading (by rw [phase]; rfl) (.inl (by rw [phase]; rfl)) rfl rfl
        (consistent.separates reading) nofun
  | @value statement token phase reading read =>
      refine consistent.onward reading ?_ (.inl (by rw [phase]; rfl)) rfl rfl
        (consistent.separates reading) ?_
      · cases token.isLast <;> simp only [Cursor.advanceWith, phase] <;> rfl
      · cases token.isLast <;> simp [Cursor.advanceWith]
  | nextTuple phase read =>
      have outside : cursor.phase ≠ .comment := by simp [phase]
      have present := consistent.statement_isSome_iff.2
        (by rw [consistent.place_eq_phase outside, phase]; rfl)
      obtain ⟨statement, reading⟩ := Option.isSome_iff_exists.1 present
      exact consistent.onward reading (by rw [phase]; rfl) (.inl (by rw [phase]; rfl)) rfl reading
        (consistent.separates reading) nofun
  | endTuples phase noComma =>
      exact of_none rfl (consistent.resume_eq_none (by simp [phase])) rfl
  | fromStdin phase reading read =>
      refine consistent.onward reading ?_ ?_ rfl rfl nonempty nofun
      · rcases phase with phase | ⟨phase, _⟩ <;> rw [phase] <;> rfl
      · exact phase.imp (fun phase => by rw [phase]; rfl) And.right
  | delimiterOption phase reading read =>
      exact consistent.onward reading (by rw [phase]; rfl) (.inl (by rw [phase]; rfl)) rfl rfl
        (ne_nil_of_delimiterOption? read) nofun
  | beginRows phase reading ended =>
      refine consistent.onward reading ?_ (.inl ?_) rfl rfl (consistent.separates reading)
        fun _ => rfl
      all_goals rcases phase with phase | phase <;> rw [phase] <;> rfl
  | emptyRow phase reading empty =>
      exact consistent.onward reading (by simp only [await, phase]; rfl)
        (.inl (by rw [phase]; rfl)) rfl rfl (consistent.separates reading) fun _ => rfl
  | row phase reading going filled cut =>
      exact consistent.onward reading (by simp only [await, phase]; rfl)
        (.inl (by rw [phase]; rfl)) rfl rfl cut fun _ => rfl

end Cursor.Consistent

/-! ## Scans -/

theorem Cursor.consistent_default : Cursor.Consistent registry {} :=
  .of_none rfl rfl rfl

/-- Every place that is reached has a consistent cursor. -/
theorem Reached.consistent (nonempty : delimiter ≠ []) {written : Option Text} {cursor : Cursor}
    {text : Text} (reached : Reached registry delimiter written cursor text) :
    cursor.Consistent registry := by
  induction reached with
  | first raw => exact Cursor.consistent_default.congr _ _
  | step _ taken _ ih => exact ih.of_move nonempty (.of_step taken)
  | line _ taken _ raw ih => exact (ih.of_move nonempty (.of_step taken)).congr _ _

/-- A reached place always allows a step. -/
theorem StepError.not_isReached (nonempty : delimiter ≠ []) (failure : StepError) :
    ¬failure.IsReached registry delimiter := by
  rintro ⟨written, cursor, text, reached, failed⟩
  obtain ⟨statement, reading, cut⟩ := Cursor.delimiter_eq_nil_of_step_eq_error failed
  exact ((reached.consistent nonempty).fits statement reading).separates cut

/-- What a step leaves to the next line may wait there. -/
theorem Move.rests {cursor : Cursor} {text : Text} {transition : Transition}
    (move : Move registry delimiter cursor text transition)
    (finished : transition.needsInput = true) : transition.next.Rests := by
  cases move with
  | @wait statement reading phase filled =>
      intro _
      refine ⟨?_, filled⟩
      change cursor.phase.keepsText = true
      generalize cursor.phase = place at phase
      cases phase <;> rfl
  | _ =>
      first
      | exact fun waiting => absurd rfl waiting
      | cases finished

theorem Transition.IsReached.consistent (nonempty : delimiter ≠ []) {transition : Transition}
    (reached : transition.IsReached registry delimiter) :
    transition.cursor.Consistent registry := by
  obtain ⟨written, cursor, text, place, taken⟩ := reached
  exact (place.consistent nonempty).of_move nonempty (.of_step taken)

/-- A scan that can take all its steps scans every line. -/
theorem length_scanLinesFrom {cursor : Cursor} {lines : List Text}
    (whole : ∀ scan ∈ scanLinesFrom registry delimiter cursor lines, scan.steps.failure = none) :
    (scanLinesFrom registry delimiter cursor lines).length = lines.length := by
  induction lines generalizing cursor with
  | nil => rfl
  | cons raw rest ih =>
      rw [scanLinesFrom] at whole ⊢
      split
      · rename_i failed
        rw [if_pos failed] at whole
        simp [whole _ (List.mem_singleton_self _)] at failed
      · rename_i taken
        rw [if_neg taken] at whole
        rw [List.length_cons, List.length_cons,
          ih fun scan mem => whole scan (List.mem_cons_of_mem _ mem)]

/-- Every line of every input is scanned; the cursor before and behind every step is consistent,
and so is the cursor between two lines, where a text waits only if a line may break there. -/
theorem scanLinesFrom_consistent (registry : Registry) {delimiter : Text}
    (nonempty : delimiter ≠ []) (lines : List Text) :
    (scanLinesFrom registry delimiter {} lines).length = lines.length ∧
      ∀ scan ∈ scanLinesFrom registry delimiter {} lines,
        scan.steps.failure = none ∧
        scan.start.Consistent registry ∧
        (∀ transition ∈ scan.steps.transitions, transition.cursor.Consistent registry) ∧
        scan.next.Consistent registry ∧ scan.next.Rests := by
  have taken : ∀ scan ∈ scanLinesFrom registry delimiter {} lines, scan.steps.failure = none := by
    intro scan mem
    obtain ⟨_, steps⟩ := Cursor.isReached_default.scans mem
    cases failed : scan.steps.failure with
    | none => rfl
    | some failure => exact absurd (steps.failure failure failed) (failure.not_isReached nonempty)
  refine ⟨length_scanLinesFrom taken, ?_⟩
  intro scan mem
  obtain ⟨⟨written, start⟩, steps⟩ := Cursor.isReached_default.scans mem
  obtain ⟨last, lastMem, finished, next, _⟩ := steps.next (taken scan mem)
  have lastReached := steps.transitions last lastMem
  rw [← LineScan.next_eq] at next
  refine ⟨taken scan mem, start.consistent nonempty,
    fun transition mem => (steps.transitions transition mem).consistent nonempty, ?_, ?_⟩
  · rw [next]
    exact (lastReached.consistent nonempty).congr _ _
  · rw [next]
    obtain ⟨_, _, _, _, step⟩ := lastReached
    exact (Move.of_step step).rests finished

/-- A COPY whose columns, comment and keywords break over lines. -/
theorem scanLinesFrom_consistent_copy :
    [','] ≠ [] ∧
      (scanLinesFrom (.ofTables [("t".toList, ["b".toList])]) [','] {}
        ["COPY t (a".toList, ", /* b".toList, "*/ b) FROM".toList, "STDIN;".toList,
          "1,A".toList]).length = 5 ∧
      ∀ scan ∈ scanLinesFrom (.ofTables [("t".toList, ["b".toList])]) [','] {}
          ["COPY t (a".toList, ", /* b".toList, "*/ b) FROM".toList, "STDIN;".toList,
            "1,A".toList],
        scan.steps.failure = none ∧
        scan.start.Consistent (.ofTables [("t".toList, ["b".toList])]) ∧
        (∀ transition ∈ scan.steps.transitions,
          transition.cursor.Consistent (.ofTables [("t".toList, ["b".toList])])) ∧
        scan.next.Consistent (.ofTables [("t".toList, ["b".toList])]) ∧ scan.next.Rests :=
  ⟨by decide, scanLinesFrom_consistent _ (by decide) _⟩

end SeedCatalog.Scan
