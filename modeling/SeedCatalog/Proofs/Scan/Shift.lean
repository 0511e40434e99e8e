import SeedCatalog.Proofs.Scan.Account

/-!
# Counting lines from another place

No step looks at the number of its line.  A scan whose lines are counted from
another place therefore takes the same steps, and tells the same at lines that
are counted from there.
-/

namespace SeedCatalog

/-- The location with its line a number of lines further on. -/
def Location.shift (count : Int) (location : Location) : Location :=
  { location with line := location.line + count }

namespace Scan

open SeedCatalog.Sql

/-- The cursor with its line a number of lines further on. -/
def Cursor.shift (count : Int) (cursor : Cursor) : Cursor :=
  { cursor with line := cursor.line + count }

/-- The transition with its line a number of lines further on. -/
def Transition.shift (count : Int) (transition : Transition) : Transition :=
  { transition with cursor := transition.cursor.shift count }

/-- The event with its line a number of lines further on. -/
def Event.shift (count : Int) : Event → Event
  | .found text line => .found text (line + count)
  | .warned problem line => .warned problem (line + count)

/-- The account with all its lines a number of lines further on. -/
def Account.shift (count : Int) (account : Account) : Account :=
  ⟨account.events.map (Event.shift count), account.outcome.map (Cursor.shift count)⟩

/-- The warning with its line a number of lines further on. -/
def Warning.shift (count : Int) (warning : Warning) : Warning :=
  { warning with line := warning.line + count }

/-- The report with all its lines a number of lines further on. -/
def Report.shift (count : Int) (report : Report) : Report where
  records := report.records.map fun record => (record.1, record.2.shift count)
  warnings := report.warnings.map (Warning.shift count)
  failure := report.failure

variable {registry : Registry} {delimiter : Text} (count : Int) (cursor : Cursor)

/-! ## Steps -/

namespace Cursor

@[simp]
theorem phase_shift : (cursor.shift count).phase = cursor.phase :=
  rfl

@[simp]
theorem statement_shift : (cursor.shift count).statement = cursor.statement :=
  rfl

variable (statement : Statement) (text : Text)

theorem stepIdle_shift :
    (cursor.shift count).stepIdle text = (cursor.stepIdle text).shift count := by
  unfold stepIdle
  cases insert? text with
  | some rest => rfl
  | none =>
      cases copy? text with
      | some rest => rfl
      | none => cases skipToken? text <;> rfl

theorem stepAfterInsert_shift :
    (cursor.shift count).stepAfterInsert text = (cursor.stepAfterInsert text).shift count := by
  unfold stepAfterInsert
  cases into? text <;> rfl

theorem stepAfterInto_shift :
    (cursor.shift count).stepAfterInto registry text =
      (cursor.stepAfterInto registry text).shift count := by
  unfold stepAfterInto
  cases tableName? text with
  | none => rfl
  | some name =>
      simp only
      cases registry.resolve name.1 <;> rfl

theorem stepAfterCopy_shift :
    (cursor.shift count).stepAfterCopy registry text =
      (cursor.stepAfterCopy registry text).shift count := by
  unfold stepAfterCopy
  cases tableName? text with
  | none => rfl
  | some name =>
      simp only
      cases registry.resolve name.1 <;> rfl

theorem stepColumn_shift (closed : Phase) :
    stepColumn closed (cursor.shift count) statement text =
      (stepColumn closed cursor statement text).shift count := by
  unfold stepColumn
  cases column? text with
  | some column => rfl
  | none =>
      simp only
      split <;> rfl

theorem stepColumnList_shift :
    (cursor.shift count).stepColumnList statement text =
      (cursor.stepColumnList statement text).shift count := by
  unfold stepColumnList
  split
  · exact stepColumn_shift count cursor statement text .beforeValues
  · cases mark? '(' text <;> rfl

theorem stepBeforeFromStdin_shift :
    (cursor.shift count).stepBeforeFromStdin delimiter statement text =
      (cursor.stepBeforeFromStdin delimiter statement text).shift count := by
  unfold stepBeforeFromStdin
  cases fromStdin? text with
  | some rest => rfl
  | none =>
      simp only
      split <;> rfl

theorem stepCopyColumnList_shift :
    (cursor.shift count).stepCopyColumnList delimiter statement text =
      (cursor.stepCopyColumnList delimiter statement text).shift count := by
  unfold stepCopyColumnList
  split
  · exact stepColumn_shift count cursor statement text .beforeFromStdin
  · cases mark? '(' text with
    | some rest => rfl
    | none => exact stepBeforeFromStdin_shift count cursor statement text

theorem stepBeforeValues_shift :
    (cursor.shift count).stepBeforeValues statement text =
      (cursor.stepBeforeValues statement text).shift count := by
  unfold stepBeforeValues
  cases values? text <;> rfl

theorem stepBeforeTuple_shift :
    (cursor.shift count).stepBeforeTuple statement text =
      (cursor.stepBeforeTuple statement text).shift count := by
  unfold stepBeforeTuple
  cases mark? '(' text <;> rfl

theorem stepTuple_shift :
    (cursor.shift count).stepTuple registry statement text =
      (cursor.stepTuple registry statement text).shift count := by
  unfold stepTuple
  cases value? text with
  | some token => rfl
  | none =>
      simp only
      split <;> rfl

theorem stepAfterTuple_shift :
    (cursor.shift count).stepAfterTuple text = (cursor.stepAfterTuple text).shift count := by
  unfold stepAfterTuple
  cases mark? ',' text <;> rfl

theorem stepCopyOptions_shift :
    (cursor.shift count).stepCopyOptions statement text =
      (cursor.stepCopyOptions statement text).shift count := by
  unfold stepCopyOptions
  rw [phase_shift]
  cases (if cursor.phase = .copyOptions then delimiterOption? text else none) with
  | some option => rfl
  | none =>
      simp only
      split <;> rfl

theorem stepDataBlock_shift :
    (cursor.shift count).stepDataBlock registry statement text =
      (cursor.stepDataBlock registry statement text).map (Transition.shift count) := by
  unfold stepDataBlock
  split
  · rfl
  · simp only
    split
    · rfl
    · split <;> rfl

theorem stepComment_shift :
    (cursor.shift count).stepComment text = (cursor.stepComment text).shift count := by
  unfold stepComment
  cases afterComment? text <;> rfl

theorem stepToken_shift :
    (cursor.shift count).stepToken registry delimiter text =
      (cursor.stepToken registry delimiter text).shift count := by
  unfold stepToken
  rw [phase_shift, statement_shift]
  split
  · exact stepIdle_shift count cursor text
  · exact stepAfterInsert_shift count cursor text
  · exact stepAfterInto_shift count cursor text
  · exact stepAfterCopy_shift count cursor text
  · exact stepAfterTuple_shift count cursor text
  · exact stepColumnList_shift count cursor _ text
  · exact stepBeforeValues_shift count cursor _ text
  · exact stepBeforeTuple_shift count cursor _ text
  · exact stepTuple_shift count cursor _ text
  · exact stepCopyColumnList_shift count cursor _ text
  · exact stepBeforeFromStdin_shift count cursor _ text
  · exact stepCopyOptions_shift count cursor _ text
  · exact stepCopyOptions_shift count cursor _ text
  · rfl

/-- A step takes the line along as it is. -/
theorem step_shift :
    (cursor.shift count).step registry delimiter text =
      (cursor.step registry delimiter text).map (Transition.shift count) := by
  unfold step
  rw [phase_shift, statement_shift, stepComment_shift, stepToken_shift]
  split
  · cases cursor.statement with
    | some statement => exact stepDataBlock_shift count cursor statement text
    | none => rfl
  · split
    · rfl
    · split
      · change Except.ok (if cursor.readsLineEnd then _ else _) = _
        split <;> rfl
      · cases commentOpening? text <;> rfl

end Cursor

/-! ## Scans -/

theorem prepareLine_shift (raw : Text) :
    prepareLine (cursor.shift count) raw =
      ((prepareLine cursor raw).1.shift count, (prepareLine cursor raw).2) := by
  refine Prod.ext ?_ rfl
  simp [prepareLine, Cursor.shift, Int.add_right_comm]

theorem Transition.events_shift (transition : Transition) :
    (transition.shift count).events = transition.events.map (Event.shift count) := by
  simp [Transition.events, Transition.shift, Cursor.shift, Event.shift, Function.comp_def]

theorem textAccount_shift (text : Text) :
    textAccount registry delimiter (cursor.shift count) text =
      (textAccount registry delimiter cursor text).shift count := by
  induction cursor, text using takeSteps.induct registry delimiter with
  | case1 cursor text failure taken =>
      have shifted := @Cursor.step_shift registry delimiter count cursor text
      rw [taken] at shifted
      rw [textAccount_of_error taken, textAccount_of_error shifted]
      rfl
  | case2 cursor text transition taken finished =>
      have shifted := @Cursor.step_shift registry delimiter count cursor text
      rw [taken] at shifted
      rw [textAccount_of_needsInput taken finished, textAccount_of_needsInput shifted finished,
        Transition.events_shift]
      rfl
  | case3 cursor text transition taken going _ ih =>
      have going : transition.needsInput = false := by simpa using going
      have shifted := @Cursor.step_shift registry delimiter count cursor text
      rw [taken] at shifted
      rw [textAccount_of_going taken going, textAccount_of_going shifted going,
        Transition.events_shift]
      simp only [Transition.shift, ih, Account.after, Account.shift, List.map_append]

theorem Account.shift_andThen (first : Account) {second : Cursor → Account}
    (shifts : ∀ cursor : Cursor, second (cursor.shift count) = (second cursor).shift count) :
    (first.shift count).andThen second = (first.andThen second).shift count := by
  cases ended : first.outcome with
  | ok cursor =>
      have shifted : (first.shift count).outcome = .ok (cursor.shift count) := by
        simp [Account.shift, ended, Except.map]
      rw [andThen_of_ok ended, andThen_of_ok shifted, shifts]
      simp [Account.shift, Account.after]
  | error failure =>
      have shifted : (first.shift count).outcome = .error failure := by
        simp [Account.shift, ended, Except.map]
      rw [andThen_of_error ended, andThen_of_error shifted]

/-- Counted from another place, the lines of an input tell the same at other lines. -/
theorem account_shift (lines : List Text) :
    account registry delimiter (cursor.shift count) lines =
      (account registry delimiter cursor lines).shift count := by
  induction lines generalizing cursor with
  | nil => rfl
  | cons raw rest ih =>
      rw [account, account, lineAccount, prepareLine_shift, textAccount_shift]
      exact Account.shift_andThen count _ ih

/-- The report of a shifted account has its lines shifted. -/
theorem Account.report_shift (source : Text) (account : Account) :
    (account.shift count).report source = (account.report source).shift count := by
  have records (event : Event) : Event.record? source (event.shift count) =
      (Event.record? source event).map fun record => (record.1, record.2.shift count) := by
    cases event <;> rfl
  have warnings (event : Event) : Event.warning? source (event.shift count) =
      (Event.warning? source event).map (Warning.shift count) := by
    cases event <;> rfl
  simp only [report, shift, Report.shift, List.filterMap_map, Function.comp_def, records, warnings,
    List.map_filterMap, Report.mk.injEq, true_and]
  cases account.outcome <;> rfl

end Scan

end SeedCatalog
