import SeedCatalog.Proofs.Scan.Token
import SeedCatalog.Proofs.Sql.Completion

/-!
# Column lists and FROM STDIN over line ends

Inside a column list, and behind one that belongs to COPY, a step takes what it expects if the text
begins with it.  Otherwise the text waits for the next line exactly when some further text completes
it, and the statement is given up when none does.
-/

namespace SeedCatalog.Scan

open SeedCatalog.Sql

variable {registry : Registry} {delimiter : Text} {cursor : Cursor} {statement : Statement}
  {text : Text}

/-- A token is taken.  Without one the text waits exactly when something behind it completes one,
and otherwise the statement is given up. -/
structure Transition.TakesOrWaits {α : Type} (begins : α → Text → Prop) (cursor : Cursor)
    (text : Text) (take : α → Transition) (problem : Problem) (transition : Transition) : Prop where
  takes : ∀ token, begins token text → transition = take token
  waits_iff : (∀ token, ¬begins token text) →
    (transition = { cursor, remainder := text, needsInput := true } ↔
      ∃ more token, begins token (text ++ more))
  givesUp : (∀ token, ¬begins token text) → (∀ more token, ¬begins token (text ++ more)) →
    transition =
      { cursor := { cursor with phase := .idle, pending := [], statement := none, resume := none }
        problem :=
          if cursor.statement.any fun statement => !statement.registered then none else some problem
        needsInput := true }

/-- A text that waits is not dropped. -/
theorem await_ne_giveUp (filled : text ≠ []) (problem : Option Problem) :
    cursor.await text ≠ cursor.giveUp problem := by
  intro same
  exact filled (congrArg Transition.remainder same)

section

variable {α : Type} {read? : Text → Option α} {mayFollow : Text → Bool}
  {begins : α → Text → Prop} {take : α → Transition} {problem : Problem}
  {transition : Transition}

/-- A reader that finds a token exactly where the text begins with it, and a test that is true
exactly of the texts that can be completed, make such a transition. -/
theorem takesOrWaits_of_reader
    (reads : ∀ {text token}, read? text = some token ↔ begins token text) (filled : text ≠ [])
    (waits : read? text = none →
      (mayFollow text = true ↔ ∃ more, (read? (text ++ more)).isSome = true))
    (taken : ∀ token, read? text = some token → transition = take token)
    (kept : read? text = none → transition =
      if mayFollow text then cursor.await text else cursor.giveUp (some problem)) :
    transition.TakesOrWaits begins cursor text take problem := by
  have unread (without : ∀ token, ¬begins token text) : read? text = none := by
    rw [Option.eq_none_iff_forall_ne_some]
    intro token read
    exact without token (reads.1 read)
  have completes : (∃ more, (read? (text ++ more)).isSome = true) ↔
      ∃ more token, begins token (text ++ more) := by
    apply exists_congr
    intro more
    rw [Option.isSome_iff_exists]
    exact exists_congr fun token => reads
  constructor
  · intro token here
    exact taken token (reads.2 here)
  · intro without
    change _ = cursor.await text ↔ _
    rw [← completes, ← waits (unread without), kept (unread without)]
    cases mayFollow text with
    | true => simp
    | false =>
        simp only [Bool.false_eq_true, if_false, iff_false]
        exact (await_ne_giveUp filled _).symm
  · intro without never
    have stays : ¬mayFollow text = true := by
      rw [waits (unread without), completes]
      rintro ⟨more, token, there⟩
      exact never more token there
    rw [kept (unread without), if_neg stays]
    rfl

end

/-- The step behind a column: it gets the next position, and behind the last one the list is
closed. -/
def Cursor.takeColumn (cursor : Cursor) (statement : Statement) (closed : Phase)
    (column : ColumnToken) : Transition where
  cursor :=
    { cursor with
      phase := if column.isLast then closed else cursor.phase
      statement := some
        { statement with
          columns := statement.columns.insert (statement.ordinal + 1) column.name
          ordinal := statement.ordinal + 1 } }
  remainder := column.rest

/-- The step behind FROM STDIN: the options follow, and the delimiter is the one that is set. -/
def Cursor.takeFromStdin (cursor : Cursor) (statement : Statement) (delimiter rest : Text) :
    Transition where
  cursor := { cursor with phase := .copyOptions, statement := some { statement with delimiter } }
  remainder := rest

section

variable (ended : Ended text) (filled : text.allBlank = false)
include ended filled

theorem stepColumn_takesOrWaits (closed : Phase) :
    (Cursor.stepColumn closed cursor statement text).TakesOrWaits ColumnToken.Begins cursor text
      (cursor.takeColumn statement closed) (.malformedColumns statement.table) := by
  apply takesOrWaits_of_reader column?_eq_some_iff ended.ne_nil (columnMayFollow_iff ended filled)
  · intro column read
    rw [Cursor.stepColumn, read]
    rfl
  · intro unread
    rw [Cursor.stepColumn, unread]

theorem stepBeforeFromStdin_takesOrWaits :
    (cursor.stepBeforeFromStdin delimiter statement text).TakesOrWaits BeginsFromStdin cursor text
      (cursor.takeFromStdin statement delimiter) (.fromStdinMissing statement.table) := by
  apply takesOrWaits_of_reader fromStdin?_eq_some_iff ended.ne_nil
    (fromStdinMayFollow_iff ended filled)
  · intro rest read
    rw [Cursor.stepBeforeFromStdin, read]
    rfl
  · intro unread
    rw [Cursor.stepBeforeFromStdin, unread]

end

/-- In a column list, and before FROM STDIN, a line that ends there takes the token that it begins
with, or waits exactly when a further text completes it to one. -/
theorem step_takesOrWaits (reading : cursor.statement = some statement) (ended : Ended text)
    (filled : text.allBlank = false) (noComment : commentOpening? text = none) :
    (∀ closed, Closes cursor.phase closed → statement.columnsOpen = true →
      ∃ transition, cursor.step registry delimiter text = .ok transition ∧
        transition.TakesOrWaits ColumnToken.Begins cursor text
          (cursor.takeColumn statement closed) (.malformedColumns statement.table)) ∧
      (cursor.phase = .beforeFromStdin →
        ∃ transition, cursor.step registry delimiter text = .ok transition ∧
          transition.TakesOrWaits BeginsFromStdin cursor text
            (cursor.takeFromStdin statement delimiter) (.fromStdinMissing statement.table)) := by
  have notBlank : ¬text.allBlank = true := by simp [filled]
  constructor
  · intro closed closes isOpen
    have noRows : cursor.phase ≠ .dataBlock := by
      rintro same
      cases same ▸ closes
    exists Cursor.stepColumn closed cursor statement text
    constructor
    · rw [Cursor.step, if_neg noRows, if_neg closes.ne_comment, if_neg notBlank, noComment]
      exact congrArg Except.ok (stepToken_eq_stepColumn closes reading isOpen text)
    · exact stepColumn_takesOrWaits ended filled closed
  · intro phase
    exists cursor.stepBeforeFromStdin delimiter statement text
    constructor
    · rw [Cursor.step, if_neg (by simp [phase]), if_neg (by simp [phase]), if_neg notBlank,
        noComment]
      simp only [Cursor.stepToken, phase, reading]
    · exact stepBeforeFromStdin_takesOrWaits ended filled

/-- A quoted column with a comma, a doubled quote and a parenthesis in it waits for its end. -/
theorem step_takesOrWaits_quoted :
    let statement : Statement := { table := ['t'], columnsOpen := true, registered := false }
    let cursor : Cursor := { phase := .copyColumnList, statement }
    let text : Text := " \"a,\"\"b)\n".toList
    cursor.step (Registry.ofTables []) ['\t'] text = .ok (cursor.await text) := by
  intro statement cursor text
  have step : ∃ transition, cursor.step (Registry.ofTables []) ['\t'] text = .ok transition ∧
      transition.TakesOrWaits ColumnToken.Begins cursor text
        (cursor.takeColumn statement .beforeFromStdin) (.malformedColumns ['t']) :=
    (step_takesOrWaits rfl (by decide) (by decide) (by decide)).1 _ .copyColumns rfl
  rcases step with ⟨transition, goes, takesOrWaits⟩
  have without : ∀ token, ¬ColumnToken.Begins token text := by
    intro token begins
    have unread : column? text = none := by rfl
    cases unread.symm.trans (column?_eq_some_iff.2 begins)
  have completed : ∃ more token, ColumnToken.Begins token (text ++ more) :=
    ⟨"\")".toList, ⟨"\"a,\"\"b)\n\"".toList, true, []⟩, column?_eq_some_iff.1 rfl⟩
  rw [goes, (takesOrWaits.waits_iff without).2 completed]
  rfl

end SeedCatalog.Scan
