import SeedCatalog.Proofs.Scan.Account
import SeedCatalog.Proofs.Scan.Token
import SeedCatalog.Proofs.Sql.Comment

/-!
# Steps over block comments

Outside the rows of a COPY, a block comment that stands before a token is passed
in two steps.  The first of them sets the phase aside, and the second takes it
up again, so that the comment leaves no trace.
-/

namespace SeedCatalog.Scan

open SeedCatalog.Sql Text

variable {registry : Registry} {delimiter : Text} {cursor : Cursor}

/-- A comment sets the phase aside. -/
theorem textAccount_openComment (noRows : cursor.phase ≠ .dataBlock)
    (outside : cursor.phase ≠ .comment) {lead : Text} (blank : lead.allBlank = true)
    (rest : Text) :
    textAccount registry delimiter cursor (lead ++ '/' :: '*' :: rest) =
      textAccount registry delimiter
        { cursor with phase := .comment, resume := some cursor.phase } rest := by
  have notBlank : ¬(lead ++ '/' :: '*' :: rest).allBlank = true := by
    simp [allBlank, isBlank]
  have step : cursor.step registry delimiter (lead ++ '/' :: '*' :: rest) =
      .ok ({ cursor with resume := some cursor.phase }.advance .comment rest) := by
    rw [Cursor.step, if_neg noRows, if_neg outside, if_neg notBlank, commentOpening?_eq blank]
  exact textAccount_of_silent step rfl rfl

/-- The first closing marker takes the phase up again. -/
theorem textAccount_closeComment {phase : Phase} (inside : cursor.phase = .comment)
    (resume : cursor.resume = some phase) {body : Text} (first : ClosesFirst body) (rest : Text) :
    textAccount registry delimiter cursor (body ++ '*' :: '/' :: rest) =
      textAccount registry delimiter { cursor with phase, resume := none } rest := by
  have noRows : cursor.phase ≠ .dataBlock := by simp [inside]
  have step : cursor.step registry delimiter (body ++ '*' :: '/' :: rest) =
      .ok ({ cursor with resume := none }.advance phase rest) := by
    rw [Cursor.step, if_neg noRows, if_pos inside, Cursor.stepComment, afterComment?_eq first]
    simp [resume]
  exact textAccount_of_silent step rfl rfl

/-- A line of a comment that goes on is passed over. -/
theorem textAccount_insideComment (inside : cursor.phase = .comment) {text : Text}
    (first : ClosesFirst text) :
    textAccount registry delimiter cursor text = .rest { cursor with pending := [] } := by
  have noRows : cursor.phase ≠ .dataBlock := by simp [inside]
  have step : cursor.step registry delimiter text = .ok (cursor.await []) := by
    rw [Cursor.step, if_neg noRows, if_pos inside, Cursor.stepComment,
      first.afterComment?_eq_none]
  exact textAccount_of_needsInput step rfl

/-- A whole comment leaves no trace. -/
theorem textAccount_comment (noRows : cursor.phase ≠ .dataBlock)
    (outside : cursor.phase ≠ .comment) (noResume : cursor.resume = none) {lead body : Text}
    (blank : lead.allBlank = true) (first : ClosesFirst body) (rest : Text) :
    textAccount registry delimiter cursor (lead ++ (blockComment body ++ rest)) =
      textAccount registry delimiter cursor rest := by
  have same : { cursor with phase := cursor.phase, resume := none } = cursor := by
    rw [← noResume]
  rw [blockComment_append, textAccount_openComment noRows outside blank,
    textAccount_closeComment rfl rfl first]
  exact congrArg (textAccount registry delimiter · rest) same

/-- A blank line tells nothing, where its end means nothing. -/
theorem textAccount_blank (tokens : cursor.phase.readsTokens = true) {text : Text}
    (blank : text.allBlank = true) :
    textAccount registry delimiter cursor text = .rest { cursor with pending := [] } :=
  textAccount_of_needsInput (step_of_allBlank tokens blank) rfl

/-! ## Where the end of a line means something -/

theorem Phase.readsTokens_of_not {cursor : Cursor} (noRows : cursor.phase ≠ .dataBlock)
    (outside : cursor.phase ≠ .comment) (unread : cursor.readsLineEnd = false) :
    cursor.phase.readsTokens = true := by
  unfold Cursor.readsLineEnd at unread
  cases phase : cursor.phase <;> simp_all [Phase.readsTokens]

theorem not_readsLineEnd_stepCopyOptions {statement : Statement} {text : Text}
    (finished : (cursor.stepCopyOptions statement text).needsInput = true) :
    (cursor.stepCopyOptions statement text).cursor.readsLineEnd = false := by
  unfold Cursor.stepCopyOptions at finished ⊢
  generalize (if cursor.phase = .copyOptions then delimiterOption? text else none) = option
    at finished ⊢
  cases option with
  | some option => contradiction
  | none =>
      simp only
      split <;> rfl

/-- The options of a COPY end with their line: no step leaves them to the next one. -/
theorem Cursor.not_readsLineEnd_of_step {text : Text} {transition : Transition}
    (taken : cursor.step registry delimiter text = .ok transition)
    (finished : transition.needsInput = true) : transition.cursor.readsLineEnd = false := by
  cases reads : cursor.readsLineEnd with
  | false =>
      cases Move.of_step taken with
      | giveUp => rfl
      | pause => exact reads
      | stay => exact reads
      | wait => exact reads
      | beginRows => rfl
      | emptyRow phase => simp [readsLineEnd, await, phase]
      | row phase => simp [readsLineEnd, await, phase]
      | _ => contradiction
  | true =>
      have phase : cursor.phase = .copyOptions ∨ cursor.phase = .afterDelimiter := by
        simpa [readsLineEnd] using reads
      have noRows : cursor.phase ≠ .dataBlock := by rcases phase with phase | phase <;> simp [phase]
      have outside : cursor.phase ≠ .comment := by rcases phase with phase | phase <;> simp [phase]
      have options : cursor.stepToken registry delimiter text = transition := by
        rw [step, if_neg noRows, if_neg outside, reads, if_pos rfl] at taken
        split at taken
        · exact Except.ok.inj taken
        · split at taken
          · cases taken
            contradiction
          · exact Except.ok.inj taken
      subst options
      cases reading : cursor.statement with
      | none =>
          have givenUp : cursor.stepToken registry delimiter text = cursor.giveUp none := by
            rcases phase with phase | phase <;> simp only [stepToken, phase, reading]
          rw [givenUp]
          rfl
      | some statement =>
          have read : cursor.stepToken registry delimiter text =
              cursor.stepCopyOptions statement text := by
            rcases phase with phase | phase <;> simp only [stepToken, phase, reading]
          rw [read] at finished ⊢
          exact not_readsLineEnd_stepCopyOptions finished

/-- No scan of a text ends among the options of a COPY. -/
theorem not_readsLineEnd_of_textAccount {cursor next : Cursor} {text : Text}
    (ended : (textAccount registry delimiter cursor text).outcome = .ok next) :
    next.readsLineEnd = false := by
  obtain ⟨last, rest, transition, -, taken, finished, rfl⟩ :=
    exists_lastStep (P := fun _ => True) (fun _ _ _ _ _ => trivial) trivial ended
  exact Cursor.not_readsLineEnd_of_step taken finished

end SeedCatalog.Scan
