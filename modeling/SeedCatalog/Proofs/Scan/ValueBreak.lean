import SeedCatalog.Proofs.Scan.Token
import SeedCatalog.Proofs.Sql.ValuePrefix

/-!
# Values over line ends

A line may end inside a value or right behind it.  As long as the next line can
still complete the value, the statement is to be kept.  A step keeps it unless
the line breaks off behind the two colons of a cast or behind a closed comment;
there the statement is lost.
-/

namespace SeedCatalog.Scan

open SeedCatalog.Sql

variable {registry : Registry} {delimiter : Text} {cursor : Cursor} {statement : Statement}

/-- A step that keeps the statement: it counts a value, or goes into a comment, or waits for the
next line with a text that is not blank. -/
structure Transition.Keeps (cursor : Cursor) (statement : Statement) (text : Text)
    (transition : Transition) : Prop where
  silent : transition.problem = none
  goesOn :
    (transition.needsInput = false ∧
        (transition.cursor.phase = .tuple ∨ transition.cursor.phase = .afterTuple) ∧
        transition.cursor.statement =
          some { statement with ordinal := statement.ordinal + 1 }) ∨
      (transition.needsInput = false ∧
        transition.cursor = { cursor with phase := .comment, resume := some .tuple }) ∨
      transition = cursor.await (if text.allBlank then [] else text)

/-- A value is counted, and a text that waits is kept whole. -/
theorem stepTuple_keeps (phase : cursor.phase = .tuple) {text : Text}
    (filled : text.allBlank = false)
    (kept : (value? text).isSome = true ∨ valueMayFollow text = true) :
    (cursor.stepTuple registry statement text).Keeps cursor statement text := by
  unfold Cursor.stepTuple
  cases read : value? text with
  | some token =>
      refine ⟨rfl, .inl ⟨rfl, ?_, rfl⟩⟩
      cases last : token.isLast <;> simp [Cursor.advanceWith, phase, last]
  | none =>
      have waits : valueMayFollow text = true := kept.resolve_left (by simp [read])
      simp only [waits, if_true]
      refine ⟨rfl, .inr (.inr ?_)⟩
      rw [filled]
      rfl

/-- A line that the next ones can complete to a value keeps its statement, unless it breaks off
behind the colons of a cast or behind a closed comment. -/
theorem exists_step_keeps (phase : cursor.phase = .tuple)
    (reading : cursor.statement = some statement) {text more : Text} (ended : Ended text)
    (completes : (value? (text ++ more)).isSome = true) :
    ∃ transition, cursor.step registry delimiter text = .ok transition ∧
      (transition.Keeps cursor statement text ∨ BreaksOff text) := by
  have noRows : cursor.phase ≠ .dataBlock := by simp [phase]
  have outside : cursor.phase ≠ .comment := by simp [phase]
  cases blank : text.allBlank with
  | true =>
      refine ⟨_, step_of_allBlank (by rw [phase]; rfl) blank, .inl ⟨rfl, .inr (.inr ?_)⟩⟩
      rw [blank]
      rfl
  | false =>
      have notBlank : ¬text.allBlank = true := by simp [blank]
      cases opening : commentOpening? text with
      | some rest =>
          refine ⟨{ cursor with resume := some cursor.phase }.advance .comment rest, ?_,
            .inl ⟨rfl, .inr (.inl ⟨rfl, ?_⟩)⟩⟩
          · rw [Cursor.step, if_neg noRows, if_neg outside, if_neg notBlank, opening]
          · rw [phase]
            rfl
      | none =>
          have step : cursor.step registry delimiter text =
              .ok (cursor.stepTuple registry statement text) := by
            rw [Cursor.step, if_neg noRows, if_neg outside, if_neg notBlank, opening]
            simp only [Cursor.stepToken, phase, reading]
          refine ⟨_, step, ?_⟩
          rcases value?_cases ended blank completes with read | waits | breaks
          · exact .inl (stepTuple_keeps phase blank (.inl read))
          · exact .inl (stepTuple_keeps phase blank (.inr waits))
          · exact .inr breaks

/-- A literal with a cast and an open comment behind it does not break off, and is kept. -/
theorem exists_step_keeps_comment :
    let statement : Statement := { table := ['t'], columnsOpen := true }
    let cursor : Cursor := { phase := .tuple, statement }
    let text := " 'it''s'::text[] /* one\n".toList
    cursor.phase = .tuple ∧ cursor.statement = some statement ∧ Ended text ∧
      (value? (text ++ "two */, 'b')".toList)).isSome = true ∧ ¬BreaksOff text ∧
      ∃ transition, cursor.step (Registry.ofTables []) ['\t'] text = .ok transition ∧
        transition.Keeps cursor statement text := by
  intro statement cursor text
  have ended : Ended text := by decide +kernel
  have completes : (value? (text ++ "two */, 'b')".toList)).isSome = true := by decide +kernel
  have waits : valueMayFollow text = true := by decide +kernel
  have whole : ¬BreaksOff text := fun breaks => by simp [breaks.unawaited] at waits
  obtain ⟨transition, step, keeps | breaks⟩ :=
    @exists_step_keeps (Registry.ofTables []) ['\t'] cursor statement rfl rfl text _ ended completes
  · exact ⟨rfl, rfl, ended, completes, whole, transition, step, keeps⟩
  · exact absurd breaks whole

/-- A text that breaks off loses its statement. -/
theorem step_of_breaksOff (phase : cursor.phase = .tuple)
    (reading : cursor.statement = some statement) {text : Text} (breaks : BreaksOff text) :
    cursor.step registry delimiter text =
      .ok (cursor.giveUp (some (.unsupportedValue statement.table))) := by
  have notBlank : ¬text.allBlank = true := by simp [breaks.stops.allBlank_eq]
  rw [Cursor.step, if_neg (by simp [phase]), if_neg (by simp [phase]), if_neg notBlank,
    breaks.stops.commentOpening?_eq]
  simp only [Cursor.stepToken, phase, reading, Cursor.stepTuple, breaks.unread, breaks.unawaited,
    Bool.false_eq_true, if_false]

/-- Three lines that could be completed lose their statement, behind the colons of a cast, behind a
closed comment, and behind a comment with an apostrophe. -/
theorem breaks_lose_values :
    let registry := Registry.ofTables [(['t'], [['a'], ['b']])]
    let statement : Statement :=
      { table := ['t'], columns := .ofList [(1, ['a']), (2, ['b'])], columnsOpen := true }
    let cursor : Cursor := { phase := .tuple, statement }
    let loses (text more : Text) : Prop :=
      Ended text ∧ (value? (text ++ more)).isSome = true ∧
        (cursor.step registry ['\t'] text).toOption.bind Transition.problem =
          some (.unsupportedValue ['t'])
    loses "'a'::\n".toList "text)".toList ∧ loses "'a' /* c */\n".toList ")".toList ∧
      loses "12 /* it's */\n".toList ")".toList := by
  intro registry statement cursor loses
  refine ⟨⟨?_, ?_, ?_⟩, ⟨?_, ?_, ?_⟩, ⟨?_, ?_, ?_⟩⟩
  all_goals decide +kernel

end SeedCatalog.Scan
