import SeedCatalog.Proofs.Scan.Comment
import SeedCatalog.Proofs.Scan.File
import SeedCatalog.Proofs.Sql.LineFeed
import SeedCatalog.Proofs.Text.LineEnd

/-!
# Line ends make no difference

A script is scanned alike however its lines are ended, whether it is held as a
text or read from a file.  One more line end behind it is an empty line: a text
that waits there waits again.  Only a line comment that is found in the waiting
text when it is read again may change that.
-/

namespace SeedCatalog.Scan

open SeedCatalog.Sql Text

variable {registry : Registry} {delimiter : Text} {cursor : Cursor} {text : Text}

/-! ## A text that waits -/

/-- A step waits with a text only in a phase that keeps texts. -/
theorem exists_waits_of_await (filled : text ≠ [])
    (waits : cursor.step registry delimiter text = .ok (cursor.await text)) :
    ∃ statement, cursor.statement = some statement ∧ Waits statement cursor.phase ∧
      text.allBlank = false := by
  have move := Move.of_step waits
  generalize same : cursor.await text = transition at move
  have remainder : transition.remainder = text := by rw [← same]; rfl
  have finished : transition.needsInput = true := by rw [← same]; rfl
  cases move with
  | wait reading phase filled => exact ⟨_, reading, phase, filled⟩
  | giveUp | pause | stay | beginRows | emptyRow | row => exact absurd remainder.symm filled
  | _ => contradiction

/-- No comment opens in front of a text that waits. -/
theorem commentOpening?_of_await (noRows : cursor.phase ≠ .dataBlock)
    (outside : cursor.phase ≠ .comment) (solid : text.allBlank = false)
    (waits : cursor.step registry delimiter text = .ok (cursor.await text)) :
    commentOpening? text = none ∧ cursor.stepToken registry delimiter text = cursor.await text := by
  rw [Cursor.step, if_neg noRows, if_neg outside, solid, if_neg (by simp)] at waits
  split at waits
  · have going := congrArg Transition.needsInput (Except.ok.inj waits)
    contradiction
  · exact ⟨‹_›, Except.ok.inj waits⟩

theorem ne_await_of_going {transition : Transition} (going : transition.needsInput = false) :
    transition ≠ cursor.await text := by
  rintro rfl
  contradiction

section

variable (statement : Statement) (filled : text ≠ [])
include filled

theorem stepColumn_append_feed {closed : Phase}
    (waits : Cursor.stepColumn closed cursor statement text = cursor.await text) :
    Cursor.stepColumn closed cursor statement (text ++ ['\n']) = cursor.await (text ++ ['\n']) := by
  rw [Cursor.stepColumn] at waits ⊢
  rw [column?_append_feed, columnMayFollow_append_feed]
  cases read : column? text with
  | some column =>
      rw [read] at waits
      exact absurd waits (ne_await_of_going rfl)
  | none =>
      simp only [read] at waits
      split at waits
      · rename_i follows
        simp [follows]
      · exact absurd (congrArg Transition.remainder waits).symm filled

theorem stepBeforeFromStdin_append_feed
    (waits : cursor.stepBeforeFromStdin delimiter statement text = cursor.await text) :
    cursor.stepBeforeFromStdin delimiter statement (text ++ ['\n']) =
      cursor.await (text ++ ['\n']) := by
  rw [Cursor.stepBeforeFromStdin] at waits ⊢
  rw [fromStdin?_append_feed, fromStdinMayFollow_append_feed]
  cases read : fromStdin? text with
  | some rest =>
      rw [read] at waits
      exact absurd waits (ne_await_of_going rfl)
  | none =>
      simp only [read] at waits
      split at waits
      · rename_i follows
        simp [follows]
      · exact absurd (congrArg Transition.remainder waits).symm filled

theorem stepTuple_append_feed
    (waits : cursor.stepTuple registry statement text = cursor.await text) :
    cursor.stepTuple registry statement (text ++ ['\n']) = cursor.await (text ++ ['\n']) := by
  rw [Cursor.stepTuple] at waits ⊢
  rw [value?_append_feed, valueMayFollow_append_feed]
  cases read : value? text with
  | some token =>
      rw [read] at waits
      exact absurd waits (ne_await_of_going rfl)
  | none =>
      simp only [read] at waits
      split at waits
      · rename_i follows
        simp [follows]
      · exact absurd (congrArg Transition.remainder waits).symm filled

end

/-- A text that waits for its next line waits again with a line feed behind it. -/
theorem step_append_feed (filled : text ≠ [])
    (waits : cursor.step registry delimiter text = .ok (cursor.await text)) :
    cursor.step registry delimiter (text ++ ['\n']) = .ok (cursor.await (text ++ ['\n'])) := by
  obtain ⟨statement, reading, phase, solid⟩ := exists_waits_of_await filled waits
  have noRows : cursor.phase ≠ .dataBlock := fun same => by rw [same] at phase; cases phase
  have outside : cursor.phase ≠ .comment := fun same => by rw [same] at phase; cases phase
  obtain ⟨noComment, waits⟩ := commentOpening?_of_await noRows outside solid waits
  rw [Cursor.step, if_neg noRows, if_neg outside, allBlank_append_feed, solid, if_neg (by simp),
    commentOpening?_append_feed, noComment, Option.map_none]
  simp only [Except.ok.injEq]
  generalize inPhase : cursor.phase = place at phase
  cases phase with
  | columns isOpen =>
      simp only [Cursor.stepToken, inPhase, reading, Cursor.stepColumnList, isOpen, if_true]
        at waits ⊢
      exact stepColumn_append_feed statement filled waits
  | copyColumns =>
      simp only [Cursor.stepToken, inPhase, reading, Cursor.stepCopyColumnList] at waits ⊢
      split at waits
      · rename_i isOpen
        rw [if_pos isOpen]
        exact stepColumn_append_feed statement filled waits
      · rename_i notOpen
        rw [if_neg notOpen, mark?_append_feed]
        cases read : mark? '(' text with
        | some rest =>
            rw [read] at waits
            exact absurd waits (ne_await_of_going rfl)
        | none =>
            rw [read] at waits
            exact stepBeforeFromStdin_append_feed statement filled waits
  | fromStdin =>
      simp only [Cursor.stepToken, inPhase, reading] at waits ⊢
      exact stepBeforeFromStdin_append_feed statement filled waits
  | value =>
      simp only [Cursor.stepToken, inPhase, reading] at waits ⊢
      exact stepTuple_append_feed statement filled waits

/-! ## Between two lines -/

/-- A cursor between two lines, where the end of a line has been read.  A text waits because a step
on it waits. -/
structure Cursor.Paused (registry : Registry) (delimiter : Text) (cursor : Cursor) : Prop where
  settled : cursor.Settled registry
  unread : cursor.readsLineEnd = false
  waits : cursor.pending ≠ [] →
    { cursor with pending := [] }.step registry delimiter cursor.pending =
      .ok ({ cursor with pending := [] }.await cursor.pending)

theorem Cursor.paused_default (registry : Registry) : Cursor.Paused registry delimiter {} :=
  ⟨Cursor.settled_default registry, rfl, fun waiting => absurd rfl waiting⟩

/-- Within a line no text waits. -/
theorem Move.pending_eq {transition : Transition}
    (move : Move registry delimiter cursor text transition) (nothing : cursor.pending = []) :
    transition.cursor.pending = [] := by
  cases move with
  | giveUp => rfl
  | _ => exact nothing

/-- A rule that finishes the line with a text waits with the whole of it. -/
theorem Move.eq_await {transition : Transition}
    (move : Move registry delimiter cursor text transition)
    (finished : transition.needsInput = true) (waiting : transition.remainder ≠ []) :
    transition = cursor.await text := by
  cases move with
  | wait => rfl
  | giveUp | pause | stay | beginRows | emptyRow | row => exact absurd rfl waiting
  | _ => contradiction

/-- From a consistent cursor the steps on a text lead to a cursor between two lines. -/
theorem exists_textAccount_paused (consistent : cursor.Consistent registry)
    (nothing : cursor.pending = []) (nonempty : delimiter ≠ []) (text : Text) :
    ∃ next, (textAccount registry delimiter cursor text).outcome = .ok next ∧
      next.Paused registry delimiter := by
  obtain ⟨next, ended, settled, -⟩ := exists_textAccount_outcome consistent nonempty text
  refine ⟨next, ended, settled, not_readsLineEnd_of_textAccount ended, fun waiting => ?_⟩
  obtain ⟨last, rest, transition, nothing, taken, finished, rfl⟩ :=
    exists_lastStep (P := fun cursor => cursor.pending = [])
      (fun _ _ _ nothing taken => (Move.of_step taken).pending_eq nothing) nothing ended
  have same := (Move.of_step taken).eq_await finished waiting
  subst same
  have unchanged : { last with pending := [] } = last := by rw [← nothing]
  change { last with pending := [] }.step registry delimiter rest =
    .ok ({ last with pending := [] }.await rest)
  rw [unchanged, taken]

/-- Every line is scanned, and the scan ends between two lines. -/
theorem exists_account_paused (paused : cursor.Paused registry delimiter)
    (nonempty : delimiter ≠ []) (lines : List Text) :
    ∃ next, (account registry delimiter cursor lines).outcome = .ok next ∧
      next.Paused registry delimiter := by
  induction lines generalizing cursor with
  | nil => exact ⟨cursor, rfl, paused⟩
  | cons raw rest ih =>
      have start : (prepareLine cursor raw).1.Consistent registry :=
        paused.settled.consistent.congr _ _
      obtain ⟨middle, first, paused⟩ : ∃ middle,
          (lineAccount registry delimiter cursor raw).outcome = .ok middle ∧
            middle.Paused registry delimiter :=
        exists_textAccount_paused start rfl nonempty _
      obtain ⟨next, ended, paused⟩ := ih paused
      refine ⟨next, ?_, paused⟩
      rw [account, Account.andThen_of_ok first, Account.outcome_after, ended]

/-! ## An empty line -/

/-- An empty row of a COPY holds no field. -/
theorem exists_step_emptyRow (rows : cursor.phase = .dataBlock) :
    ∃ transition, cursor.step registry delimiter [] = .ok transition ∧
      transition.needsInput = true ∧ transition.events = [] := by
  rw [Cursor.step, if_pos rows]
  cases cursor.statement with
  | none => exact ⟨_, rfl, rfl, by simp [Cursor.giveUp, Transition.events]⟩
  | some statement => exact ⟨_, rfl, rfl, rfl⟩

/-- A comment goes on behind an empty line. -/
theorem step_comment_newline (inside : cursor.phase = .comment) :
    cursor.step registry delimiter ['\n'] = .ok (cursor.await []) := by
  rw [Cursor.step, if_neg (by simp [inside]), if_pos inside]
  rfl

/-- What an empty line adds to the text that waits. -/
theorem prepareLine_newline (cursor : Cursor) :
    prepareLine cursor ['\n'] =
      ({ cursor with pending := [] }.shift 1,
        if cursor.phase = .dataBlock then []
        else dropLineComment cursor.pending (cursor.phase = .comment) ++ ['\n']) := by
  have empty : dropLineEnd ['\n'] = [] := by decide +kernel
  simp [prepareLine, empty, Cursor.shift]

/-- An empty line tells nothing, if no line comment begins in the text that waits. -/
theorem events_lineAccount_newline (paused : cursor.Paused registry delimiter)
    (kept : dropLineComment cursor.pending = cursor.pending) :
    (lineAccount registry delimiter cursor ['\n']).events = [] := by
  obtain ⟨settled, unread, waits⟩ := paused
  rw [lineAccount, prepareLine_newline]
  generalize same : ({ cursor with pending := [] }.shift 1 : Cursor) = start
  have phase : start.phase = cursor.phase := by rw [← same]; rfl
  by_cases rows : cursor.phase = .dataBlock
  · have rows' : start.phase = .dataBlock := phase.trans rows
    obtain ⟨transition, taken, finished, silent⟩ := exists_step_emptyRow rows'
    rw [if_pos rows, textAccount_of_needsInput taken finished]
    exact silent
  rw [if_neg rows]
  by_cases inside : cursor.phase = .comment
  · have nothing : cursor.pending = [] := by
      by_contra waiting
      obtain ⟨keeps, -⟩ := settled.rests waiting
      rw [inside] at keeps
      contradiction
    have taken : start.step registry delimiter ['\n'] = .ok (start.await []) :=
      step_comment_newline (phase.trans inside)
    simp only [nothing, inside, decide_true]
    exact congrArg Account.events (textAccount_of_needsInput taken rfl)
  simp only [inside, decide_false, kept]
  by_cases waiting : cursor.pending = []
  · have tokens : start.phase.readsTokens = true := by
      rw [phase]
      exact Phase.readsTokens_of_not rows inside unread
    have blank : Text.allBlank ['\n'] = true := rfl
    rw [waiting]
    exact congrArg Account.events (textAccount_blank tokens blank)
  · have again := step_append_feed waiting (waits waiting)
    rw [← same, textAccount_of_needsInput (by rw [Cursor.step_shift, again]; rfl) rfl]
    rfl

/-! ## The report -/

/-- Lines that are the same up to their ends are reported alike. -/
theorem scanLines_congr {first second : List Text}
    (same : first.map dropLineEnd = second.map dropLineEnd) (source : Text) :
    scanLines registry delimiter source first = scanLines registry delimiter source second := by
  rw [scanLines_eq_report, scanLines_eq_report, account_congr same]

/-- An empty line at the end adds nothing to the report, if no line comment begins in the text that
waits there. -/
theorem scanLines_append_newline (nonempty : delimiter ≠ []) (source : Text) {lines : List Text}
    (kept : dropLineComment (cursorBehind registry delimiter lines).pending =
      (cursorBehind registry delimiter lines).pending) :
    scanLines registry delimiter source (lines ++ [['\n']]) =
      scanLines registry delimiter source lines := by
  obtain ⟨next, ended, paused⟩ :=
    exists_account_paused (Cursor.paused_default registry) nonempty lines
  rw [cursorBehind_eq ended] at kept
  have silent := events_lineAccount_newline paused kept
  obtain ⟨last, outcome, -⟩ := exists_lineAccount_outcome paused.settled nonempty ['\n']
  rw [scanLines_eq_report, scanLines_eq_report, account_append, Account.andThen_of_ok ended,
    account, Account.andThen_of_ok outcome, silent]
  simp [Account.report, account, Account.rest, ended]

/-- A file that holds a text in UTF-8, however its lines are ended, is scanned as the text. -/
theorem scanFile_write (nonempty : delimiter ≠ []) (source : Text) (noReturn : '\r' ∉ text)
    {lineEnd : LineEnd} {view : FileView} {path : Path} {name : Text}
    (found : Encoding.find name = .ok .utf8)
    (read : view.readBytes path = .ok (Utf8.encode (lineEnd.write text))) :
    scanFile view registry delimiter name source path =
      ⟨scanText registry delimiter source text, none⟩ := by
  have decoded := Encoding.decode_utf8_encode (lineEnd.write text)
  rw [scanFile_of_readBytes registry nonempty source found read, scanBytes_of_decode decoded,
    lineEnd.unifyLineEnds_write noReturn]
  rfl

/-- A text is reported alike however its lines are ended, in memory or in a file.  One more line
feed behind it changes nothing, unless it ends with one and a line comment begins in what is kept of
it. -/
theorem scanText_lineEnds (registry : Registry) {delimiter : Text} (nonempty : delimiter ≠ [])
    (source : Text) {text : Text} (noReturn : '\r' ∉ text) :
    let report := scanText registry delimiter source text
    report.failure = none ∧
      scanText registry delimiter source (LineEnd.returnFeed.write text) = report ∧
      (∀ (lineEnd : LineEnd) (view : FileView) (path : Path) (name : Text),
        Encoding.find name = .ok .utf8 →
        view.readBytes path = .ok (Utf8.encode (lineEnd.write text)) →
        scanFile view registry delimiter name source path = ⟨report, none⟩) ∧
      ((text.getLast? = some '\n' →
          dropLineComment (cursorBehind registry delimiter text.lines).pending =
            (cursorBehind registry delimiter text.lines).pending) →
        scanText registry delimiter source (text ++ ['\n']) = report) := by
  intro report
  refine ⟨failure_scanLines nonempty source _,
    scanLines_congr (map_dropLineEnd_lines_returnFeed text) source,
    fun lineEnd view path name found read => scanFile_write nonempty source noReturn found read,
    fun kept => ?_⟩
  by_cases filled : text = []
  · subst filled
    have nothing : dropLineComment (cursorBehind registry delimiter []).pending =
        (cursorBehind registry delimiter []).pending := rfl
    exact scanLines_append_newline nonempty source nothing
  by_cases ended : text.getLast? = some '\n'
  · rw [scanText, lines_append_feed (.inr ended)]
    exact scanLines_append_newline nonempty source (kept ended)
  · exact scanLines_congr (map_dropLineEnd_lines_append filled ended) source

/-- A literal runs over two lines, and behind a value on the last line a comment is left open; the
lines end with carriage returns in the file. -/
theorem scanText_lineEnds_truncated :
    let registry := Registry.ofTables [("menu_node".toList, ["label".toList])]
    let text := "INSERT INTO menu_node (label) VALUES ('A\nB'), ('C' -- c\n/* d\n".toList
    let path := Path.ofText "menu.sql".toList
    let view : FileView :=
      ⟨FileTree.empty.plant ["menu.sql".toList]
        (.file (Utf8.encode (LineEnd.carriageReturn.write text))), [], []⟩
    ['\t'] ≠ [] ∧ '\r' ∉ text ∧ text.getLast? = some '\n' ∧
      (cursorBehind registry ['\t'] (lines text)).pending = "'C' \n/* d\n".toList ∧
      scanText registry ['\t'] "f".toList (text ++ ['\n']) =
        ⟨[("A\nB".toList, ⟨"f".toList, 2⟩)], [], none⟩ ∧
      scanFile view registry ['\t'] "UTF-8".toList "f".toList path =
        ⟨⟨[("A\nB".toList, ⟨"f".toList, 2⟩)], [], none⟩, none⟩ := by
  intro registry text path view
  have nonempty : ['\t'] ≠ [] := by decide
  have noReturn : '\r' ∉ text := by decide +kernel
  have pending : (cursorBehind registry ['\t'] (lines text)).pending =
      "'C' \n/* d\n".toList := by
    decide +kernel
  have report : scanText registry ['\t'] "f".toList text =
      ⟨[("A\nB".toList, ⟨"f".toList, 2⟩)], [], none⟩ := by decide +kernel
  have found : Encoding.find "UTF-8".toList = .ok .utf8 := by decide +kernel
  have read : view.readBytes path =
      .ok (Utf8.encode (LineEnd.carriageReturn.write text)) := by decide +kernel
  obtain ⟨-, -, file, further⟩ := scanText_lineEnds registry nonempty "f".toList noReturn
  refine ⟨nonempty, noReturn, by decide +kernel, pending, ?_, ?_⟩
  · rw [further fun _ => by rw [pending]; decide +kernel]
    exact report
  · rw [file .carriageReturn view path _ found read, report]

/-- The quotation mark behind the five hides the hyphens of the first line until the text that waits
is read again, and one more line feed makes the statement go wrong. -/
theorem lineFeed_misleads :
    let registry := Registry.ofTables [("t".toList, ["b".toList])]
    let text := "INSERT INTO t (a, b) VALUES (5\", 'x' /* a */ -- */ /* b\n".toList
    '\r' ∉ text ∧ scanText registry ['\t'] "f".toList text = ⟨[], [], none⟩ ∧
      scanText registry ['\t'] "f".toList (text ++ ['\n']) =
        ⟨[], [⟨"f".toList, 2, .unsupportedValue "t".toList⟩], none⟩ := by
  intro registry text
  refine ⟨?_, ?_, ?_⟩
  all_goals decide +kernel

end SeedCatalog.Scan
