import SeedCatalog.Proofs.Scan.Consistency
import SeedCatalog.Proofs.Scan.Shift

/-!
# Inputs that are cut between statements

Between two statements the cursor keeps nothing but the number of its line: no
statement, no interrupted phase, and no text that waits.  What stands behind
such a place is therefore scanned as an input of its own.
-/

namespace SeedCatalog.Scan

variable {registry : Registry} {delimiter : Text}

/-- A cursor between two lines: its parts belong together, and a text waits only where a line may
break. -/
structure Cursor.Settled (registry : Registry) (cursor : Cursor) : Prop where
  consistent : cursor.Consistent registry
  rests : cursor.Rests

/-- The report on two parts of an input, of which the second is scanned after the first. -/
def Report.followedBy (first second : Report) : Report :=
  ⟨first.records ++ second.records, first.warnings ++ second.warnings, second.failure⟩

namespace Cursor

variable {cursor : Cursor} {text : Text}

theorem settled_default (registry : Registry) : Settled registry {} :=
  ⟨consistent_default, fun waiting => absurd rfl waiting⟩

/-- Between statements a cursor keeps nothing but its line. -/
theorem Settled.eq_of_idle (settled : cursor.Settled registry) (idle : cursor.phase = .idle) :
    cursor = { line := cursor.line } := by
  have precedes : cursor.phase.precedesTable = true := by rw [idle]; rfl
  have absent := settled.consistent.statement_eq_none precedes
  have noComment := settled.consistent.resume_eq_none (Consistent.phase_ne_comment precedes)
  have nothing : cursor.pending = [] := by
    by_contra waiting
    obtain ⟨keeps, _⟩ := settled.rests waiting
    rw [idle] at keeps
    contradiction
  obtain ⟨phase, line, pending, statement, resume⟩ := cursor
  cases idle
  cases absent
  cases noComment
  cases nothing
  rfl

/-- At a consistent cursor a step can be taken, and leads to a consistent cursor. -/
theorem Consistent.exists_step (consistent : cursor.Consistent registry)
    (nonempty : delimiter ≠ []) (text : Text) :
    ∃ transition, cursor.step registry delimiter text = .ok transition ∧
      transition.cursor.Consistent registry := by
  cases taken : cursor.step registry delimiter text with
  | error failure =>
      obtain ⟨statement, reading, cut⟩ := delimiter_eq_nil_of_step_eq_error taken
      exact absurd cut (consistent.fits statement reading).separates
  | ok transition => exact ⟨transition, rfl, consistent.of_move nonempty (.of_step taken)⟩

end Cursor

/-- No rule moves the line. -/
theorem Move.line_eq {cursor : Cursor} {text : Text} {transition : Transition}
    (move : Move registry delimiter cursor text transition) :
    transition.cursor.line = cursor.line := by
  cases move <;> rfl

/-! ## Where a scan ends -/

/-- From a consistent cursor the steps on a text lead to a cursor between two lines. -/
theorem exists_textAccount_outcome {cursor : Cursor} (consistent : cursor.Consistent registry)
    (nonempty : delimiter ≠ []) (text : Text) :
    ∃ next, (textAccount registry delimiter cursor text).outcome = .ok next ∧
      next.Settled registry ∧ next.line = cursor.line := by
  induction cursor, text using takeSteps.induct registry delimiter with
  | case1 cursor text failure taken =>
      obtain ⟨transition, taken', _⟩ := consistent.exists_step nonempty text
      rw [taken] at taken'
      contradiction
  | case2 cursor text transition taken finished =>
      have move := Move.of_step taken
      refine ⟨transition.next, ?_, ⟨?_, move.rests finished⟩, move.line_eq⟩
      · rw [textAccount_of_needsInput taken finished]
        rfl
      · exact (consistent.of_move nonempty move).congr _ _
  | case3 cursor text transition taken going _ ih =>
      have move := Move.of_step taken
      obtain ⟨next, ended, settled, line⟩ := ih (consistent.of_move nonempty move)
      refine ⟨next, ?_, settled, line.trans move.line_eq⟩
      rw [textAccount_of_going taken (by simpa using going), Account.outcome_after, ended]

theorem exists_lineAccount_outcome {cursor : Cursor} (settled : cursor.Settled registry)
    (nonempty : delimiter ≠ []) (raw : Text) :
    ∃ next, (lineAccount registry delimiter cursor raw).outcome = .ok next ∧
      next.Settled registry ∧ next.line = cursor.line + 1 :=
  exists_textAccount_outcome (settled.consistent.congr _ _) nonempty _

/-- Every line is scanned, and the scan ends between two lines. -/
theorem exists_account_outcome {cursor : Cursor} (settled : cursor.Settled registry)
    (nonempty : delimiter ≠ []) (lines : List Text) :
    ∃ next, (account registry delimiter cursor lines).outcome = .ok next ∧
      next.Settled registry ∧ next.line = cursor.line + lines.length := by
  induction lines generalizing cursor with
  | nil => exact ⟨cursor, rfl, settled, by simp⟩
  | cons raw rest ih =>
      obtain ⟨middle, first, settled, line⟩ := exists_lineAccount_outcome settled nonempty raw
      obtain ⟨next, ended, settled, line'⟩ := ih settled
      refine ⟨next, ?_, settled, ?_⟩
      · rw [account, Account.andThen_of_ok first, Account.outcome_after, ended]
      · rw [line', line, List.length_cons, Int.natCast_succ]
        omega

theorem cursorBehind_eq {lines : List Text} {next : Cursor}
    (ended : (account registry delimiter {} lines).outcome = .ok next) :
    cursorBehind registry delimiter lines = next := by
  cases lines with
  | nil =>
      cases ended
      rfl
  | cons raw rest =>
      rw [cursorBehind, getLast?_scanLinesFrom (by simp) ended, Option.getD_some]

/-! ## Parts of an input -/

/-- Lines behind a place between statements are scanned as if they began there. -/
theorem account_append_of_idle (nonempty : delimiter ≠ []) {first : List Text} {next : Cursor}
    (ended : (account registry delimiter {} first).outcome = .ok next) (idle : next.phase = .idle)
    (second : List Text) :
    account registry delimiter {} (first ++ second) =
      ((account registry delimiter {} second).shift first.length).after
        (account registry delimiter {} first).events := by
  obtain ⟨next', ended', settled, line⟩ :=
    exists_account_outcome (Cursor.settled_default registry) nonempty first
  rw [ended, Except.ok.injEq] at ended'
  subst next'
  have fresh : next = ({} : Cursor).shift first.length := by
    rw [settled.eq_of_idle idle, line]
    rfl
  rw [account_append, Account.andThen_of_ok ended, fresh, account_shift]

theorem Account.report_after_events (source : Text) (first second : Account) :
    (second.after first.events).report source =
      (first.report source).followedBy (second.report source) := by
  simp only [report, after, Report.followedBy, List.filterMap_append]

/-- Lines behind a place between statements are reported as if they began there. -/
theorem scanLines_append (nonempty : delimiter ≠ []) (source : Text) {first : List Text}
    {next : Cursor} (ended : (account registry delimiter {} first).outcome = .ok next)
    (idle : next.phase = .idle) (second : List Text) :
    scanLines registry delimiter source (first ++ second) =
      (scanLines registry delimiter source first).followedBy
        ((scanLines registry delimiter source second).shift first.length) := by
  rw [scanLines_eq_report, scanLines_eq_report, scanLines_eq_report,
    account_append_of_idle nonempty ended idle, Account.report_after_events,
    Account.report_shift]

/-- No scan ends before the end of its input. -/
theorem failure_scanLines (nonempty : delimiter ≠ []) (source : Text) (lines : List Text) :
    (scanLines registry delimiter source lines).failure = none := by
  obtain ⟨next, ended, _⟩ :=
    exists_account_outcome (Cursor.settled_default registry) nonempty lines
  rw [scanLines_eq_report, Account.report, ended]

/-! ## The lines of an account -/

/-- The line of an event. -/
def Event.line : Event → Int
  | .found _ line => line
  | .warned _ line => line

theorem Transition.line_of_mem_events {transition : Transition} {event : Event}
    (mem : event ∈ transition.events) : event.line = transition.cursor.line := by
  rw [events, List.mem_append, List.mem_map, List.mem_map] at mem
  rcases mem with ⟨text, -, rfl⟩ | ⟨problem, -, rfl⟩ <;> rfl

/-- The steps on a text tell of its line. -/
theorem line_of_mem_textAccount {cursor : Cursor} {text : Text} {event : Event}
    (mem : event ∈ (textAccount registry delimiter cursor text).events) :
    event.line = cursor.line := by
  induction cursor, text using takeSteps.induct registry delimiter with
  | case1 cursor text failure taken =>
      rw [textAccount_of_error taken] at mem
      contradiction
  | case2 cursor text transition taken finished =>
      rw [textAccount_of_needsInput taken finished] at mem
      rw [Transition.line_of_mem_events mem, (Move.of_step taken).line_eq]
  | case3 cursor text transition taken going _ ih =>
      rw [textAccount_of_going taken (by simpa using going), Account.events_after,
        List.mem_append] at mem
      rcases mem with here | further
      · rw [Transition.line_of_mem_events here, (Move.of_step taken).line_eq]
      · rw [ih further, (Move.of_step taken).line_eq]

/-- The scan of lines tells of these lines. -/
theorem line_of_mem_account (nonempty : delimiter ≠ []) {cursor : Cursor}
    (settled : cursor.Settled registry) {lines : List Text} {event : Event}
    (mem : event ∈ (account registry delimiter cursor lines).events) :
    cursor.line < event.line ∧ event.line ≤ cursor.line + lines.length := by
  induction lines generalizing cursor with
  | nil => contradiction
  | cons raw rest ih =>
      obtain ⟨next, ended, settled, line⟩ := exists_lineAccount_outcome settled nonempty raw
      rw [account, Account.andThen_of_ok ended, Account.events_after, List.mem_append] at mem
      rw [List.length_cons, Int.natCast_succ]
      rcases mem with here | further
      · have here : event.line = cursor.line + 1 := line_of_mem_textAccount here
        omega
      · have further := ih settled further
        omega

/-! ## Cutting an input -/

/-- If the scan of some lines ends between statements, the lines behind them are reported as an
input of their own, with their lines counted from there. -/
theorem scanLines_append_of_idle (registry : Registry) {delimiter : Text}
    (nonempty : delimiter ≠ []) (source : Text) {first : List Text}
    (idle : (cursorBehind registry delimiter first).phase = .idle) (second : List Text) :
    scanLines registry delimiter source (first ++ second) =
        (scanLines registry delimiter source first).followedBy
          ((scanLines registry delimiter source second).shift first.length) ∧
      (scanLines registry delimiter source (first ++ second)).failure = none := by
  obtain ⟨next, ended, _⟩ :=
    exists_account_outcome (Cursor.settled_default registry) nonempty first
  rw [cursorBehind_eq ended] at idle
  exact ⟨scanLines_append nonempty source ended idle second,
    failure_scanLines nonempty source _⟩

/-- The first part ends with a statement that a comment interrupts and that is then given up; the
second part is numbered on from there. -/
theorem scanLines_append_of_idle_comment :
    let registry := Registry.ofTables [("menu_node".toList, ["label".toList])]
    let first := ["INSERT INTO menu_node (label) VALUES ('A'), /* two".toList,
      "lines */ ('B'), ((;".toList]
    let second := ["INSERT INTO menu_node (label) VALUES ('C'), (();".toList]
    ['\t'] ≠ [] ∧ (cursorBehind registry ['\t'] first).phase = .idle ∧
      scanLines registry ['\t'] "f".toList (first ++ second) =
        ⟨[("A".toList, ⟨"f".toList, 1⟩), ("B".toList, ⟨"f".toList, 2⟩),
            ("C".toList, ⟨"f".toList, 3⟩)],
          [⟨"f".toList, 2, .unsupportedValue "menu_node".toList⟩,
            ⟨"f".toList, 3, .unsupportedValue "menu_node".toList⟩], none⟩ := by
  intro registry first second
  have nonempty : ['\t'] ≠ [] := by decide
  have idle : (cursorBehind registry ['\t'] first).phase = .idle := by decide +kernel
  obtain ⟨report, _⟩ := scanLines_append_of_idle registry nonempty "f".toList idle second
  refine ⟨nonempty, idle, report.trans ?_⟩
  decide +kernel

end SeedCatalog.Scan
