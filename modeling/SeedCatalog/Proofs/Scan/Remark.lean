import SeedCatalog.Proofs.Scan.Boundary
import SeedCatalog.Proofs.Scan.Comment

/-!
# Remarks between lines

Blank lines, lines that hold nothing but a line comment, and block comments that
stand on lines of their own say nothing to the scanner, wherever the scan stands
between two lines of which the second does not complete the first.
-/

namespace SeedCatalog

/-- The location with its line moved. -/
def Location.relocate (move : Int → Int) (location : Location) : Location :=
  { location with line := move location.line }

namespace Scan

open SeedCatalog.Sql Text

/-- The event with its line moved. -/
def Event.relocate (move : Int → Int) : Event → Event
  | .found text line => .found text (move line)
  | .warned problem line => .warned problem (move line)

/-- The warning with its line moved. -/
def Warning.relocate (move : Int → Int) (warning : Warning) : Warning :=
  { warning with line := move warning.line }

/-- The report with all its lines moved. -/
def Report.relocate (move : Int → Int) (report : Report) : Report where
  records := report.records.map fun record => (record.1, record.2.relocate move)
  warnings := report.warnings.map (Warning.relocate move)
  failure := report.failure

/-- Where the line of an input stands when more lines are put behind the first ones. -/
def lineBehind (first inserted : Nat) (line : Int) : Int :=
  if line ≤ first then line else line + inserted

/-- Lines that say nothing: blank ones, line comments, and block comments from the beginning of
a line to the end of a line. -/
inductive Remarks : List Text → Prop
  | nil : Remarks []
  | blank {line : Text} {others : List Text} (blank : line.allBlank = true)
      (further : Remarks others) : Remarks (line :: others)
  | lineComment {lead : Text} {others : List Text} (blank : lead.allBlank = true) (body : Text)
      (further : Remarks others) : Remarks ((lead ++ '-' :: '-' :: body) :: others)
  /-- A block comment on one line. -/
  | comment {lead body trail : Text} {others : List Text} (leads : lead.allBlank = true)
      (first : ClosesFirst body) (trails : trail.allBlank = true) (further : Remarks others) :
      Remarks ((lead ++ (blockComment body ++ trail)) :: others)
  /-- A block comment that runs over line ends. -/
  | longComment {lead opening closing trail : Text} {inner others : List Text}
      (leads : lead.allBlank = true) (opens : ClosesFirst opening)
      (inside : ∀ line ∈ inner, ClosesFirst line) (closes : ClosesFirst closing)
      (trails : trail.allBlank = true) (further : Remarks others) :
      Remarks ((lead ++ '/' :: '*' :: opening) ::
        (inner ++ (closing ++ '*' :: '/' :: trail) :: others))

variable {registry : Registry} {delimiter : Text}

/-! ## Where a remark may stand -/

/-- A cursor before a line that completes no other, outside rows, options and comments. -/
structure Cursor.Between (cursor : Cursor) : Prop where
  nothing : cursor.pending = []
  tokens : cursor.phase.readsTokens = true
  noResume : cursor.resume = none

theorem not_readsLineEnd_of_account {cursor next : Cursor} (unread : cursor.readsLineEnd = false)
    {lines : List Text} (ended : (account registry delimiter cursor lines).outcome = .ok next) :
    next.readsLineEnd = false := by
  induction lines generalizing cursor with
  | nil =>
      cases ended
      exact unread
  | cons raw rest ih =>
      rw [account] at ended
      cases first : (lineAccount registry delimiter cursor raw).outcome with
      | ok middle =>
          rw [Account.andThen_of_ok first, Account.outcome_after] at ended
          exact ih (not_readsLineEnd_of_textAccount first) ended
      | error failure =>
          rw [Account.andThen_of_error first, first] at ended
          contradiction

namespace Cursor

variable {cursor : Cursor}

theorem Between.shift (between : cursor.Between) (count : Int) : (cursor.shift count).Between :=
  ⟨between.nothing, between.tokens, between.noResume⟩

theorem shift_shift (cursor : Cursor) (first second : Int) :
    (cursor.shift first).shift second = cursor.shift (first + second) := by
  simp [shift, Int.add_assoc]

@[simp]
theorem shift_zero (cursor : Cursor) : cursor.shift 0 = cursor := by
  simp [shift]

/-- The cursor inside a comment that interrupts its phase. -/
def inComment (cursor : Cursor) : Cursor :=
  { cursor with phase := .comment, resume := some cursor.phase }

end Cursor

/-! ## One line of a remark -/

theorem allBlank_dropLineEnd {line : Text} (blank : line.allBlank = true) :
    (dropLineEnd line).allBlank = true := by
  rw [allBlank, List.all_eq_true] at blank ⊢
  exact fun c mem => blank c ((dropLineEnd_isPrefix line).subset mem)

section

variable {cursor : Cursor} (between : cursor.Between)
include between

theorem lineAccount_between (raw : Text) :
    lineAccount registry delimiter cursor raw =
      textAccount registry delimiter (cursor.shift 1)
        (dropLineComment (dropLineEnd raw) ++ ['\n']) := by
  have noRows := Phase.ne_dataBlock between.tokens
  have outside := Phase.ne_comment between.tokens
  have next : { cursor with line := cursor.line + 1, pending := [] } = cursor.shift 1 := by
    rw [← between.nothing]
    rfl
  simp only [lineAccount, prepareLine, next, if_neg noRows, decide_eq_false outside,
    between.nothing, List.nil_append]

theorem lineAccount_inComment (raw : Text) :
    lineAccount registry delimiter cursor.inComment raw =
      textAccount registry delimiter (cursor.shift 1).inComment
        (dropLineCommentFrom .comment (dropLineEnd raw) ++ ['\n']) := by
  have next : { cursor.inComment with line := cursor.line + 1, pending := [] } =
      (cursor.shift 1).inComment := by
    rw [← between.nothing]
    rfl
  have text : (prepareLine cursor.inComment raw).2 =
      dropLineCommentFrom .comment (dropLineEnd raw) ++ ['\n'] := by
    change dropLineCommentFrom .comment (cursor.pending ++ dropLineEnd raw) ++ ['\n'] = _
    rw [between.nothing, List.nil_append]
  rw [lineAccount, text]
  exact congrArg (textAccount registry delimiter · _) next

theorem rest_pending : Account.rest { cursor with pending := [] } = .rest cursor := by
  rw [← between.nothing]

/-- A line of which only blanks are left tells nothing. -/
theorem lineAccount_blank {raw : Text}
    (blank : (dropLineComment (dropLineEnd raw)).allBlank = true) :
    lineAccount registry delimiter cursor raw = .rest (cursor.shift 1) := by
  have blank : (dropLineComment (dropLineEnd raw) ++ ['\n']).allBlank = true := by
    simpa [allBlank, isBlank] using blank
  rw [lineAccount_between between, textAccount_blank (between.shift 1).tokens blank,
    rest_pending (between.shift 1)]

theorem lineAccount_lineComment {lead : Text} (blank : lead.allBlank = true) (body : Text) :
    lineAccount registry delimiter cursor (lead ++ '-' :: '-' :: body) =
      .rest (cursor.shift 1) := by
  have hyphens : lead ++ '-' :: '-' :: body = (lead ++ ['-'] ++ ['-']) ++ body := by simp
  have unended := unended_concat (c := '-') (by decide) (by decide) (lead ++ ['-'])
  have kept := (closed_of_allBlank blank).dropLineComment_hyphens (dropLineEnd body)
  apply lineAccount_blank between
  rw [hyphens, dropLineEnd_append unended, List.append_assoc, List.append_assoc]
  exact kept.symm ▸ blank

/-- A comment on one line leaves the blanks behind it. -/
theorem lineAccount_comment {lead body trail : Text} (leads : lead.allBlank = true)
    (first : ClosesFirst body) (trails : trail.allBlank = true) :
    lineAccount registry delimiter cursor (lead ++ (blockComment body ++ trail)) =
      .rest (cursor.shift 1) := by
  have marker : lead ++ (blockComment body ++ trail) =
      (lead ++ ('/' :: '*' :: (body ++ ['*'])) ++ ['/']) ++ trail := by
    simp [blockComment]
  have unended := unended_concat (c := '/') (by decide) (by decide)
    (lead ++ ('/' :: '*' :: (body ++ ['*'])))
  have written : dropLineEnd (lead ++ (blockComment body ++ trail)) =
      lead ++ (blockComment body ++ dropLineEnd trail) := by
    rw [marker, dropLineEnd_append unended]
    simp [blockComment]
  have blank : (dropLineEnd trail ++ ['\n']).allBlank = true := by
    simpa [allBlank, isBlank] using allBlank_dropLineEnd trails
  have tokens := (between.shift 1).tokens
  rw [lineAccount_between between, written, closed_of_allBlank leads, closed_blockComment first,
    (closed_of_allBlank (allBlank_dropLineEnd trails)).dropLineComment_eq, List.append_assoc,
    List.append_assoc, textAccount_comment (Phase.ne_dataBlock tokens) (Phase.ne_comment tokens)
      between.noResume leads first, textAccount_blank tokens blank, rest_pending (between.shift 1)]

/-! ## Block comments over line ends -/

theorem lineAccount_openComment {lead opening : Text} (leads : lead.allBlank = true)
    (opens : ClosesFirst opening) :
    lineAccount registry delimiter cursor (lead ++ '/' :: '*' :: opening) =
      .rest (cursor.shift 1).inComment := by
  have marker : lead ++ '/' :: '*' :: opening = (lead ++ ['/'] ++ ['*']) ++ opening := by simp
  have unended := unended_concat (c := '*') (by decide) (by decide) (lead ++ ['/'])
  have written : dropLineEnd (lead ++ '/' :: '*' :: opening) =
      lead ++ '/' :: '*' :: dropLineEnd opening := by
    rw [marker, dropLineEnd_append unended]
    simp
  have opens := opens.of_prefix (dropLineEnd_isPrefix opening)
  have tokens := (between.shift 1).tokens
  rw [lineAccount_between between, written, closed_of_allBlank leads, dropLineComment_opening,
    opens.dropLineCommentFrom_eq, List.append_assoc, List.cons_append, List.cons_append,
    textAccount_openComment (Phase.ne_dataBlock tokens) (Phase.ne_comment tokens) leads,
    textAccount_insideComment rfl opens.append_newline]
  congr 1
  rw [Cursor.inComment, (between.shift 1).nothing]

theorem lineAccount_insideComment {line : Text} (inside : ClosesFirst line) :
    lineAccount registry delimiter cursor.inComment line = .rest (cursor.shift 1).inComment := by
  have inside := inside.of_prefix (dropLineEnd_isPrefix line)
  rw [lineAccount_inComment between, inside.dropLineCommentFrom_eq,
    textAccount_insideComment rfl inside.append_newline]
  congr 1
  rw [Cursor.inComment, (between.shift 1).nothing]

theorem lineAccount_closeComment {closing trail : Text} (closes : ClosesFirst closing)
    (trails : trail.allBlank = true) :
    lineAccount registry delimiter cursor.inComment (closing ++ '*' :: '/' :: trail) =
      .rest (cursor.shift 1) := by
  have marker : closing ++ '*' :: '/' :: trail = (closing ++ ['*'] ++ ['/']) ++ trail := by simp
  have unended := unended_concat (c := '/') (by decide) (by decide) (closing ++ ['*'])
  have written : dropLineEnd (closing ++ '*' :: '/' :: trail) =
      closing ++ '*' :: '/' :: dropLineEnd trail := by
    rw [marker, dropLineEnd_append unended]
    simp
  have blank : (dropLineEnd trail ++ ['\n']).allBlank = true := by
    simpa [allBlank, isBlank] using allBlank_dropLineEnd trails
  have resumed : { (cursor.shift 1).inComment with
      phase := (cursor.shift 1).phase, resume := none } = cursor.shift 1 := by
    rw [← (between.shift 1).noResume]
    rfl
  rw [lineAccount_inComment between, written, closes.dropLineCommentFrom_append,
    (closed_of_allBlank (allBlank_dropLineEnd trails)).dropLineComment_eq, List.append_assoc,
    List.cons_append, List.cons_append, textAccount_closeComment rfl rfl closes]
  refine (congrArg (textAccount registry delimiter · _) resumed).trans ?_
  rw [textAccount_blank (between.shift 1).tokens blank, rest_pending (between.shift 1)]

end

/-- Lines that move a cursor on move it on together. -/
theorem account_cons_of_rest {cursor : Cursor} {raw : Text} {others : List Text}
    (here : lineAccount registry delimiter cursor raw = .rest (cursor.shift 1))
    (further : account registry delimiter (cursor.shift 1) others =
      .rest ((cursor.shift 1).shift others.length)) :
    account registry delimiter cursor (raw :: others) =
      .rest (cursor.shift (raw :: others).length) := by
  rw [account, here, Account.rest_andThen, further, Cursor.shift_shift, List.length_cons,
    Int.natCast_succ, Int.add_comm]

/-- The lines inside a comment are passed one after the other. -/
theorem account_insideComment {cursor : Cursor} (between : cursor.Between) {inner : List Text}
    (inside : ∀ line ∈ inner, ClosesFirst line) :
    account registry delimiter cursor.inComment inner =
      .rest (cursor.shift inner.length).inComment := by
  induction inner generalizing cursor with
  | nil => rw [account, List.length_nil, Int.natCast_zero, Cursor.shift_zero]
  | cons line inner ih =>
      have ih := ih (between.shift 1) fun other mem => inside other (List.mem_cons_of_mem line mem)
      have first := inside line List.mem_cons_self
      exact account_cons_of_rest (lineAccount_insideComment between first) ih

/-- Remarks move the cursor on by their lines, and tell nothing. -/
theorem account_remarks {cursor : Cursor} (between : cursor.Between) {remarks : List Text}
    (silent : Remarks remarks) :
    account registry delimiter cursor remarks = .rest (cursor.shift remarks.length) := by
  induction silent generalizing cursor with
  | nil => rw [account, List.length_nil, Int.natCast_zero, Cursor.shift_zero]
  | blank blank _ ih =>
      have blank := allBlank_dropLineEnd blank
      have kept := (closed_of_allBlank blank).dropLineComment_eq
      exact account_cons_of_rest (lineAccount_blank between (kept.symm ▸ blank))
        (ih (between.shift 1))
  | lineComment blank body _ ih =>
      exact account_cons_of_rest (lineAccount_lineComment between blank body)
        (ih (between.shift 1))
  | comment leads first trails _ ih =>
      exact account_cons_of_rest (lineAccount_comment between leads first trails)
        (ih (between.shift 1))
  | @longComment lead opening closing trail inner others leads opens inside closes trails _ ih =>
      have opened := between.shift 1
      have closed := opened.shift inner.length
      rw [account, lineAccount_openComment between leads opens, Account.rest_andThen,
        account_append, account_insideComment opened inside, Account.rest_andThen, account,
        lineAccount_closeComment closed closes trails, Account.rest_andThen, ih (closed.shift 1),
        Cursor.shift_shift, Cursor.shift_shift, Cursor.shift_shift]
      congr 2
      simp only [List.length_cons, List.length_append]
      omega

/-! ## Remarks among the lines of an input -/

/-- Events that are moved are reported at the lines to which they are moved. -/
theorem Account.report_relocate (source : Text) (move : Int → Int) {account moved : Account}
    (events : moved.events = account.events.map (Event.relocate move))
    (failure : (moved.report source).failure = (account.report source).failure) :
    moved.report source = (account.report source).relocate move := by
  have record (event : Event) : Event.record? source (event.relocate move) =
      (Event.record? source event).map fun record => (record.1, record.2.relocate move) := by
    cases event <;> rfl
  have warning (event : Event) : Event.warning? source (event.relocate move) =
      (Event.warning? source event).map (Warning.relocate move) := by
    cases event <;> rfl
  have records : (moved.report source).records =
      (account.report source).records.map fun record => (record.1, record.2.relocate move) := by
    simp only [report, events, List.filterMap_map, Function.comp_def, record, List.map_filterMap]
  have warnings : (moved.report source).warnings =
      (account.report source).warnings.map (Warning.relocate move) := by
    simp only [report, events, List.filterMap_map, Function.comp_def, warning, List.map_filterMap]
  rw [Report.relocate, ← records, ← warnings, ← failure]

/-- The events of the first lines stay where they are. -/
theorem Event.relocate_of_le {first inserted : Nat} {event : Event} (before : event.line ≤ first) :
    event.relocate (lineBehind first inserted) = event := by
  cases event <;> exact congrArg _ (if_pos before)

/-- The events behind the first lines are moved on by the lines that are put between. -/
theorem Event.relocate_of_lt {first inserted : Nat} {event : Event} (behind : first < event.line) :
    event.relocate (lineBehind first inserted) = event.shift inserted := by
  cases event <;> exact congrArg _ (if_neg (Int.not_le.2 behind))

/-- Remarks between two lines, where no text waits for the second, tell nothing and leave the cursor
as it is but for its line. -/
theorem scanLines_insert_remarks (registry : Registry) (nonempty : delimiter ≠ []) (source : Text)
    {first remarks : List Text} (waiting : (cursorBehind registry delimiter first).pending = [])
    (noRows : (cursorBehind registry delimiter first).phase ≠ .dataBlock)
    (outside : (cursorBehind registry delimiter first).phase ≠ .comment)
    (silent : Remarks remarks) (second : List Text) :
    cursorBehind registry delimiter (first ++ remarks) =
        (cursorBehind registry delimiter first).shift remarks.length ∧
      scanLines registry delimiter source (first ++ remarks) =
        scanLines registry delimiter source first ∧
      scanLines registry delimiter source (first ++ (remarks ++ second)) =
        (scanLines registry delimiter source (first ++ second)).relocate
          (lineBehind first.length remarks.length) := by
  obtain ⟨next, ended, settled, line⟩ :=
    exists_account_outcome (Cursor.settled_default registry) nonempty first
  rw [cursorBehind_eq ended] at waiting noRows outside ⊢
  have line : next.line = first.length := line.trans (Int.zero_add _)
  have unread := not_readsLineEnd_of_account rfl ended
  have between : next.Between :=
    ⟨waiting, Phase.readsTokens_of_not noRows outside unread,
      settled.consistent.resume_eq_none outside⟩
  have remarked : account registry delimiter {} (first ++ remarks) =
      (Account.rest (next.shift remarks.length)).after
        (account registry delimiter {} first).events := by
    rw [account_append, Account.andThen_of_ok ended, account_remarks between silent]
  refine ⟨cursorBehind_eq (by rw [remarked]; rfl), ?_, ?_⟩
  · rw [scanLines_eq_report, scanLines_eq_report, remarked]
    simp only [Account.report, Account.after, Account.rest, List.append_nil, ended]
  · rw [scanLines_eq_report, scanLines_eq_report]
    apply Account.report_relocate
    · have plain : account registry delimiter {} (first ++ second) =
          (account registry delimiter next second).after
            (account registry delimiter {} first).events := by
        rw [account_append, Account.andThen_of_ok ended]
      have moved : account registry delimiter {} (first ++ (remarks ++ second)) =
          ((account registry delimiter next second).shift remarks.length).after
            (account registry delimiter {} first).events := by
        rw [← List.append_assoc, account_append, remarked, Account.after_andThen,
          Account.rest_andThen, account_shift]
      rw [plain, moved, Account.events_after, Account.events_after, List.map_append]
      congr 1
      · refine ((List.map_congr_left fun event mem => ?_).trans (List.map_id _)).symm
        have bound := (line_of_mem_account nonempty (Cursor.settled_default registry) mem).2
        have start : ({} : Cursor).line = 0 := rfl
        exact Event.relocate_of_le (by omega)
      · refine (List.map_congr_left fun event mem => ?_).symm
        have bound := (line_of_mem_account nonempty settled mem).1
        exact Event.relocate_of_lt (by omega)
    · rw [← scanLines_eq_report, ← scanLines_eq_report, failure_scanLines nonempty,
        failure_scanLines nonempty]

/-- Remarks among the tuples of a statement: a line comment with a quote, a blank line, and a
comment over two lines that holds a statement. -/
theorem scanLines_insert_remarks_tuple :
    let registry := Registry.ofTables [("menu_node".toList, ["label".toList])]
    let first := ["INSERT INTO menu_node (label) VALUES ('A'),".toList]
    let remarks := ["  -- it's\n".toList, "\t\n".toList, "/* INSERT INTO\n".toList,
      "menu_node ('B) */ \n".toList]
    let second := ["('C');".toList]
    ['\t'] ≠ [] ∧ (cursorBehind registry ['\t'] first).pending = [] ∧
      (cursorBehind registry ['\t'] first).phase ≠ .dataBlock ∧
      (cursorBehind registry ['\t'] first).phase ≠ .comment ∧ Remarks remarks ∧
      scanLines registry ['\t'] "f".toList (first ++ (remarks ++ second)) =
        ⟨[("A".toList, ⟨"f".toList, 1⟩), ("C".toList, ⟨"f".toList, 6⟩)], [], none⟩ := by
  intro registry first remarks second
  have nonempty : ['\t'] ≠ [] := by decide
  have waiting : (cursorBehind registry ['\t'] first).pending = [] := by decide +kernel
  have noRows : (cursorBehind registry ['\t'] first).phase ≠ .dataBlock := by decide +kernel
  have outside : (cursorBehind registry ['\t'] first).phase ≠ .comment := by decide +kernel
  have opens : ClosesFirst " INSERT INTO\n".toList := by decide +kernel
  have closes : ClosesFirst "menu_node ('B) ".toList := by decide +kernel
  have space : Text.allBlank [' ', ' '] = true := rfl
  have trail : Text.allBlank [' ', '\n'] = true := rfl
  have comment : Remarks ["/* INSERT INTO\n".toList, "menu_node ('B) */ \n".toList] := by
    have nothing : Text.allBlank [] = true := rfl
    exact .longComment nothing opens (List.forall_mem_nil ClosesFirst) closes trail .nil
  have silent : Remarks remarks :=
    .lineComment space " it's\n".toList (.blank (by decide +kernel) comment)
  obtain ⟨-, -, report⟩ := scanLines_insert_remarks registry nonempty "f".toList waiting noRows
    outside silent second
  refine ⟨nonempty, waiting, noRows, outside, silent, report.trans ?_⟩
  decide +kernel

end Scan

end SeedCatalog
