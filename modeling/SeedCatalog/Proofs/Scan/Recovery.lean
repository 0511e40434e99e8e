import SeedCatalog.Proofs.Scan.Boundary

/-!
# Going on after a problem

A statement that goes wrong is given up in one way, wherever it goes wrong: the
step tells its problem, finds nothing, and leaves a cursor that keeps nothing
but its line.  The rest of the line goes with the statement, so that no line
tells two problems.
-/

namespace SeedCatalog.Scan

/-- How the scan of an input recovers from problems. -/
structure Recovery (registry : Registry) (delimiter source : Text) (lines : List Text) : Prop where
  /-- The scan goes on to the end of the input. -/
  finished : (scanLines registry delimiter source lines).failure = none
  /-- A line gives at most one warning. -/
  single : ∀ scan ∈ scanLinesFrom registry delimiter {} lines,
    (scan.events.filterMap (Event.warning? source)).length ≤ 1
  /-- Warnings come in the order of their lines. -/
  increasing : ((scanLines registry delimiter source lines).warnings.map Warning.line).Pairwise
    (· < ·)
  /-- Warnings are about lines of the input. -/
  located : ∀ warning ∈ (scanLines registry delimiter source lines).warnings,
    1 ≤ warning.line ∧ warning.line ≤ lines.length
  /-- A listener is told the warnings of the report, and no others, in their order. -/
  told : ∀ {σ : Type} (listener : σ → Warning → σ) (state : σ),
    tellLines source listener state (scanLinesFrom registry delimiter {} lines) =
      (scanLines registry delimiter source lines).warnings.foldl listener state
  /-- A step that warns finds nothing and leaves nothing but its line, and its statement was
  registered, if it had read a table. -/
  cleared : ∀ (cursor : Cursor) (text : Text) (transition : Transition),
    cursor.step registry delimiter text = .ok transition → transition.problem.isSome = true →
      transition.found = [] ∧ transition.remainder = [] ∧
      transition.cursor = { line := cursor.line } ∧
      ∀ statement, cursor.statement = some statement → statement.registered = true
  /-- Behind a line that gave a warning, the lines are reported as an input of their own. -/
  fresh : ∀ (first : List Text) (raw : Text) (rest : List Text), lines = first ++ raw :: rest →
    (∃ warning ∈ (scanLines registry delimiter source lines).warnings,
      warning.line = first.length + 1) →
    scanLines registry delimiter source lines =
      (scanLines registry delimiter source (first ++ [raw])).followedBy
        ((scanLines registry delimiter source rest).shift (first.length + 1))

variable {registry : Registry} {delimiter : Text}

/-! ## Steps that warn -/

/-- A step warns only when it gives up a statement, and never one that is only followed. -/
theorem Move.eq_of_problem {cursor : Cursor} {text : Text} {transition : Transition}
    (move : Move registry delimiter cursor text transition)
    (warns : transition.problem.isSome = true) :
    ∃ problem, transition = cursor.giveUp problem ∧
      (cursor.statement.any fun statement => !statement.registered) = false := by
  cases move with
  | giveUp problem outside =>
      refine ⟨problem, rfl, ?_⟩
      by_contra followed
      rw [Bool.not_eq_false] at followed
      simp [Cursor.giveUp, followed] at warns
  | _ => contradiction

/-- A step that warns finds nothing and leaves nothing but its line. -/
theorem Cursor.step_cleared {cursor : Cursor} {text : Text} {transition : Transition}
    (taken : cursor.step registry delimiter text = .ok transition)
    (warns : transition.problem.isSome = true) :
    transition.found = [] ∧ transition.remainder = [] ∧
      transition.cursor = { line := cursor.line } ∧
      ∀ statement, cursor.statement = some statement → statement.registered = true := by
  obtain ⟨problem, rfl, followed⟩ := (Move.of_step taken).eq_of_problem warns
  refine ⟨rfl, rfl, rfl, ?_⟩
  intro statement reading
  simpa [reading] using followed

/-- A step that does not finish its line does not warn. -/
theorem Cursor.problem_eq_none {cursor : Cursor} {text : Text} {transition : Transition}
    (taken : cursor.step registry delimiter text = .ok transition)
    (going : transition.needsInput = false) : transition.problem = none := by
  by_contra warns
  obtain ⟨problem, rfl, _⟩ :=
    (Move.of_step taken).eq_of_problem (Option.isSome_iff_ne_none.2 warns)
  contradiction

variable (source : Text)

/-- The warnings among events, in their order. -/
def warningsOf (events : List Event) : List Warning :=
  events.filterMap (Event.warning? source)

theorem warningsOf_append (first second : List Event) :
    warningsOf source (first ++ second) = warningsOf source first ++ warningsOf source second :=
  List.filterMap_append

theorem warningsOf_events (transition : Transition) :
    warningsOf source transition.events =
      transition.problem.toList.map fun problem =>
        ⟨source, transition.cursor.line, problem⟩ := by
  cases warns : transition.problem <;>
    simp [warningsOf, Transition.events, warns, Event.warning?, List.filterMap_eq_nil_iff]

/-! ## Listeners -/

theorem tell_eq {σ : Type} (listener : σ → Warning → σ) (state : σ) (transition : Transition) :
    transition.tell source listener state =
      (warningsOf source transition.events).foldl listener state := by
  rw [warningsOf_events, Transition.tell]
  cases transition.problem <;> rfl

/-- What a listener is told are the warnings among the events. -/
theorem tellLines_eq {σ : Type} (listener : σ → Warning → σ) (state : σ) (scans : List LineScan) :
    tellLines source listener state scans =
      (warningsOf source (scans.flatMap LineScan.events)).foldl listener state := by
  have line (state : σ) (transitions : List Transition) :
      transitions.foldl (Transition.tell source listener) state =
        (warningsOf source (transitions.flatMap Transition.events)).foldl listener state := by
    induction transitions generalizing state with
    | nil => rfl
    | cons transition others ih =>
        rw [List.foldl_cons, ih, tell_eq, List.flatMap_cons, warningsOf_append, List.foldl_append]
  induction scans generalizing state with
  | nil => rfl
  | cons scan others ih =>
      rw [List.flatMap_cons, warningsOf_append, List.foldl_append, ← ih, LineScan.events, ← line]
      rfl

/-! ## Lines that warn -/

/-- The steps on a text warn at most once, and then end between statements. -/
theorem textAccount_warnings (cursor : Cursor) (text : Text) :
    warningsOf source (textAccount registry delimiter cursor text).events = [] ∨
      ∃ problem next,
        warningsOf source (textAccount registry delimiter cursor text).events =
            [⟨source, cursor.line, problem⟩] ∧
          (textAccount registry delimiter cursor text).outcome = .ok next ∧ next.phase = .idle := by
  induction cursor, text using takeSteps.induct registry delimiter with
  | case1 cursor text failure taken =>
      rw [textAccount_of_error taken]
      exact .inl rfl
  | case2 cursor text transition taken finished =>
      rw [textAccount_of_needsInput taken finished, warningsOf_events]
      cases warns : transition.problem with
      | none => exact .inl rfl
      | some problem =>
          obtain ⟨_, _, cleared, _⟩ := Cursor.step_cleared taken (by rw [warns]; rfl)
          refine .inr ⟨problem, transition.next, ?_, rfl, ?_⟩
          · rw [cleared]
            rfl
          · rw [Transition.next, cleared]
  | case3 cursor text transition taken going _ ih =>
      have going : transition.needsInput = false := by simpa using going
      rw [textAccount_of_going taken going, Account.events_after, Account.outcome_after,
        warningsOf_append, warningsOf_events, Cursor.problem_eq_none taken going,
        ← (Move.of_step taken).line_eq]
      exact ih

/-- A line gives at most one warning, and then ends between statements. -/
theorem lineAccount_warnings (registry : Registry) (delimiter source : Text) (cursor : Cursor)
    (raw : Text) :
    warningsOf source (lineAccount registry delimiter cursor raw).events = [] ∨
      ∃ problem next,
        warningsOf source (lineAccount registry delimiter cursor raw).events =
            [⟨source, cursor.line + 1, problem⟩] ∧
          (lineAccount registry delimiter cursor raw).outcome = .ok next ∧ next.phase = .idle :=
  textAccount_warnings source (prepareLine cursor raw).1 (prepareLine cursor raw).2

/-- Every scan of a line is the scan of some line from some cursor. -/
theorem exists_scanLine_of_mem {cursor : Cursor} {lines : List Text} {scan : LineScan}
    (mem : scan ∈ scanLinesFrom registry delimiter cursor lines) :
    ∃ start raw, scan = scanLine registry delimiter start raw := by
  induction lines generalizing cursor with
  | nil => contradiction
  | cons raw rest ih =>
      rw [scanLinesFrom] at mem
      split at mem
      · exact ⟨cursor, raw, List.mem_singleton.1 mem⟩
      · rcases List.mem_cons.1 mem with rfl | mem
        · exact ⟨cursor, raw, rfl⟩
        · exact ih mem

/-- The warnings about lines stand in order, behind the line of the cursor. -/
theorem account_warnings (nonempty : delimiter ≠ []) {cursor : Cursor}
    (settled : cursor.Settled registry) (lines : List Text) :
    ((warningsOf source (account registry delimiter cursor lines).events).map
        Warning.line).Pairwise (· < ·) ∧
      ∀ warning ∈ warningsOf source (account registry delimiter cursor lines).events,
        cursor.line < warning.line ∧ warning.line ≤ cursor.line + lines.length := by
  induction lines generalizing cursor with
  | nil => simp [account, Account.rest, warningsOf]
  | cons raw rest ih =>
      obtain ⟨middle, ended, settled', line⟩ := exists_lineAccount_outcome settled nonempty raw
      obtain ⟨increasing, located⟩ := ih settled'
      rw [line] at located
      have located' : ∀ warning ∈ warningsOf source (account registry delimiter middle rest).events,
          cursor.line + 1 < warning.line ∧
            warning.line ≤ cursor.line + (raw :: rest).length := by
        intro warning mem
        have := located warning mem
        rw [List.length_cons, Int.natCast_succ]
        omega
      rw [account, Account.andThen_of_ok ended, Account.events_after, warningsOf_append]
      rcases lineAccount_warnings registry delimiter source cursor raw with
        silent | ⟨problem, _, warns, _⟩
      · rw [silent, List.nil_append]
        refine ⟨increasing, fun warning mem => ?_⟩
        have := located' warning mem
        omega
      · rw [warns, List.singleton_append, List.map_cons, List.pairwise_cons]
        refine ⟨⟨?_, increasing⟩, ?_⟩
        · intro later mem
          obtain ⟨warning, among, rfl⟩ := List.mem_map.1 mem
          exact (located' warning among).1
        · intro warning mem
          rcases List.mem_cons.1 mem with rfl | mem
          · rw [List.length_cons, Int.natCast_succ]
            dsimp only
            omega
          · have := located' warning mem
            omega

/-- The line that a warning is about ends between statements. -/
theorem account_idle_of_warning (nonempty : delimiter ≠ []) (first : List Text) (raw : Text)
    (rest : List Text) {warning : Warning}
    (mem : warning ∈ warningsOf source
      (account registry delimiter {} (first ++ raw :: rest)).events)
    (here : warning.line = first.length + 1) :
    ∃ next, (account registry delimiter {} (first ++ [raw])).outcome = .ok next ∧
      next.phase = .idle := by
  obtain ⟨middle, ended, settled, line⟩ :=
    exists_account_outcome (Cursor.settled_default registry) nonempty first
  obtain ⟨next, ended', settled', line'⟩ := exists_lineAccount_outcome settled nonempty raw
  have before := (account_warnings source nonempty (Cursor.settled_default registry)
    first).2 warning
  have behind := (account_warnings source nonempty settled' rest).2 warning
  rw [account_append, Account.andThen_of_ok ended, Account.events_after, account,
    Account.andThen_of_ok ended', Account.events_after, warningsOf_append, warningsOf_append,
    List.mem_append, List.mem_append] at mem
  have warned : warning ∈ warningsOf source (lineAccount registry delimiter middle raw).events := by
    have start : ({} : Cursor).line = 0 := rfl
    rcases mem with mem | mem | mem
    · have := before mem
      omega
    · exact mem
    · have := behind mem
      omega
  refine ⟨next, ?_, ?_⟩
  · rw [account_append, Account.andThen_of_ok ended, Account.outcome_after, account,
      Account.andThen_of_ok ended']
    rfl
  · rcases lineAccount_warnings registry delimiter source middle raw with
      silent | ⟨_, last, _, outcome, idle⟩
    · rw [silent] at warned
      contradiction
    · rw [outcome, Except.ok.injEq] at ended'
      exact ended' ▸ idle

/-! ## Inputs -/

/-- Problems are recovered from in every input. -/
theorem scanLines_recovery (registry : Registry) {delimiter : Text} (nonempty : delimiter ≠ [])
    (source : Text) (lines : List Text) : Recovery registry delimiter source lines := by
  have report : (scanLines registry delimiter source lines).warnings =
      warningsOf source (account registry delimiter {} lines).events := by
    rw [scanLines_eq_report]
    rfl
  have ordered := account_warnings source nonempty (Cursor.settled_default registry)
    lines
  rw [← report] at ordered
  constructor
  case finished => exact failure_scanLines nonempty source lines
  case single =>
    intro scan mem
    obtain ⟨start, raw, rfl⟩ := exists_scanLine_of_mem mem
    change (warningsOf source (lineAccount registry delimiter start raw).events).length ≤ 1
    rcases lineAccount_warnings registry delimiter source start raw with
      silent | ⟨_, _, warns, _⟩
    · rw [silent]
      exact Nat.zero_le 1
    · rw [warns]
      exact Nat.le_refl 1
  case increasing => exact ordered.1
  case located =>
    intro warning mem
    have := ordered.2 warning mem
    have start : ({} : Cursor).line = 0 := rfl
    omega
  case told => exact fun listener state => tellLines_eq source listener state _
  case cleared => exact fun cursor text transition => Cursor.step_cleared
  case fresh =>
    rintro first raw rest rfl ⟨warning, mem, here⟩
    rw [report] at mem
    obtain ⟨next, ended, idle⟩ := account_idle_of_warning source nonempty first raw rest mem here
    have parts := scanLines_append nonempty source ended idle rest
    rw [List.append_assoc, List.singleton_append] at parts
    rw [parts, List.length_append]
    rfl

/-- Two of five lines warn.  A literal that waited is given up with its line, an unregistered COPY
is followed without a word, and the last line is scanned as an input of its own. -/
theorem scanLines_recovery_twice :
    let registry := Registry.ofTables [("t".toList, ["b".toList])]
    let lines := ["INSERT 1; INSERT INTO t (b) VALUES ('A');".toList,
      "INSERT INTO t (b) VALUES ('B".toList, "' ();".toList, "COPY other FROM file;".toList,
      "INSERT INTO t (b) VALUES ('C');".toList]
    ['\t'] ≠ [] ∧ Recovery registry ['\t'] "f".toList lines ∧
      scanLines registry ['\t'] "f".toList lines =
        ⟨[("C".toList, ⟨"f".toList, 5⟩)],
          [⟨"f".toList, 1, .intoMissing⟩,
            ⟨"f".toList, 3, .unsupportedValue "t".toList⟩], none⟩ := by
  intro registry lines
  have nonempty : ['\t'] ≠ [] := by decide
  refine ⟨nonempty, scanLines_recovery registry nonempty "f".toList lines, ?_⟩
  decide +kernel

end SeedCatalog.Scan
