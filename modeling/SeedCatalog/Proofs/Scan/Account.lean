import SeedCatalog.Scan.Report

/-!
# What a scan tells

The scan of lines is seen here as an account: the events in order, and then the
cursor behind the last line or the error that ended the scan.  Accounts follow
the scan step by step and line by line, so that a statement about a scan is
proved along its steps.
-/

namespace SeedCatalog.Scan

/-- What a part of a scan tells, and where it ends. -/
structure Account where
  events : List Event
  outcome : Except StepError Cursor

namespace Account

/-- The account of an empty part. -/
def rest (cursor : Cursor) : Account :=
  ⟨[], .ok cursor⟩

/-- The account of a part that some events precede. -/
def after (events : List Event) (account : Account) : Account :=
  ⟨events ++ account.events, account.outcome⟩

/-- The account of two parts, of which the second begins where the first ends. -/
def andThen (first : Account) (second : Cursor → Account) : Account :=
  match first.outcome with
  | .ok cursor => (second cursor).after first.events
  | .error _ => first

@[simp]
theorem after_nil (account : Account) : account.after [] = account :=
  rfl

@[simp]
theorem after_after (first second : List Event) (account : Account) :
    (account.after second).after first = account.after (first ++ second) := by
  simp [after]

@[simp]
theorem events_after (events : List Event) (account : Account) :
    (account.after events).events = events ++ account.events :=
  rfl

@[simp]
theorem outcome_after (events : List Event) (account : Account) :
    (account.after events).outcome = account.outcome :=
  rfl

@[simp]
theorem rest_andThen (cursor : Cursor) (second : Cursor → Account) :
    (rest cursor).andThen second = second cursor :=
  rfl

theorem andThen_of_ok {first : Account} {cursor : Cursor} (ended : first.outcome = .ok cursor)
    (second : Cursor → Account) : first.andThen second = (second cursor).after first.events := by
  simp [andThen, ended]

theorem andThen_of_error {first : Account} {failure : StepError}
    (ended : first.outcome = .error failure) (second : Cursor → Account) :
    first.andThen second = first := by
  simp [andThen, ended]

@[simp]
theorem after_andThen (events : List Event) (first : Account) (second : Cursor → Account) :
    (first.after events).andThen second = (first.andThen second).after events := by
  cases outcome : first.outcome with
  | ok cursor => simp [andThen, outcome]
  | error failure => simp [andThen, outcome]

theorem andThen_assoc (first : Account) (second third : Cursor → Account) :
    (first.andThen second).andThen third =
      first.andThen fun cursor => (second cursor).andThen third := by
  cases outcome : first.outcome with
  | ok cursor => rw [andThen_of_ok outcome, andThen_of_ok outcome, after_andThen]
  | error failure => simp only [andThen_of_error outcome]

end Account

variable (registry : Registry) (delimiter : Text)

/-- The cursor for the next line behind some steps, given the cursor before them. -/
def Steps.next (steps : Steps) (start : Cursor) : Cursor :=
  match steps.transitions.getLast? with
  | some transition => { transition.cursor with pending := transition.remainder }
  | none => start

/-- What the steps on a text tell. -/
def textAccount (cursor : Cursor) (text : Text) : Account :=
  let steps := takeSteps registry delimiter cursor text
  ⟨steps.transitions.flatMap Transition.events,
    match steps.failure with
    | some failure => .error failure
    | none => .ok (steps.next cursor)⟩

/-- What the scan of a line tells. -/
def lineAccount (cursor : Cursor) (raw : Text) : Account :=
  textAccount registry delimiter (prepareLine cursor raw).1 (prepareLine cursor raw).2

/-- What the scan of lines tells. -/
def account (cursor : Cursor) : List Text → Account
  | [] => .rest cursor
  | raw :: rest => (lineAccount registry delimiter cursor raw).andThen (account · rest)

variable {registry delimiter}

/-! ## Along the steps of a line -/

theorem takeSteps_of_error {cursor : Cursor} {text : Text} {failure : StepError}
    (step : cursor.step registry delimiter text = .error failure) :
    takeSteps registry delimiter cursor text = ⟨[], some failure⟩ := by
  rw [takeSteps]
  split <;> simp_all

theorem takeSteps_of_needsInput {cursor : Cursor} {text : Text} {transition : Transition}
    (step : cursor.step registry delimiter text = .ok transition)
    (finished : transition.needsInput = true) :
    takeSteps registry delimiter cursor text = ⟨[transition], none⟩ := by
  rw [takeSteps]
  split <;> simp_all

theorem takeSteps_of_going {cursor : Cursor} {text : Text} {transition : Transition}
    (step : cursor.step registry delimiter text = .ok transition)
    (going : transition.needsInput = false) :
    takeSteps registry delimiter cursor text =
      ⟨transition ::
          (takeSteps registry delimiter transition.cursor transition.remainder).transitions,
        (takeSteps registry delimiter transition.cursor transition.remainder).failure⟩ := by
  rw [takeSteps]
  split <;> simp_all

/-- Where every step can be taken, the last of them finishes the line. -/
theorem takeSteps_ne_nil {cursor : Cursor} {text : Text}
    (taken : (takeSteps registry delimiter cursor text).failure = none) :
    (takeSteps registry delimiter cursor text).transitions ≠ [] := by
  cases step : cursor.step registry delimiter text with
  | error failure => simp [takeSteps_of_error step] at taken
  | ok transition =>
      cases finished : transition.needsInput with
      | true => simp [takeSteps_of_needsInput step finished]
      | false => simp [takeSteps_of_going step finished]

theorem textAccount_of_error {cursor : Cursor} {text : Text} {failure : StepError}
    (step : cursor.step registry delimiter text = .error failure) :
    textAccount registry delimiter cursor text = ⟨[], .error failure⟩ := by
  simp [textAccount, takeSteps_of_error step]

/-- A step that finishes the line leaves its remainder to the next one. -/
theorem textAccount_of_needsInput {cursor : Cursor} {text : Text} {transition : Transition}
    (step : cursor.step registry delimiter text = .ok transition)
    (finished : transition.needsInput = true) :
    textAccount registry delimiter cursor text =
      ⟨transition.events, .ok { transition.cursor with pending := transition.remainder }⟩ := by
  simp [textAccount, takeSteps_of_needsInput step finished, Steps.next]

/-- A step that does not finish the line is followed by the steps on its remainder. -/
theorem textAccount_of_going {cursor : Cursor} {text : Text} {transition : Transition}
    (step : cursor.step registry delimiter text = .ok transition)
    (going : transition.needsInput = false) :
    textAccount registry delimiter cursor text =
      (textAccount registry delimiter transition.cursor transition.remainder).after
        transition.events := by
  simp only [textAccount, takeSteps_of_going step going, Account.after, List.flatMap_cons,
    Account.mk.injEq, true_and]
  cases failure : (takeSteps registry delimiter transition.cursor transition.remainder).failure with
  | some failure => rfl
  | none =>
      obtain ⟨first, others, taken⟩ := List.exists_cons_of_ne_nil (takeSteps_ne_nil failure)
      simp [Steps.next, taken, List.getLast?_cons]

/-- A step that tells nothing and does not finish the line is passed over. -/
theorem textAccount_of_silent {cursor : Cursor} {text : Text} {transition : Transition}
    (step : cursor.step registry delimiter text = .ok transition)
    (going : transition.needsInput = false) (silent : transition.events = []) :
    textAccount registry delimiter cursor text =
      textAccount registry delimiter transition.cursor transition.remainder := by
  rw [textAccount_of_going step going, silent, Account.after_nil]

/-- A scan of a text that comes to an end does so with a step that finishes the line, on a cursor
with every property that the steps keep. -/
theorem exists_lastStep {P : Cursor → Prop}
    (kept : ∀ cursor text transition, P cursor →
      cursor.step registry delimiter text = .ok transition → P transition.cursor)
    {cursor next : Cursor} {text : Text} (holds : P cursor)
    (ended : (textAccount registry delimiter cursor text).outcome = .ok next) :
    ∃ last rest transition, P last ∧ last.step registry delimiter rest = .ok transition ∧
      transition.needsInput = true ∧
        { transition.cursor with pending := transition.remainder } = next := by
  induction cursor, text using takeSteps.induct registry delimiter with
  | case1 cursor text failure taken =>
      rw [textAccount_of_error taken] at ended
      contradiction
  | case2 cursor text transition taken finished =>
      rw [textAccount_of_needsInput taken finished] at ended
      exact ⟨cursor, text, transition, holds, taken, finished, Except.ok.inj ended⟩
  | case3 cursor text transition taken going _ ih =>
      rw [textAccount_of_going taken (by simpa using going), Account.outcome_after] at ended
      exact ih (kept cursor text transition holds taken) ended

/-! ## Along the lines -/

/-- Lines in two parts are scanned one part after the other. -/
theorem account_append (cursor : Cursor) (first second : List Text) :
    account registry delimiter cursor (first ++ second) =
      (account registry delimiter cursor first).andThen
        (account registry delimiter · second) := by
  induction first generalizing cursor with
  | nil => rfl
  | cons raw rest ih =>
      simp only [List.cons_append, account, ih, Account.andThen_assoc]

/-- The scan of lines depends on them up to their line ends. -/
theorem account_congr {first second : List Text}
    (same : first.map Text.dropLineEnd = second.map Text.dropLineEnd) (cursor : Cursor) :
    account registry delimiter cursor first = account registry delimiter cursor second := by
  induction first generalizing second cursor with
  | nil =>
      cases second with
      | nil => rfl
      | cons _ _ => contradiction
  | cons raw first ih =>
      cases second with
      | nil => contradiction
      | cons raw' second =>
          rw [List.map_cons, List.map_cons, List.cons.injEq] at same
          have line : lineAccount registry delimiter cursor raw =
              lineAccount registry delimiter cursor raw' := by
            simp only [lineAccount, prepareLine, same.1]
          rw [account, account, line]
          congr 1
          funext next
          exact ih same.2 next

theorem LineScan.account_scanLine (cursor : Cursor) (raw : Text) :
    lineAccount registry delimiter cursor raw =
      ⟨(scanLine registry delimiter cursor raw).events,
        match (scanLine registry delimiter cursor raw).steps.failure with
        | some failure => .error failure
        | none => .ok (scanLine registry delimiter cursor raw).next⟩ :=
  rfl

/-- The report that an account gives, under the name of the input. -/
def Account.report (source : Text) (account : Account) : Report :=
  ⟨account.events.filterMap (Event.record? source),
    account.events.filterMap (Event.warning? source),
    match account.outcome with
    | .ok _ => none
    | .error failure => some failure⟩

/-- The report with some records in front of its own. -/
def Report.behind (records : List (Text × Location)) (report : Report) : Report :=
  { report with records := records ++ report.records }

/-- Texts that were found on a line are recorded there. -/
theorem Account.report_after (source : Text) (line : Int) (found : List Text) (account : Account) :
    (account.after (found.map (Event.found · line))).report source =
      (account.report source).behind (found.map (·, ⟨source, line⟩)) := by
  have records : (found.map (Event.found · line)).filterMap (Event.record? source) =
      found.map (·, ⟨source, line⟩) := by
    rw [List.filterMap_map, ← List.filterMap_eq_map]
    rfl
  have warnings : (found.map (Event.found · line)).filterMap (Event.warning? source) = [] := by
    rw [List.filterMap_map, List.filterMap_eq_nil_iff]
    intro text mem
    rfl
  simp only [report, after, List.filterMap_append, records, warnings, List.nil_append,
    Report.behind]

/-- The scans of lines tell the account of the lines. -/
theorem ofLines_scanLinesFrom (source : Text) (cursor : Cursor) (lines : List Text) :
    Report.ofLines source (scanLinesFrom registry delimiter cursor lines) =
      (account registry delimiter cursor lines).report source := by
  induction lines generalizing cursor with
  | nil => rfl
  | cons raw rest ih =>
      have ih := ih (scanLine registry delimiter cursor raw).next
      simp only [scanLinesFrom, account, LineScan.account_scanLine, Account.andThen]
      cases failure : (scanLine registry delimiter cursor raw).steps.failure with
      | some failure =>
          simp [Report.ofLines, Account.report, failure]
      | none =>
          simp only [Report.ofLines, Account.report, Report.mk.injEq] at ih
          simp only [Option.isSome_none, Bool.false_eq_true, if_false, Report.ofLines,
            Account.report, Account.after, List.flatMap_cons, List.filterMap_append, ih.1, ih.2.1,
            Report.mk.injEq, true_and]
          rw [← ih.2.2]
          cases rest with
          | nil => simp [scanLinesFrom, failure]
          | cons next others =>
              have nonempty : scanLinesFrom registry delimiter
                  (scanLine registry delimiter cursor raw).next (next :: others) ≠ [] := by
                rw [scanLinesFrom]
                split <;> simp
              obtain ⟨scan, scans, split⟩ := List.exists_cons_of_ne_nil nonempty
              simp [split]

/-- The cursor behind the last line is the one in which the account ends. -/
theorem getLast?_scanLinesFrom {cursor next : Cursor} {lines : List Text} (filled : lines ≠ [])
    (ended : (account registry delimiter cursor lines).outcome = .ok next) :
    (scanLinesFrom registry delimiter cursor lines).getLast?.map LineScan.next = some next := by
  induction lines generalizing cursor with
  | nil => contradiction
  | cons raw rest ih =>
      rw [account, LineScan.account_scanLine, Account.andThen] at ended
      rw [scanLinesFrom]
      cases failure : (scanLine registry delimiter cursor raw).steps.failure with
      | some failure => simp [failure] at ended
      | none =>
          simp only [failure, Account.outcome_after] at ended
          simp only [Option.isSome_none, Bool.false_eq_true, if_false]
          cases rest with
          | nil =>
              rw [account, Account.rest, Except.ok.injEq] at ended
              simp [scanLinesFrom, ended]
          | cons raw' rest =>
              have ih := ih (by simp) ended
              rw [List.getLast?_cons]
              cases last : (scanLinesFrom registry delimiter
                  (scanLine registry delimiter cursor raw).next (raw' :: rest)).getLast? with
              | none => simp [last] at ih
              | some scan => simpa [last] using ih

/-- The report on the lines of an input is read off their account. -/
theorem scanLines_eq_report (source : Text) (lines : List Text) :
    scanLines registry delimiter source lines =
      (account registry delimiter {} lines).report source :=
  ofLines_scanLinesFrom source {} lines

end SeedCatalog.Scan
