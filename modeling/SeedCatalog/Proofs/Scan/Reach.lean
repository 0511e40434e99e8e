import SeedCatalog.Proofs.Scan.Account

/-!
# Where a scan can come

A place of a scan is a cursor with the text that is left of its line.  Beside
the place stands the text of the table that was read last, as it is written in
the input; no cursor keeps it, so that statements about the names in a script
need it.
-/

namespace SeedCatalog.Scan

open SeedCatalog.Sql

/-- The phases in which a table is read. -/
def Phase.readsTable : Phase → Bool
  | .afterInto | .afterCopy => true
  | _ => false

/-- The text of the table that a step reads, if it reads one. -/
def Cursor.tableRead (cursor : Cursor) (text : Text) : Option Text :=
  if cursor.phase.readsTable then (tableName? text).map Prod.fst else none

/-- The cursor for the line behind a step that finishes its line. -/
def Transition.next (transition : Transition) : Cursor :=
  { transition.cursor with pending := transition.remainder }

/-- The places of the scans of all inputs, each with the table that was read last. -/
inductive Reached (registry : Registry) (delimiter : Text) : Option Text → Cursor → Text → Prop
  | first (raw : Text) :
      Reached registry delimiter none (prepareLine {} raw).1 (prepareLine {} raw).2
  | step {written : Option Text} {cursor : Cursor} {text : Text} {transition : Transition}
      (reached : Reached registry delimiter written cursor text)
      (taken : cursor.step registry delimiter text = .ok transition)
      (going : transition.needsInput = false) :
      Reached registry delimiter ((cursor.tableRead text).or written) transition.cursor
        transition.remainder
  | line {written : Option Text} {cursor : Cursor} {text : Text} {transition : Transition}
      (reached : Reached registry delimiter written cursor text)
      (taken : cursor.step registry delimiter text = .ok transition)
      (finished : transition.needsInput = true) (raw : Text) :
      Reached registry delimiter ((cursor.tableRead text).or written)
        (prepareLine transition.next raw).1 (prepareLine transition.next raw).2

/-- Go on from a place by a number of steps on its line. -/
def goOn (registry : Registry) (delimiter : Text) :
    Nat → Option Text × Cursor × Text → Option (Option Text × Cursor × Text)
  | 0, place => some place
  | count + 1, (written, cursor, text) =>
      match cursor.step registry delimiter text with
      | .ok transition =>
          if transition.needsInput then none
          else
            goOn registry delimiter count
              ((cursor.tableRead text).or written, transition.cursor, transition.remainder)
      | .error _ => none

variable {registry : Registry} {delimiter : Text}

/-- Going on from a place that is reached leads to places that are reached. -/
theorem Reached.goOn {written : Option Text} {cursor : Cursor} {text : Text} {count : Nat}
    {next : Option Text × Cursor × Text}
    (reached : Reached registry delimiter written cursor text)
    (goes : Scan.goOn registry delimiter count (written, cursor, text) = some next) :
    Reached registry delimiter next.1 next.2.1 next.2.2 := by
  induction count generalizing written cursor text with
  | zero =>
      cases goes
      exact reached
  | succ count ih =>
      rw [Scan.goOn] at goes
      split at goes
      · rename_i transition taken
        split at goes
        · contradiction
        · rename_i going
          exact ih (reached.step taken (by simpa using going)) goes
      · contradiction

/-- A step that is taken at a place that is reached. -/
def Transition.IsReached (registry : Registry) (delimiter : Text) (transition : Transition) :
    Prop :=
  ∃ written cursor text, Reached registry delimiter written cursor text ∧
    cursor.step registry delimiter text = .ok transition

/-- A cursor between lines from which every line is reached. -/
def Cursor.IsReached (registry : Registry) (delimiter : Text) (cursor : Cursor) : Prop :=
  ∃ written, ∀ raw,
    Reached registry delimiter written (prepareLine cursor raw).1 (prepareLine cursor raw).2

/-- A reached place at which no step can be taken. -/
def StepError.IsReached (registry : Registry) (delimiter : Text) (failure : StepError) : Prop :=
  ∃ written cursor text, Reached registry delimiter written cursor text ∧
    cursor.step registry delimiter text = .error failure

/-- What the steps on a line are when they begin at a place that is reached. -/
structure Steps.AreReached (registry : Registry) (delimiter : Text) (start : Cursor)
    (steps : Steps) : Prop where
  transitions : ∀ transition ∈ steps.transitions, transition.IsReached registry delimiter
  failure : ∀ failure, steps.failure = some failure → failure.IsReached registry delimiter
  next : steps.failure = none → ∃ transition ∈ steps.transitions,
    transition.needsInput = true ∧ steps.next start = transition.next ∧
      transition.next.IsReached registry delimiter

theorem Reached.takeSteps {written : Option Text} {cursor : Cursor} {text : Text}
    (reached : Reached registry delimiter written cursor text) :
    (takeSteps registry delimiter cursor text).AreReached registry delimiter cursor := by
  induction cursor, text using Scan.takeSteps.induct registry delimiter generalizing written with
  | case1 cursor text failure taken =>
      rw [takeSteps_of_error taken]
      constructor
      · simp
      · rintro other ⟨⟩
        exact ⟨written, cursor, text, reached, taken⟩
      · simp
  | case2 cursor text transition taken finished =>
      rw [takeSteps_of_needsInput taken finished]
      constructor
      · simp only [List.mem_singleton, forall_eq]
        exact ⟨written, cursor, text, reached, taken⟩
      · simp
      · intro _
        exact ⟨transition, List.mem_singleton_self _, finished, rfl, _, reached.line taken finished⟩
  | case3 cursor text transition taken going _ ih =>
      have going : transition.needsInput = false := by simpa using going
      have ih := ih (reached.step taken going)
      rw [takeSteps_of_going taken going]
      constructor
      · simp only [List.mem_cons, forall_eq_or_imp]
        exact ⟨⟨written, cursor, text, reached, taken⟩, ih.transitions⟩
      · exact ih.failure
      · intro whole
        obtain ⟨first, rest, split⟩ := List.exists_cons_of_ne_nil (takeSteps_ne_nil whole)
        obtain ⟨last, mem, finished, next, reached⟩ := ih.next whole
        refine ⟨last, List.mem_cons_of_mem _ mem, finished, ?_, reached⟩
        rw [← next]
        simp [Steps.next, split, List.getLast?_cons]

theorem LineScan.next_eq (scan : LineScan) : scan.next = scan.steps.next scan.start :=
  rfl

/-- Every scan of a line begins at a place that is reached, and so do its steps. -/
theorem Cursor.IsReached.scans {cursor : Cursor} (reached : cursor.IsReached registry delimiter)
    {lines : List Text} {scan : LineScan}
    (mem : scan ∈ scanLinesFrom registry delimiter cursor lines) :
    (∃ written, Reached registry delimiter written scan.start scan.text) ∧
      scan.steps.AreReached registry delimiter scan.start := by
  induction lines generalizing cursor with
  | nil => simp [scanLinesFrom] at mem
  | cons raw rest ih =>
      obtain ⟨written, lines⟩ := reached
      have line := lines raw
      have here : (∃ written, Reached registry delimiter written
            (scanLine registry delimiter cursor raw).start
            (scanLine registry delimiter cursor raw).text) ∧
          (scanLine registry delimiter cursor raw).steps.AreReached registry delimiter
            (scanLine registry delimiter cursor raw).start :=
        ⟨⟨written, line⟩, line.takeSteps⟩
      rw [scanLinesFrom] at mem
      split at mem
      · rw [List.mem_singleton] at mem
        exact mem ▸ here
      · rename_i whole
        rcases List.mem_cons.1 mem with rfl | mem
        · exact here
        · obtain ⟨last, _, _, next, reached⟩ := here.2.next (by simpa using whole)
          rw [← LineScan.next_eq] at next
          exact ih (next ▸ reached) mem

/-- Scans of inputs begin between lines. -/
theorem Cursor.isReached_default : Cursor.IsReached registry delimiter {} :=
  ⟨none, .first⟩

end SeedCatalog.Scan
