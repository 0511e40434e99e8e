import SeedCatalog.Scan.Step
import SeedCatalog.Sql.LineComment
import SeedCatalog.Text.Lines

/-!
# One line of the input

A line is put behind the text that waits for it, loses its line comment, and ends with one line
feed.  A row of a COPY is taken as it stands.  The scanner then takes steps until one of them
finishes the line.
-/

namespace SeedCatalog.Scan

/-- The cursor for the next line, and the text to scan. -/
def prepareLine (cursor : Cursor) (raw : Text) : Cursor × Text :=
  let line := Text.dropLineEnd raw
  ({ cursor with line := cursor.line + 1, pending := [] },
    if cursor.phase = .dataBlock then line
    else Sql.dropLineComment (cursor.pending ++ line) (cursor.phase = .comment) ++ ['\n'])

/-- The steps that were taken on a line, and what kept the last of them from being taken. -/
structure Steps where
  transitions : List Transition
  failure : Option StepError := none

/-- Take steps until one finishes the line. -/
def takeSteps (registry : Registry) (delimiter : Text) (cursor : Cursor) (text : Text) : Steps :=
  match h : cursor.step registry delimiter text with
  | .error failure => ⟨[], some failure⟩
  | .ok transition =>
      if hn : transition.needsInput = true then ⟨[transition], none⟩
      else
        have := Cursor.toDo_step_lt h (by simpa using hn)
        let others := takeSteps registry delimiter transition.cursor transition.remainder
        ⟨transition :: others.transitions, others.failure⟩
termination_by cursor.toDo text

/-- A line with the steps that were taken on it. -/
structure LineScan where
  /-- The cursor before the first step. -/
  start : Cursor
  /-- The text before the first step. -/
  text : Text
  steps : Steps

/-- Scan one line. -/
def scanLine (registry : Registry) (delimiter : Text) (cursor : Cursor) (raw : Text) : LineScan :=
  let (start, text) := prepareLine cursor raw
  ⟨start, text, takeSteps registry delimiter start text⟩

/-- The cursor for the line that follows. -/
def LineScan.next (scan : LineScan) : Cursor :=
  match scan.steps.transitions.getLast? with
  | some transition => { transition.cursor with pending := transition.remainder }
  | none => scan.start

end SeedCatalog.Scan
