import SeedCatalog.Catalog
import SeedCatalog.Scan.Line

/-!
# Scanning an input

An input is scanned line by line with one cursor.  What it yields are records, which are
translatable texts with the lines they end on, and warnings, one for each statement that was given
up.  An input that ends inside a statement keeps what was recorded of it.
-/

namespace SeedCatalog.Scan

/-- Scan lines one after the other, up to a line on which a step cannot be taken. -/
def scanLinesFrom (registry : Registry) (delimiter : Text) (cursor : Cursor) :
    List Text → List LineScan
  | [] => []
  | raw :: rest =>
      let scan := scanLine registry delimiter cursor raw
      if scan.steps.failure.isSome then [scan]
      else scan :: scanLinesFrom registry delimiter scan.next rest

/-- What a step has to tell. -/
inductive Event where
  /-- A translatable text was read on a line. -/
  | found (text : Text) (line : Int)
  /-- A statement was given up on a line. -/
  | warned (problem : Problem) (line : Int)
  deriving DecidableEq, Repr

/-- What a step has to tell, in order. -/
def Transition.events (transition : Transition) : List Event :=
  transition.found.map (Event.found · transition.cursor.line) ++
    transition.problem.toList.map (Event.warned · transition.cursor.line)

/-- What the steps on a line have to tell, in order. -/
def LineScan.events (scan : LineScan) : List Event :=
  scan.steps.transitions.flatMap Transition.events

/-- A warning about a line of an input. -/
structure Warning where
  source : Text
  line : Int
  problem : Problem
  deriving DecidableEq, Repr

/-- A warning is written behind its location. -/
def Warning.render (warning : Warning) : Except Text.IntegerError Text :=
  (Location.render ⟨warning.source, warning.line⟩).map fun place =>
    place ++ ": warning: ".toList ++ warning.problem.message

/-- What the scan of an input yields. -/
structure Report where
  records : List (Text × Location)
  warnings : List Warning
  /-- What ended the scan before the end of the input. -/
  failure : Option StepError
  deriving DecidableEq

/-- The text that an event found, with its location. -/
def Event.record? (source : Text) : Event → Option (Text × Location)
  | .found text line => some (text, ⟨source, line⟩)
  | .warned _ _ => none

/-- The warning that an event gave. -/
def Event.warning? (source : Text) : Event → Option Warning
  | .found _ _ => none
  | .warned problem line => some ⟨source, line, problem⟩

/-- What the scans of the lines of an input yield. -/
def Report.ofLines (source : Text) (scans : List LineScan) : Report :=
  let events := scans.flatMap LineScan.events
  ⟨events.filterMap (Event.record? source), events.filterMap (Event.warning? source),
    scans.getLast?.bind fun scan => scan.steps.failure⟩

/-- Scan the lines of an input. -/
def scanLines (registry : Registry) (delimiter source : Text) (lines : List Text) : Report :=
  Report.ofLines source (scanLinesFrom registry delimiter {} lines)

/-- The cursor behind the lines of an input, as far as they are scanned. -/
def cursorBehind (registry : Registry) (delimiter : Text) (lines : List Text) : Cursor :=
  ((scanLinesFrom registry delimiter {} lines).getLast?.map LineScan.next).getD {}

/-- Tell a listener the warning of a step as soon as the step is taken. -/
def Transition.tell {σ : Type} (source : Text) (listener : σ → Warning → σ) (state : σ)
    (transition : Transition) : σ :=
  match transition.problem with
  | some problem => listener state ⟨source, transition.cursor.line, problem⟩
  | none => state

/-- Tell a listener the warnings of lines, step by step. -/
def tellLines {σ : Type} (source : Text) (listener : σ → Warning → σ) (state : σ)
    (scans : List LineScan) : σ :=
  scans.foldl
    (fun state scan => scan.steps.transitions.foldl (Transition.tell source listener) state) state

/-- Scan an input that is held as one text. -/
def scanText (registry : Registry) (delimiter source content : Text) : Report :=
  scanLines registry delimiter source content.lines

end SeedCatalog.Scan
