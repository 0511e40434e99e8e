import SeedCatalog.Scan.Report

/-!
# Scans into one catalog

A scan can record what it finds into a catalog step by step, and the next input can be scanned into
the same catalog.
-/

namespace SeedCatalog.Scan

/-- What a scan into a catalog has yielded so far. -/
structure Yield where
  catalog : Catalog
  warnings : List Warning := []

/-- Take in what a step tells: record the texts that it found, one after the other, and keep its
warning. -/
def Yield.take (source : Text) (yield : Yield) (transition : Transition) : Yield where
  catalog := transition.found.foldl
    (fun catalog text => catalog.record text ⟨source, transition.cursor.line⟩) yield.catalog
  warnings := yield.warnings ++
    transition.problem.toList.map (Warning.mk source transition.cursor.line ·)

/-- Scan lines from a cursor and take in every step: what the scan yields, and what ended it before
the last line. -/
def recordLines (registry : Registry) (delimiter source : Text) (cursor : Cursor)
    (yield : Yield) : List Text → Yield × Option StepError
  | [] => (yield, none)
  | raw :: rest =>
      let scan := scanLine registry delimiter cursor raw
      let yield := scan.steps.transitions.foldl (Yield.take source) yield
      match scan.steps.failure with
      | some failure => (yield, some failure)
      | none => recordLines registry delimiter source scan.next yield rest

/-- An input among others. -/
structure Input where
  lines : List Text
  source : Text
  delimiter : Text

/-- What the scan of an input alone reports. -/
def Input.report (registry : Registry) (input : Input) : Report :=
  scanLines registry input.delimiter input.source input.lines

/-- The catalog that the scan of an input alone leaves. -/
def Input.catalog (registry : Registry) (input : Input) : Catalog :=
  Catalog.empty.recordAll (input.report registry).records

/-- Scan inputs one after the other, each from the beginning of a scan, and record all of them into
one catalog: the catalog behind the last of them, and the warnings of each. -/
def scanInto (registry : Registry) (catalog : Catalog) :
    List Input → Except StepError (Catalog × List (List Warning))
  | [] => .ok (catalog, [])
  | input :: inputs =>
      match recordLines registry input.delimiter input.source {} { catalog } input.lines with
      | (_, some failure) => .error failure
      | (yield, none) =>
          (scanInto registry yield.catalog inputs).map fun others =>
            (others.1, yield.warnings :: others.2)

end SeedCatalog.Scan
