import SeedCatalog.CommandLine.Run
import SeedCatalog.Proofs.Catalog.Grouping
import SeedCatalog.Proofs.Scan.Boundary
import SeedCatalog.Proofs.Scan.Recovery
import SeedCatalog.Scan.Shared

/-!
# Several inputs and one catalog

Inputs may be recorded into one catalog, while they are scanned one after the other.  The scan of
each begins with a cursor of its own, and nothing that it records depends on what the catalog holds.
So a run over several inputs gives the warnings that each of them gives alone, and merges the
catalogs that they leave alone, wherever the inputs break off.
-/

namespace SeedCatalog.Scan

variable {registry : Registry} {delimiter source : Text}

/-! ## Recording while scanning -/

/-- Take in events, the texts and the warnings apart. -/
def Yield.takeAll (source : Text) (yield : Yield) (events : List Event) : Yield where
  catalog := yield.catalog.recordAll (events.filterMap (Event.record? source))
  warnings := yield.warnings ++ warningsOf source events

@[simp]
theorem Yield.takeAll_nil (yield : Yield) : yield.takeAll source [] = yield := by
  simp [takeAll, Catalog.recordAll, warningsOf]

theorem Yield.takeAll_append (yield : Yield) (first second : List Event) :
    yield.takeAll source (first ++ second) =
      (yield.takeAll source first).takeAll source second := by
  simp [takeAll, Catalog.recordAll, warningsOf, List.filterMap_append]

theorem recordsOf_events (transition : Transition) :
    transition.events.filterMap (Event.record? source) =
      transition.found.map (·, ⟨source, transition.cursor.line⟩) := by
  have warned : (transition.problem.toList.map (Event.warned · transition.cursor.line)).filterMap
      (Event.record? source) = [] := by
    cases transition.problem <;> rfl
  rw [Transition.events, List.filterMap_append, warned, List.append_nil, List.filterMap_map,
    ← List.filterMap_eq_map]
  rfl

/-- A step is taken in as its events are. -/
theorem Yield.take_eq_takeAll (yield : Yield) (transition : Transition) :
    yield.take source transition = yield.takeAll source transition.events := by
  rw [take, takeAll, recordsOf_events, warningsOf_events, Catalog.recordAll, List.foldl_map]

theorem Yield.foldl_take (yield : Yield) (transitions : List Transition) :
    transitions.foldl (Yield.take source) yield =
      yield.takeAll source (transitions.flatMap Transition.events) := by
  induction transitions generalizing yield with
  | nil => exact yield.takeAll_nil.symm
  | cons transition transitions ih =>
      rw [List.foldl_cons, ih, List.flatMap_cons, takeAll_append, take_eq_takeAll]

/-- What a scan into a catalog yields is what its account tells, taken in behind what was there. -/
theorem recordLines_eq (cursor : Cursor) (yield : Yield) (lines : List Text) :
    recordLines registry delimiter source cursor yield lines =
      (yield.takeAll source (account registry delimiter cursor lines).events,
        ((account registry delimiter cursor lines).report source).failure) := by
  induction lines generalizing cursor yield with
  | nil =>
      rw [account, Account.rest, Yield.takeAll_nil]
      rfl
  | cons raw rest ih =>
      rw [recordLines, account, LineScan.account_scanLine, Account.andThen, Yield.foldl_take]
      cases failure : (scanLine registry delimiter cursor raw).steps.failure with
      | some failure => rfl
      | none =>
          simp only [ih, Account.events_after, Yield.takeAll_append]
          rfl

/-! ## One input after the other -/

/-- The scan of an input into a catalog warns as the scan of the input alone, and leaves what the
catalog held merged with what the input leaves alone. -/
theorem recordLines_input (catalog : Catalog) {input : Input} (nonempty : input.delimiter ≠ []) :
    recordLines registry input.delimiter input.source {} { catalog } input.lines =
      (⟨catalog.merge (input.catalog registry), (input.report registry).warnings⟩, none) := by
  have finished : (scanLines registry input.delimiter input.source input.lines).failure = none :=
    failure_scanLines nonempty input.source input.lines
  rw [scanLines_eq_report] at finished
  rw [recordLines_eq, finished, Input.catalog, ← Catalog.recordAll_eq_merge, Input.report,
    scanLines_eq_report]
  rfl

/-- Inputs that are scanned one after the other give the warnings that each gives alone, and leave
the catalogs that each leaves alone merged into one. -/
theorem scanInto_eq_merge (registry : Registry) (catalog : Catalog) {inputs : List Input}
    (nonempty : ∀ input ∈ inputs, input.delimiter ≠ []) :
    scanInto registry catalog inputs =
        .ok ((inputs.map (Input.catalog registry)).foldl Catalog.merge catalog,
          inputs.map fun input => (input.report registry).warnings) ∧
      (∀ input ∈ inputs, (input.report registry).failure = none) ∧
      ∀ first second : Catalog,
        (first.merge second).texts = first.texts ++ second.texts.removeAll first.texts ∧
          ∀ text, (first.merge second).locations text =
            first.locations text ++ second.locations text := by
  refine ⟨?_, ?_, ?_⟩
  case refine_1 =>
    induction inputs generalizing catalog with
    | nil => rfl
    | cons input inputs ih =>
        have ih := fun catalog => ih catalog fun input mem =>
          nonempty input (List.mem_cons_of_mem _ mem)
        rw [scanInto, recordLines_input catalog (nonempty input List.mem_cons_self)]
        simp only [ih, Except.map, List.map_cons, List.foldl_cons]
  case refine_2 => exact fun input mem => failure_scanLines (nonempty input mem) _ _
  case refine_3 =>
    exact fun first second => ⟨first.texts_merge second, first.locations_merge second⟩

/-- The inputs break off inside a literal, among the rows of a COPY and inside a comment; the inputs
behind them neither end what is broken off nor belong to it. -/
theorem scanInto_eq_merge_broken :
    let registry := Registry.ofTables [("menu_node".toList, ["label".toList])]
    let inputs : List Input :=
      [⟨["INSERT INTO menu_node (label) VALUES ('A'), ('B\n".toList], "a".toList, ['\t']⟩,
        ⟨["'); INSERT INTO menu_node;\n".toList], "b".toList, ['\t']⟩,
        ⟨["COPY menu_node (id, label) FROM stdin;\n".toList, "1,A\n".toList], "b".toList, [',']⟩,
        ⟨["INSERT INTO menu_node (label) VALUES ('C'), /*".toList], "a".toList, [',']⟩,
        ⟨["*/ INSERT INTO menu_node (label) VALUES ('A');".toList], "c".toList, [',']⟩]
    (∀ input ∈ inputs, input.delimiter ≠ []) ∧
      (scanInto registry .empty inputs).toOption.map (fun run => (run.1.entries.entries, run.2)) =
        some ([("A".toList, [⟨"a".toList, 1⟩, ⟨"b".toList, 2⟩, ⟨"c".toList, 1⟩]),
            ("C".toList, [⟨"a".toList, 1⟩])],
          [[], [⟨"b".toList, 1, .columnsMissing "menu_node".toList⟩], [], [], []]) := by
  intro registry inputs
  have nonempty : ∀ input ∈ inputs, input.delimiter ≠ [] := by decide
  obtain ⟨run, _⟩ := scanInto_eq_merge registry .empty nonempty
  refine ⟨nonempty, ?_⟩
  rw [run]
  decide +kernel

end SeedCatalog.Scan

namespace SeedCatalog.CommandLine

variable {kit : Toolkit} {view : FileView} {task : Task} {source : Text}

/-- The scan of a file as the only one. -/
def fileAlone (view : FileView) (task : Task) (source : Text) : Progress × Option Failure :=
  scanFile view task { input := [] } source

/-- What the scan of a file yields is put behind what there was, and it fails as it fails alone. -/
theorem scanFile_eq (progress : Progress) :
    scanFile view task progress source =
      ({ progress with
          catalog := progress.catalog.merge (fileAlone view task source).1.catalog
          warnings := progress.warnings ++ (fileAlone view task source).1.warnings },
        (fileAlone view task source).2) := by
  rw [fileAlone, scanFile, scanFile]
  split
  · simp
  · simp only
    split
    · simp
    · simp [Progress.add, Catalog.recordAll_eq_merge progress.catalog]

/-- The files of a command do not influence each other. -/
theorem scanInputs_eq_merge {sources : List Text}
    (named : ∀ source ∈ sources, source ≠ standardInput)
    (scanned : ∀ source ∈ sources, (fileAlone view task source).2 = none) (progress : Progress) :
    scanInputs kit view task progress sources =
      ({ progress with
          catalog := (sources.map fun source => (fileAlone view task source).1.catalog).foldl
            Catalog.merge progress.catalog
          warnings := progress.warnings ++
            sources.flatMap fun source => (fileAlone view task source).1.warnings },
        none) := by
  induction sources generalizing progress with
  | nil => simp [scanInputs]
  | cons source sources ih =>
      have ih := ih (fun source mem => named source (List.mem_cons_of_mem _ mem))
        (fun source mem => scanned source (List.mem_cons_of_mem _ mem))
      rw [scanInputs, scanInput, if_neg (named source List.mem_cons_self), scanFile_eq,
        scanned source List.mem_cons_self]
      simp [ih]

end SeedCatalog.CommandLine
