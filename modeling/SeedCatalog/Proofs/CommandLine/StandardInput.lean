import SeedCatalog.Proofs.CommandLine.Run
import SeedCatalog.Proofs.Text.LineEnd

/-!
# The standard input and files

What a scan tells names its source only as the source of each location.  So bytes are read alike
whether they come from the standard input or from a file: the same texts are recorded, and the same
warnings given, at the same lines.  But a toolkit may keep the carriage returns of the standard
input, which are line feeds in a file.
-/

namespace SeedCatalog

/-- The catalog of texts that were found on lines of one source. -/
def Catalog.ofSource (source : Text) (found : List (Text × Int)) : Catalog :=
  Catalog.empty.recordAll (found.map fun entry => (entry.1, ⟨source, entry.2⟩))

namespace Scan

/-- The warnings of problems on lines of one source. -/
def Warning.ofSource (source : Text) (problems : List (Int × Problem)) : List Warning :=
  problems.map fun entry => ⟨source, entry.1, entry.2⟩

/-- The text that an event found, with its line. -/
def Event.found? : Event → Option (Text × Int)
  | .found text line => some (text, line)
  | .warned _ _ => none

/-- The problem that an event gave, with its line. -/
def Event.problem? : Event → Option (Int × Problem)
  | .found _ _ => none
  | .warned problem line => some (line, problem)

theorem records_ofSource (source : Text) (events : List Event) :
    events.filterMap (Event.record? source) =
      (events.filterMap Event.found?).map fun entry => (entry.1, ⟨source, entry.2⟩) := by
  rw [List.map_filterMap]
  congr 1
  funext event
  cases event <;> rfl

theorem warningsOf_ofSource (source : Text) (events : List Event) :
    warningsOf source events = Warning.ofSource source (events.filterMap Event.problem?) := by
  rw [warningsOf, Warning.ofSource, List.map_filterMap]
  congr 1
  funext event
  cases event <;> rfl

/-- What an input leaves and what it warns of depend on its source only in the names of the
locations, and not on the ends of its lines. -/
theorem exists_scanInto_singleton (registry : Registry) (lines : List Text) {delimiter : Text}
    (nonempty : delimiter ≠ []) :
    ∃ found problems, ∀ source lines',
      lines'.map Text.dropLineEnd = lines.map Text.dropLineEnd →
        scanInto registry .empty [⟨lines', source, delimiter⟩] =
          .ok (Catalog.ofSource source found, [Warning.ofSource source problems]) := by
  let events := (account registry delimiter {} lines).events
  refine ⟨events.filterMap Event.found?, events.filterMap Event.problem?, ?_⟩
  intro source lines' same
  have finished : (scanLines registry delimiter source lines).failure = none :=
    failure_scanLines nonempty source lines
  rw [scanLines_eq_report] at finished
  rw [scanInto, recordLines_eq, account_congr same, finished]
  simp only [scanInto, Except.map, Yield.takeAll, List.nil_append, records_ofSource,
    warningsOf_ofSource]
  rfl

end Scan

/-- The number of a line is written in every location alike. -/
theorem Location.isShort_congr {first second : Location} (same : first.line = second.line) :
    first.IsShort ↔ second.IsShort := by
  rw [IsShort, IsShort, same]

theorem Catalog.isShort_ofSource_iff {source : Text} {found : List (Text × Int)} :
    (ofSource source found).IsShort ↔ ∀ entry ∈ found, Location.IsShort ⟨[], entry.2⟩ := by
  simp only [ofSource, isShort_recordAll_iff, isShort_empty, true_and, List.forall_mem_map]
  exact forall₂_congr fun entry _ => Location.isShort_congr rfl

namespace CommandLine

variable {kit : Toolkit} {around : Surroundings} {request : Request} {task : Task} {bytes : Bytes}
  {source text : Text} {lines : List Text} {inputs : List Scan.Input}
  {arguments arguments' : List Text}

/-- The numbers of the lines of what was found, and of the problems unless they are kept back, are
written. -/
def CanReport (quiet : Bool) (found : List (Text × Int)) (problems : List (Int × Scan.Problem)) :
    Prop :=
  (quiet = true ∨ ∀ entry ∈ problems, Location.IsShort ⟨[], entry.1⟩) ∧
    ∀ entry ∈ found, Location.IsShort ⟨[], entry.2⟩

theorem canReport_iff {found : List (Text × Int)} {problems : List (Int × Scan.Problem)}
    (source : Text) :
    CanReport request.quiet found problems ↔
      request.Tells (Scan.Warning.ofSource source problems) ∧
        (Catalog.ofSource source found).IsShort := by
  have tells : request.Tells (Scan.Warning.ofSource source problems) ↔
      (request.quiet = true ∨ ∀ entry ∈ problems, Location.IsShort ⟨[], entry.1⟩) := by
    rw [Request.Tells, Scan.Warning.ofSource, List.forall_mem_map]
    exact or_congr_right (forall₂_congr fun entry _ => Location.isShort_congr rfl)
  rw [CanReport, tells, Catalog.isShort_ofSource_iff]

/-- The run succeeds with texts that were found in one source, and tells problems of it. -/
structure Outcome.EmitsFrom (kit : Toolkit) (view : FileView) (asked : Option Text) (source : Text)
    (found : List (Text × Int)) (problems : List (Int × Scan.Problem)) (outcome : Outcome) :
    Prop where
  emits : ∃ text, (Catalog.ofSource source found).serialize = .ok text ∧
    outcome.Emits kit view asked text
  warnings : outcome.warnings = Scan.Warning.ofSource source problems

/-! ## One input -/

/-- The standard input alone can be read exactly if it is a text. -/
theorem readsAll_standardInput_iff {view : FileView} :
    ReadsAll kit view task bytes [standardInput] inputs ↔
      ∃ text lines, task.config.encoding.decode bytes = .ok text ∧
        kit.lines task.config.encodingName bytes = (lines, none) ∧
        inputs = [task.inputOf standardSource lines] := by
  constructor
  · intro reads
    obtain _ | ⟨first, _ | _⟩ := reads
    cases first with
    | standard decoded given => exact ⟨_, _, decoded, given, rfl⟩
    | file named => exact absurd rfl named
  · rintro ⟨text, lines, decoded, given, rfl⟩
    exact .cons (.standard decoded given) .nil

/-- A file that is not too large can be read exactly if its bytes are a text. -/
theorem readsAll_file_iff {view : FileView} {standard : Bytes} (named : source ≠ standardInput)
    (leads : LeadsTo view source bytes) (small : (bytes.length : Int) ≤ task.limit) :
    ReadsAll kit view task standard [source] inputs ↔
      ∃ text, task.config.encoding.decode bytes = .ok text ∧
        inputs = [task.inputOf source (Text.unifyLineEnds text).lines] := by
  constructor
  · intro reads
    obtain _ | ⟨first, _ | _⟩ := reads
    cases first with
    | standard => exact absurd rfl named
    | file _ leads' _ decoded =>
        obtain ⟨place, resolved, read⟩ := leads
        obtain ⟨place', resolved', read'⟩ := leads'
        rw [resolved, Except.ok.injEq] at resolved'
        subst resolved'
        rw [read, Except.ok.injEq] at read'
        exact ⟨_, read' ▸ decoded, rfl⟩
  · rintro ⟨text, decoded, rfl⟩
    exact .cons (.file named leads small decoded) .nil

/-- What a run on one input emits depends on its source only in the names of the locations. -/
theorem Feasible.run_ofSource (exits : kit.Exits) (prints : kit.Prints)
    (wellFormed : around.view.WellFormed)
    (feasible : Feasible kit around request task [task.inputOf source lines])
    {found : List (Text × Int)} {problems : List (Int × Scan.Problem)}
    (scanned : Scan.scanInto task.config.registry .empty [task.inputOf source lines] =
      .ok (Catalog.ofSource source found, [Scan.Warning.ofSource source problems])) :
    (CanReport request.quiet found problems →
        (request.run kit around).EmitsFrom kit around.view request.output source found
          (if request.quiet then [] else problems)) ∧
      (¬CanReport request.quiet found problems →
        (request.run kit around).HasFailed kit around.view) := by
  obtain ⟨catalog, warnings, scanned', emits, fails⟩ := feasible.run_spec exits prints wellFormed
  rw [scanned, Except.ok.injEq, Prod.mk.injEq] at scanned'
  obtain ⟨rfl, rfl⟩ := scanned'
  rw [List.flatten_singleton] at emits fails
  rw [canReport_iff source]
  refine ⟨?_, fails⟩
  rintro ⟨tells, short⟩
  have written := Catalog.serialize_of_isShort short
  obtain ⟨emitted, told⟩ := emits tells _ written
  refine ⟨⟨_, written, emitted⟩, told.trans ?_⟩
  split <;> rfl

/-! ## Two runs -/

/-- The request with one file as its input. -/
def Request.onFile (request : Request) (source : Text) : Request :=
  { request with inputs := [source] }

/-- The bytes are a text in the encoding of a task, and the catalog of a request can be written. -/
structure Readable (around : Surroundings) (request : Request) (bytes : Bytes) (task : Task)
    (text : Text) : Prop where
  started : Task.ofRequest around request = .ok task
  decoded : task.config.encoding.decode bytes = .ok text
  writable : ∀ path, request.output = some path → around.view.Writable (Path.ofText path)

/-- The standard input can be read exactly if its bytes are a text. -/
theorem feasible_standardInput_iff (asked : request.sources = [standardInput]) :
    Feasible kit { around with input := bytes } request task inputs ↔
      ∃ text lines, Readable around request bytes task text ∧
        kit.lines task.config.encodingName bytes = (lines, none) ∧
        inputs = [task.inputOf standardSource lines] := by
  constructor
  · rintro ⟨loads, limited, reads, writable⟩
    rw [asked] at reads
    obtain ⟨text, lines, decoded, given, rfl⟩ := readsAll_standardInput_iff.1 reads
    exact ⟨text, lines, ⟨Task.ofRequest_eq_ok_iff.2 ⟨loads, limited⟩, decoded, writable⟩, given,
      rfl⟩
  · rintro ⟨text, lines, ⟨started, decoded, writable⟩, given, rfl⟩
    obtain ⟨loads, limited⟩ := Task.ofRequest_eq_ok_iff.1 started
    refine ⟨loads, limited, ?_, writable⟩
    rw [asked]
    exact readsAll_standardInput_iff.2 ⟨text, lines, decoded, given, rfl⟩

/-- A file that is not too large can be read exactly if its bytes are a text. -/
theorem feasible_onFile_iff (named : source ≠ standardInput)
    (leads : LeadsTo around.view source bytes)
    (small : ∀ task, Task.ofRequest around request = .ok task →
      (bytes.length : Int) ≤ task.limit) :
    Feasible kit around (request.onFile source) task inputs ↔
      ∃ text, Readable around request bytes task text ∧
        inputs = [task.inputOf source (Text.unifyLineEnds text).lines] := by
  constructor
  · rintro ⟨loads, limited, reads, writable⟩
    have started : Task.ofRequest around request = .ok task :=
      Task.ofRequest_eq_ok_iff.2 ⟨loads, limited⟩
    obtain ⟨text, decoded, rfl⟩ := (readsAll_file_iff named leads (small task started)).1 reads
    exact ⟨text, ⟨started, decoded, writable⟩, rfl⟩
  · rintro ⟨text, ⟨started, decoded, writable⟩, rfl⟩
    obtain ⟨loads, limited⟩ := Task.ofRequest_eq_ok_iff.1 started
    exact ⟨loads, limited, (readsAll_file_iff named leads (small task started)).2
      ⟨text, decoded, rfl⟩, writable⟩

/-- A text is read from the standard input as its own lines, up to their ends, if no carriage return
stands elsewhere or all become line feeds. -/
theorem exists_lines_of_decode (decodes : kit.Decodes) (known : task.Known)
    (decoded : task.config.encoding.decode bytes = .ok text)
    (alike : kit.Unifies task.config.encodingName ∨ Text.ReturnsEndLines text) :
    ∃ lines, kit.lines task.config.encodingName bytes = (lines, none) ∧
      lines.map Text.dropLineEnd = (Text.unifyLineEnds text).lines.map Text.dropLineEnd := by
  rcases alike with unifies | ended
  · exact ⟨_, unifies _ _ _ known decoded, rfl⟩
  · rcases decodes.text _ _ _ _ known decoded with given | given
    · exact ⟨_, given, ended⟩
    · exact ⟨_, given, rfl⟩

section TwoRuns

variable (exits : kit.Exits) (prints : kit.Prints) (decodes : kit.Decodes)
  (wellFormed : around.view.WellFormed) (asked : request.sources = [standardInput])
  (named : source ≠ standardInput) (leads : LeadsTo around.view source bytes)
  (small : ∀ task, Task.ofRequest around request = .ok task → (bytes.length : Int) ≤ task.limit)

include exits prints decodes wellFormed asked named leads small

/-- What cannot be read is read neither from the standard input nor from a file. -/
theorem hasFailed_of_unreadable
    (unreadable : ¬∃ task text, Readable around request bytes task text) :
    (request.run kit { around with input := bytes }).HasFailed kit around.view ∧
      ((request.onFile source).run kit around).HasFailed kit around.view := by
  have wellFormed' : { around with input := bytes }.view.WellFormed := wellFormed
  constructor
  · refine Request.hasFailed_of_infeasible exits prints decodes wellFormed' ?_
    rintro ⟨task, inputs, feasible⟩
    obtain ⟨text, _, readable, -⟩ := (feasible_standardInput_iff asked).1 feasible
    exact unreadable ⟨task, text, readable⟩
  · refine Request.hasFailed_of_infeasible exits prints decodes wellFormed ?_
    rintro ⟨task, inputs, feasible⟩
    obtain ⟨text, readable, -⟩ := (feasible_onFile_iff named leads small).1 feasible
    exact unreadable ⟨task, text, readable⟩

/-- What can be read is scanned alike from the standard input and from a file. -/
theorem Readable.emitsFrom_or_hasFailed (readable : Readable around request bytes task text)
    (alike : kit.Unifies task.config.encodingName ∨ Text.ReturnsEndLines text) :
    (∃ found problems,
        (request.run kit { around with input := bytes }).EmitsFrom kit around.view request.output
            standardSource found problems ∧
          ((request.onFile source).run kit around).EmitsFrom kit around.view request.output source
            found problems) ∨
      (request.run kit { around with input := bytes }).HasFailed kit around.view ∧
        ((request.onFile source).run kit around).HasFailed kit around.view := by
  obtain ⟨lines, given, same⟩ :=
    exists_lines_of_decode decodes (Task.known_of_ofRequest readable.started) readable.decoded alike
  obtain ⟨found, problems, scanned⟩ := Scan.exists_scanInto_singleton task.config.registry
    (Text.unifyLineEnds text).lines (List.cons_ne_nil task.config.delimiter [])
  have onInput : Feasible kit { around with input := bytes } request task
      [task.inputOf standardSource lines] :=
    (feasible_standardInput_iff asked).2 ⟨text, lines, readable, given, rfl⟩
  have onFile : Feasible kit around (request.onFile source) task
      [task.inputOf source (Text.unifyLineEnds text).lines] :=
    (feasible_onFile_iff named leads small).2 ⟨text, readable, rfl⟩
  have wellFormed' : { around with input := bytes }.view.WellFormed := wellFormed
  obtain ⟨emits, fails⟩ := onInput.run_ofSource exits prints wellFormed'
    (scanned standardSource lines same)
  obtain ⟨emits', fails'⟩ := onFile.run_ofSource exits prints wellFormed (scanned source _ rfl)
  by_cases written : CanReport request.quiet found problems
  · exact .inl ⟨found, if request.quiet then [] else problems, emits written, emits' written⟩
  · exact .inr ⟨fails written, fails' written⟩

end TwoRuns

/-- The same bytes on the standard input and in a file give the same texts and warnings or fail
alike, unless the toolkit keeps a carriage return of the standard input within a line. -/
theorem run_standardInput_file (exits : kit.Exits) (prints : kit.Prints) (decodes : kit.Decodes)
    (wellFormed : around.view.WellFormed)
    (accepted : kit.read around.view arguments = .ok request)
    (accepted' : kit.read around.view arguments' = .ok (request.onFile source))
    (asked : request.sources = [standardInput]) (named : source ≠ standardInput)
    (leads : LeadsTo around.view source bytes)
    (small : ∀ task, Task.ofRequest around request = .ok task → (bytes.length : Int) ≤ task.limit)
    (alike : ∀ task text, Task.ofRequest around request = .ok task →
      task.config.encoding.decode bytes = .ok text →
        kit.Unifies task.config.encodingName ∨ Text.ReturnsEndLines text) :
    let onInput := run kit { around with input := bytes } arguments
    let onFile := run kit around arguments'
    ((∃ found problems,
          onInput.EmitsFrom kit around.view request.output standardSource found problems ∧
            onFile.EmitsFrom kit around.view request.output source found problems) ∨
        onInput.HasFailed kit around.view ∧ onFile.HasFailed kit around.view) ∧
      ∀ task, Task.ofRequest around request = .ok task →
        (∀ text, task.config.encoding.decode bytes ≠ .ok text) →
          onInput.HasFailed kit around.view ∧ onFile.HasFailed kit around.view := by
  intro onInput onFile
  have input : onInput = request.run kit { around with input := bytes } := by
    simp only [onInput, run, accepted]
  have fromFile : onFile = (request.onFile source).run kit around := by
    simp only [onFile, run, accepted']
  have failed := hasFailed_of_unreadable exits prints decodes wellFormed asked named leads small
  rw [input, fromFile]
  constructor
  · by_cases readable : ∃ task text, Readable around request bytes task text
    · obtain ⟨task, text, readable⟩ := readable
      exact readable.emitsFrom_or_hasFailed exits prints decodes wellFormed asked named leads small
        (alike task text readable.started readable.decoded)
    · exact .inr (failed readable)
  · intro task started undecodable
    apply failed
    rintro ⟨task', text, started', decoded, -⟩
    rw [started, Except.ok.injEq] at started'
    subst started'
    exact undecodable text decoded

/-- A script in Windows-1252 is read under either name; with a byte that stands for no character it
is read under neither. -/
theorem run_standardInput_file_windows1252 :
    let kit := Console.toolkit { keepsReturns := true }
    let script := Utf8.encode "INSERT INTO country (name) VALUES ('z\r'), (();\r".toList
    let bytes := script.map fun b => if b = 122 then 128 else b
    let broken := script.map fun b => if b = 122 then 129 else b
    let tree := (FileTree.empty.put ["good.sql".toList] (.file bytes)).put ["bad.sql".toList]
      (.file broken)
    let around : Surroundings := { view := ⟨tree, [], []⟩, temporary := "tmp".toList }
    let arguments (source : Text) := ["--encoding".toList, "Windows-1252".toList, source]
    let request : Request :=
      { encoding := some "Windows-1252".toList, inputs := [standardInput] }
    let onInput (bytes : Bytes) := run kit { around with input := bytes } (arguments standardInput)
    let onFile (source : String) := run kit around (arguments source.toList)
    (kit.Exits ∧ kit.Prints ∧ kit.Decodes ∧ kit.Unifies "Windows-1252".toList) ∧
      around.view.WellFormed ∧ kit.read around.view (arguments standardInput) = .ok request ∧
      (∃ found problems,
        (onInput bytes).EmitsFrom kit around.view none standardSource found problems ∧
          (onFile "good.sql").EmitsFrom kit around.view none "good.sql".toList found problems) ∧
      (onInput bytes).output = "#: <stdin>:2\nmsgid \"€\n\"\nmsgstr \"\"\n\n".toList ∧
      (onInput broken).HasFailed kit around.view ∧
      (onFile "bad.sql").HasFailed kit around.view := by
  intro kit script bytes broken tree around arguments request onInput onFile
  let config : Config :=
    { Config.default with encodingName := "Windows-1252".toList, encoding := .windows1252 }
  have exits : kit.Exits := Console.exits _
  have prints : kit.Prints := Console.prints _
  have decodes : kit.Decodes := Console.decodes _
  have unifies : kit.Unifies "Windows-1252".toList := Console.unifies _ fun _ => by decide
  have wellFormed : around.view.WellFormed := by decide +kernel
  have started : Task.ofRequest around request = .ok ⟨config, 52428800⟩ := rfl
  have small (bytes : Bytes) (within : (bytes.length : Int) ≤ 52428800) (task : Task)
      (same : Task.ofRequest around request = .ok task) : (bytes.length : Int) ≤ task.limit := by
    rw [started, Except.ok.injEq] at same
    rwa [← same]
  have alike (bytes : Bytes) (task : Task) (text : Text)
      (same : Task.ofRequest around request = .ok task)
      (_ : task.config.encoding.decode bytes = .ok text) :
      kit.Unifies task.config.encodingName ∨ Text.ReturnsEndLines text := by
    rw [started, Except.ok.injEq] at same
    exact .inl (same ▸ unifies)
  have accepted : kit.read around.view (arguments standardInput) = .ok request := by
    decide +kernel
  have leads : LeadsTo around.view "good.sql".toList bytes :=
    ⟨["good.sql".toList], by decide +kernel, by decide +kernel⟩
  have leads' : LeadsTo around.view "bad.sql".toList broken :=
    ⟨["bad.sql".toList], by decide +kernel, by decide +kernel⟩
  have succeeds : (onInput bytes).exitCode kit = 0 := by decide +kernel
  have undecodable : (Encoding.windows1252.decode broken).toOption = none := by decide +kernel
  have onGood : kit.read around.view (arguments "good.sql".toList) =
      .ok (request.onFile "good.sql".toList) := by decide +kernel
  have onBad : kit.read around.view (arguments "bad.sql".toList) =
      .ok (request.onFile "bad.sql".toList) := by decide +kernel
  obtain ⟨same, -⟩ := run_standardInput_file exits prints decodes wellFormed accepted onGood rfl
    (by decide) leads (small bytes (by decide +kernel)) (alike bytes)
  obtain ⟨-, failed⟩ := run_standardInput_file exits prints decodes wellFormed accepted onBad rfl
    (by decide) leads' (small broken (by decide +kernel)) (alike broken)
  refine ⟨⟨exits, prints, decodes, unifies⟩, wellFormed, accepted, ?_, by decide +kernel, ?_⟩
  · apply same.resolve_right
    rintro ⟨onInput, -⟩
    exact onInput.fails succeeds
  · refine failed ⟨config, 52428800⟩ started fun text decoded => ?_
    simp only [config] at decoded
    rw [decoded] at undecodable
    cases undecodable

/-- A carriage return in a literal is kept where the standard input is set to the encoding that is
asked for, and not in a file.  And a control sequence in the name of a file is not printed. -/
theorem standardInput_differs_from_file :
    let keeping := Console.toolkit { keepsReturns := true }
    let plain := Console.toolkit {}
    let script := Utf8.encode "INSERT INTO menu_node (label) VALUES ('A\rB');\n".toList
    let source := "\x1b[1mA.sql".toList
    let around : Surroundings :=
      { view := ⟨FileTree.empty.put [source] (.file script), [], []⟩
        input := script
        temporary := "tmp".toList }
    let arguments (source : Text) := ["--encoding".toList, "utf-8".toList, source]
    let onInput (kit : Toolkit) := run kit around (arguments standardInput)
    let onFile (kit : Toolkit) := run kit around (arguments source)
    (keeping.Exits ∧ keeping.Prints ∧ keeping.Decodes) ∧
      (plain.Exits ∧ plain.Prints ∧ plain.Decodes) ∧
      around.view.WellFormed ∧ LeadsTo around.view source script ∧
      (onInput keeping).exitCode keeping = 0 ∧ (onFile keeping).exitCode keeping = 0 ∧
      (onInput plain).exitCode plain = 0 ∧ (onFile plain).exitCode plain = 0 ∧
      (onInput keeping).output = "#: <stdin>:1\nmsgid \"A\rB\"\nmsgstr \"\"\n\n".toList ∧
      (onInput plain).output = "#: <stdin>:2\nmsgid \"A\nB\"\nmsgstr \"\"\n\n".toList ∧
      (Catalog.ofSource source [("A\nB".toList, 2)]).serialize.toOption =
        some "#: \x1b[1mA.sql:2\nmsgid \"A\nB\"\nmsgstr \"\"\n\n".toList ∧
      (onFile keeping).output = "#: A.sql:2\nmsgid \"A\nB\"\nmsgstr \"\"\n\n".toList ∧
      (onFile plain).output = "#: A.sql:2\nmsgid \"A\nB\"\nmsgstr \"\"\n\n".toList := by
  intro keeping plain script source around arguments onInput onFile
  refine ⟨⟨Console.exits _, Console.prints _, Console.decodes _⟩,
    ⟨Console.exits _, Console.prints _, Console.decodes _⟩, by decide +kernel,
    ⟨[source], by decide +kernel, by decide +kernel⟩, ?_⟩
  decide +kernel

end CommandLine

end SeedCatalog
