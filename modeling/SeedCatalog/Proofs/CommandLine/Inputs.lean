import SeedCatalog.Proofs.CommandLine.Toolkit
import SeedCatalog.Proofs.Files.Tree
import SeedCatalog.Proofs.Scan.File
import SeedCatalog.Proofs.Scan.Shared

/-!
# The inputs of a run

An input is the standard input or a file.  A run goes on behind an input exactly if the input can be
read: its bytes are there, they are not too many, and they are a text in the encoding of the
configuration.  The first use of the standard input takes all of it, and leaves nothing to the next
one.
-/

namespace SeedCatalog

/-- The path of a place leads to a file with the bytes. -/
theorem FileView.readBytes_eq_ok_iff {view : FileView} {path : Path} {bytes : Bytes} :
    view.readBytes path = .ok bytes ↔
      path.hasNul = false ∧ ∃ place, view.find path = .ok (place, .file bytes) := by
  rw [readBytes]
  split
  · rename_i nul
    simp [nul]
  · rename_i noNul
    cases view.find path with
    | error obstacle => cases obstacle <;> simp
    | ok there =>
        obtain ⟨place, entry⟩ := there
        cases entry <;> simp [noNul]

theorem FileView.fileSize_eq_ok_iff {view : FileView} {path : Path} {size : Nat} :
    view.fileSize path = .ok size ↔
      ∃ bytes, view.readBytes path = .ok bytes ∧ bytes.length = size := by
  simp only [readBytes_eq_ok_iff]
  rw [fileSize]
  split
  · rename_i nul
    simp [nul]
  · rename_i noNul
    cases view.find path with
    | error obstacle => simp
    | ok there =>
        obtain ⟨place, entry⟩ := there
        cases entry <;> simp [noNul]

namespace CommandLine

/-- An input leads to a file with the bytes. -/
def LeadsTo (view : FileView) (source : Text) (bytes : Bytes) : Prop :=
  ∃ place, view.resolve (Path.ofText source) = .ok place ∧
    view.readBytes (Path.ofPlace place) = .ok bytes

/-- Lines as they are scanned for a task. -/
def Task.inputOf (task : Task) (source : Text) (lines : List Text) : Scan.Input :=
  ⟨lines, source, [task.config.delimiter]⟩

/-- An input can be read, given the standard input before it and behind it. -/
inductive Reads (kit : Toolkit) (view : FileView) (task : Task) (standard : Bytes) :
    (source : Text) → Scan.Input → (left : Bytes) → Prop
  | standard {text : Text} {lines : List Text}
      (decoded : task.config.encoding.decode standard = .ok text)
      (given : kit.lines task.config.encodingName standard = (lines, none)) :
      Reads kit view task standard standardInput (task.inputOf standardSource lines) []
  | file {source text : Text} {bytes : Bytes} (named : source ≠ standardInput)
      (leads : LeadsTo view source bytes) (small : (bytes.length : Int) ≤ task.limit)
      (decoded : task.config.encoding.decode bytes = .ok text) :
      Reads kit view task standard source
        (task.inputOf source (Text.unifyLineEnds text).lines) standard

/-- Several inputs can be read, one after the other. -/
inductive ReadsAll (kit : Toolkit) (view : FileView) (task : Task) : (standard : Bytes) →
    List Text → List Scan.Input → Prop
  | nil {standard : Bytes} : ReadsAll kit view task standard [] []
  | cons {standard left : Bytes} {source : Text} {sources : List Text} {input : Scan.Input}
      {inputs : List Scan.Input} (first : Reads kit view task standard source input left)
      (others : ReadsAll kit view task left sources inputs) :
      ReadsAll kit view task standard (source :: sources) (input :: inputs)

/-- The name of the encoding stands for the encoding. -/
def Task.Known (task : Task) : Prop :=
  Encoding.find task.config.encodingName = .ok task.config.encoding

variable {kit : Toolkit} {view : FileView} {task : Task} {progress : Progress} {left bytes : Bytes}
  {source text : Text} {input : Scan.Input}

/-! ## One input -/

/-- The standard input is scanned if it is a text. -/
theorem scanStandardInput_of_lines {lines : List Text}
    (given : kit.lines task.config.encodingName progress.input = (lines, none)) :
    scanStandardInput kit task progress =
      ({ progress.add ((task.inputOf standardSource lines).report task.config.registry) with
          input := [] },
        none) := by
  have finished : (Scan.scanLines task.config.registry [task.config.delimiter] standardSource
      lines).failure = none := Scan.failure_scanLines (by simp) _ _
  simp [scanStandardInput, given, finished, Task.inputOf, Scan.Input.report]

/-- The standard input is a text if its scan comes to the end. -/
theorem exists_lines_of_scanStandardInput (decodes : kit.Decodes) (known : task.Known)
    (finished : (scanStandardInput kit task progress).2 = none) :
    ∃ text lines, task.config.encoding.decode progress.input = .ok text ∧
      kit.lines task.config.encodingName progress.input = (lines, none) := by
  have faultless : (kit.lines task.config.encodingName progress.input).2 = none := by
    simpa [scanStandardInput, Scan.failure_scanLines] using finished
  by_cases decoded : ∃ text, task.config.encoding.decode progress.input = .ok text
  · obtain ⟨text, decoded⟩ := decoded
    exact ⟨text, _, decoded, Prod.ext rfl faultless⟩
  · exact absurd faultless (decodes.fault _ _ _ known (not_exists.1 decoded))

/-- The size of a file is within the limit. -/
theorem bind_checkSize_eq_ok_iff {path : Path} :
    ((view.fileSize path).bind fun size => FileView.checkSize size task.limit path) = .ok () ↔
      ∃ bytes, view.readBytes path = .ok bytes ∧ (bytes.length : Int) ≤ task.limit := by
  cases sized : view.fileSize path with
  | error error =>
      have unread : ∀ bytes, view.readBytes path ≠ .ok bytes := by
        intro bytes read
        have := FileView.fileSize_eq_ok_iff.2 ⟨bytes, read, rfl⟩
        rw [sized] at this
        contradiction
      simp [Except.bind, unread]
  | ok size =>
      obtain ⟨bytes, read, rfl⟩ := FileView.fileSize_eq_ok_iff.1 sized
      simp [Except.bind, FileView.checkSize, read]

/-- A file that can be read is scanned. -/
theorem scanFile_of_leadsTo (known : task.Known) (leads : LeadsTo view source bytes)
    (small : (bytes.length : Int) ≤ task.limit)
    (decoded : task.config.encoding.decode bytes = .ok text) :
    scanFile view task progress source =
      (progress.add ((task.inputOf source (Text.unifyLineEnds text).lines).report
          task.config.registry),
        none) := by
  obtain ⟨place, resolved, read⟩ := leads
  have sized : ((view.fileSize (Path.ofPlace place)).bind fun size =>
      FileView.checkSize size task.limit (Path.ofPlace place)) = .ok () :=
    bind_checkSize_eq_ok_iff.2 ⟨bytes, read, small⟩
  have scanned := Scan.scanFile_of_readBytes task.config.registry
    (List.cons_ne_nil task.config.delimiter []) source known read
  rw [Scan.scanBytes_of_decode decoded] at scanned
  simp only [scanFile, resolved, sized, scanned, Option.map_none]
  rfl

theorem exists_leadsTo_of_scanFile (known : task.Known)
    (finished : (scanFile view task progress source).2 = none) :
    ∃ bytes text, LeadsTo view source bytes ∧ (bytes.length : Int) ≤ task.limit ∧
      task.config.encoding.decode bytes = .ok text := by
  rw [scanFile] at finished
  split at finished
  · contradiction
  · rename_i place resolved
    simp only at finished
    split at finished
    · contradiction
    · rename_i sized
      obtain ⟨bytes, read, small⟩ := bind_checkSize_eq_ok_iff.1 sized
      rw [Scan.scanFile_of_readBytes _ (by simp) _ known read] at finished
      have faultless : (Scan.scanBytes task.config.registry [task.config.delimiter]
          task.config.encoding source bytes).fault = none := by simpa using finished
      obtain ⟨text, decoded⟩ := Scan.exists_decode_of_scanBytes (by simp) faultless
      exact ⟨bytes, text, ⟨place, resolved, read⟩, small, decoded⟩

/-- An input that can be read is scanned. -/
theorem scanInput_of_reads (known : task.Known)
    (reads : Reads kit view task progress.input source input left) :
    scanInput kit view task progress source =
      ({ progress.add (input.report task.config.registry) with input := left }, none) := by
  cases reads with
  | standard decoded given => exact scanStandardInput_of_lines given
  | file named leads small decoded =>
      rw [scanInput, if_neg named, scanFile_of_leadsTo known leads small decoded]
      rfl

/-- A run goes on only behind an input that can be read. -/
theorem exists_reads_of_scanInput (decodes : kit.Decodes) (known : task.Known)
    (finished : (scanInput kit view task progress source).2 = none) :
    ∃ input left, Reads kit view task progress.input source input left := by
  rw [scanInput] at finished
  split at finished
  · rename_i standard
    subst standard
    obtain ⟨text, lines, decoded, given⟩ :=
      exists_lines_of_scanStandardInput decodes known finished
    exact ⟨_, _, .standard decoded given⟩
  · rename_i named
    obtain ⟨bytes, text, leads, small, decoded⟩ := exists_leadsTo_of_scanFile known finished
    exact ⟨_, _, .file named leads small decoded⟩

/-! ## All inputs -/

/-- The delimiter of an input that can be read is a character. -/
theorem Reads.delimiter_ne_nil {standard : Bytes}
    (reads : Reads kit view task standard source input left) : input.delimiter ≠ [] := by
  cases reads <;> exact List.cons_ne_nil _ _

theorem ReadsAll.delimiter_ne_nil {standard : Bytes} {sources : List Text}
    {inputs : List Scan.Input} (reads : ReadsAll kit view task standard sources inputs) :
    ∀ input ∈ inputs, input.delimiter ≠ [] := by
  induction reads with
  | nil => exact nofun
  | cons first _ ih => exact List.forall_mem_cons.2 ⟨first.delimiter_ne_nil, ih⟩

/-- Every file among inputs that can be read is there. -/
theorem ReadsAll.exists_leadsTo {standard : Bytes} {sources : List Text}
    {inputs : List Scan.Input} (reads : ReadsAll kit view task standard sources inputs)
    (mem : source ∈ sources) (named : source ≠ standardInput) :
    ∃ bytes, LeadsTo view source bytes := by
  induction reads with
  | nil => contradiction
  | cons first _ ih =>
      rcases List.mem_cons.1 mem with rfl | mem
      · cases first with
        | standard => exact absurd rfl named
        | file _ leads => exact ⟨_, leads⟩
      · exact ih mem

/-- Inputs that can be read are scanned one after the other into one catalog. -/
theorem exists_scanInputs_of_readsAll (progress : Progress) (known : task.Known)
    {sources : List Text} {inputs : List Scan.Input}
    (reads : ReadsAll kit view task progress.input sources inputs) :
    ∃ catalog warnings left,
      Scan.scanInto task.config.registry progress.catalog inputs = .ok (catalog, warnings) ∧
        scanInputs kit view task progress sources =
          (⟨catalog, progress.warnings ++ warnings.flatten, left⟩, none) := by
  generalize unread : progress.input = standard at reads
  induction reads generalizing progress with
  | nil => exact ⟨progress.catalog, [], progress.input, rfl, by simp [scanInputs]⟩
  | @cons standard left source sources input inputs first others ih =>
      subst unread
      obtain ⟨catalog, warnings, left, scanned, finished⟩ :=
        ih { progress.add (input.report task.config.registry) with input := left } rfl
      refine ⟨catalog, (input.report task.config.registry).warnings :: warnings, left, ?_, ?_⟩
      · have merged : (progress.add (input.report task.config.registry)).catalog =
            progress.catalog.merge (input.catalog task.config.registry) :=
          Catalog.recordAll_eq_merge _ _
        rw [merged] at scanned
        rw [Scan.scanInto, Scan.recordLines_input _ first.delimiter_ne_nil]
        simp only [scanned, Except.map]
      · rw [scanInputs, scanInput_of_reads known first]
        simp only [finished]
        simp [Progress.add]

/-- A run comes to the end of its inputs only if all of them can be read. -/
theorem exists_readsAll_of_scanInputs (decodes : kit.Decodes) (progress : Progress)
    (known : task.Known) {sources : List Text}
    (finished : (scanInputs kit view task progress sources).2 = none) :
    ∃ inputs, ReadsAll kit view task progress.input sources inputs := by
  induction sources generalizing progress with
  | nil => exact ⟨[], .nil⟩
  | cons source sources ih =>
      rw [scanInputs] at finished
      split at finished
      · contradiction
      · rename_i next scanned
        have goesOn : (scanInput kit view task progress source).2 = none :=
          congrArg Prod.snd scanned
        obtain ⟨input, left, first⟩ := exists_reads_of_scanInput decodes known goesOn
        have behind : next.input = left := by
          rw [scanInput_of_reads known first, Prod.mk.injEq] at scanned
          rw [← scanned.1]
        obtain ⟨inputs, others⟩ := ih next finished
        exact ⟨input :: inputs, .cons first (behind ▸ others)⟩

end CommandLine

end SeedCatalog
