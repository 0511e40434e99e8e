import SeedCatalog.CommandLine.Console
import SeedCatalog.Proofs.CommandLine.Arguments
import SeedCatalog.Proofs.CommandLine.Toolkit
import SeedCatalog.Proofs.Encoding.Blocks

/-!
# The console keeps its promises
-/

namespace SeedCatalog.CommandLine

variable {view : FileView} {request : Request} {path : Text}

/-- A path that can be written is accepted. -/
theorem refuseDirectory_of_writable (parameter : Text)
    (writable : view.Writable (Path.ofText path)) :
    refuseDirectory view parameter path = .ok () := by
  rw [refuseDirectory, Path.contains_nul_eq_false writable.noNul]
  split
  · contradiction
  · split
    · rfl
    · rcases writable.free with missing | ⟨place, bytes, file⟩
      · rw [missing]
      · rw [file]

/-- A file to write to that can be written is accepted where none is asked for. -/
theorem refuseDirectories_output (accepted : refuseDirectories view request = .ok ())
    (printed : request.output = none) (writable : view.Writable (Path.ofText path)) :
    refuseDirectories view { request with output := some path } = .ok () := by
  rw [refuseDirectories, printed] at accepted
  change (refuseDirectory view _ path).bind (fun _ => _) = .ok ()
  rw [refuseDirectory_of_writable _ writable]
  exact accepted

namespace Console

variable (console : Console)

theorem exits : console.toolkit.Exits :=
  ⟨rfl, fun _ => rfl, fun _ => rfl, rfl⟩

theorem prints : console.toolkit.Prints := by
  intro channel text plain
  change console.echo channel text = text
  rw [echo, Text.dropControlSequences_of_not_mem plain, ite_self]

theorem lines_of_find {name : Text} {encoding : Encoding}
    (known : Encoding.find name = .ok encoding) (bytes : Bytes) :
    console.lines name bytes =
      if console.keepsReturns ∧ name = console.encodingName then encoding.readLinesAsGiven bytes
      else encoding.readLines bytes := by
  rw [lines, known]

theorem decodes : console.toolkit.Decodes where
  text name encoding bytes text known decoded := by
    change console.lines name bytes = _ ∨ console.lines name bytes = _
    rw [lines_of_find _ known, Encoding.readLinesAsGiven_of_decode decoded,
      Encoding.readLines_of_decode decoded]
    exact ite_eq_or_eq _ _ _
  fault name encoding bytes known undecodable faultless := by
    change (console.lines name bytes).2 = none at faultless
    rw [lines_of_find _ known, apply_ite Prod.snd, Encoding.snd_readLines,
      Encoding.snd_readLinesAsGiven, ite_self] at faultless
    obtain ⟨text, decoded⟩ := Encoding.exists_decode_of_decodeInBlocks faultless
    exact undecodable text decoded

/-- Only in the encoding that it is set to the standard input may keep its carriage returns. -/
theorem unifies {name : Text} (other : console.keepsReturns = true → name ≠ console.encodingName) :
    console.toolkit.Unifies name := by
  intro encoding bytes text known decoded
  change console.lines name bytes = _
  rw [lines_of_find _ known, if_neg fun kept => other kept.1 kept.2,
    Encoding.readLines_of_decode decoded]

theorem takesQuiet : console.toolkit.TakesQuiet := by
  intro view arguments
  change console.read view _ = (console.read view arguments).map _
  rw [read, read, Options.ofArguments_quiet]
  cases Options.ofArguments arguments with
  | error error => rfl
  | ok options =>
      have same : refuseDirectories view { options.toRequest with quiet := true } =
          refuseDirectories view options.toRequest := rfl
      simp only [Except.map, same]
      cases options.notice with
      | some notice => rfl
      | none => cases refuseDirectories view options.toRequest <;> rfl

/-- A console reads a request from options if nothing else is asked for and files are named. -/
theorem read_eq_ok_iff {arguments : List Text} :
    console.read view arguments = .ok request ↔
      ∃ options, Options.ofArguments arguments = .ok options ∧ options.notice = none ∧
        refuseDirectories view options.toRequest = .ok () ∧ options.toRequest = request := by
  rw [read]
  cases Options.ofArguments arguments with
  | error error => simp
  | ok options =>
      cases asked : options.notice with
      | some notice => simp [asked]
      | none => cases accepted : refuseDirectories view options.toRequest <;> simp [asked, accepted]

theorem takesOutput : console.toolkit.TakesOutput := by
  intro view arguments request path taken printed writable
  obtain ⟨options, parsed, scans, accepted, rfl⟩ := (console.read_eq_ok_iff).1 taken
  refine (console.read_eq_ok_iff).2 ⟨{ options with output := some path }, ?_, scans,
    refuseDirectories_output accepted printed writable, rfl⟩
  rw [Options.ofArguments_output, parsed]
  simp only [Except.map, printed]
  rfl

end Console

end SeedCatalog.CommandLine
