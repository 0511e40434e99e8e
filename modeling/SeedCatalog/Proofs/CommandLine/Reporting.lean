import SeedCatalog.Proofs.CommandLine.Run

/-!
# Options of reporting

Whether warnings are told, and whether the catalog is printed or written to a file, does not change
what is extracted.
-/

namespace SeedCatalog.CommandLine

variable {kit : Toolkit} {around : Surroundings} {request : Request} {task : Task}
  {inputs : List Scan.Input} {arguments : List Text} {path : Text}

/-- What can be done without a file to write to can be done with one that can be written. -/
theorem Feasible.toFile (feasible : Feasible kit around request task inputs)
    (writable : around.view.Writable (Path.ofText path)) :
    Feasible kit around { request with output := some path } task inputs := by
  obtain ⟨loads, limited, reads, -⟩ := feasible
  refine ⟨loads, limited, reads, ?_⟩
  rintro _ ⟨⟩
  exact writable

/-! ## Two runs -/

namespace Request

/-- A quiet request is done in the same way, but no warnings are told. -/
theorem run_quiet (told : ∀ error, (request.run kit around).ending ≠ .failed (.untold error)) :
    { request with quiet := true }.run kit around =
      { request.run kit around with warnings := [] } := by
  have started' : Task.ofRequest around { request with quiet := true } =
      Task.ofRequest around request := rfl
  have sources : { request with quiet := true }.sources = request.sources := rfl
  have silent (warnings : List Scan.Warning) :
      { request with quiet := true }.tell warnings = ([], none) := rfl
  have delivers (catalog : Catalog) :
      deliver kit around { request with quiet := true } catalog =
        deliver kit around request catalog := rfl
  cases started : Task.ofRequest around request with
  | error failure => simp only [run, started', started]
  | ok task =>
      rcases scanned : scanInputs kit around.view task { input := around.input } request.sources
        with ⟨progress, failure⟩
      by_cases tells : request.Tells progress.warnings
      · simp only [run, started', started, sources, scanned, silent, tell_of_tells tells, delivers]
        cases failure with
        | some failure => rfl
        | none => cases deliver kit around request progress.catalog <;> rfl
      · obtain ⟨warnings, ended⟩ := run_of_not_tells started scanned tells
        rw [ended] at told
        exact absurd rfl (told .tooManyDigits)

/-- A run that succeeds could do what was asked of it, and emits the catalog of its inputs. -/
theorem exists_emits (exits : kit.Exits) (prints : kit.Prints) (decodes : kit.Decodes)
    (wellFormed : around.view.WellFormed) (succeeds : (request.run kit around).exitCode kit = 0) :
    ∃ task inputs catalog warnings text, Feasible kit around request task inputs ∧
      Scan.scanInto task.config.registry .empty inputs = .ok (catalog, warnings) ∧
      request.Tells warnings.flatten ∧ catalog.serialize = .ok text ∧
      (request.run kit around).Emits kit around.view request.output text ∧
      (request.run kit around).warnings = if request.quiet then [] else warnings.flatten := by
  by_cases feasible : ∃ task inputs, Feasible kit around request task inputs
  · obtain ⟨task, inputs, feasible⟩ := feasible
    obtain ⟨catalog, warnings, scanned, emits, fails⟩ := feasible.run_spec exits prints wellFormed
    by_cases written : request.Tells warnings.flatten ∧ catalog.IsShort
    · have serialized := Catalog.serialize_of_isShort written.2
      obtain ⟨emitted, told⟩ := emits written.1 _ serialized
      exact ⟨task, inputs, catalog, warnings, _, feasible, scanned, written.1, serialized, emitted,
        told⟩
    · exact absurd succeeds (fails written).fails
  · exact absurd succeeds (hasFailed_of_infeasible exits prints decodes wellFormed feasible).fails

/-- A request that is met without a file to write to is met with one that can be written, with the
same text and the same warnings. -/
theorem exists_emits_toFile (exits : kit.Exits) (prints : kit.Prints) (decodes : kit.Decodes)
    (wellFormed : around.view.WellFormed) (succeeds : (request.run kit around).exitCode kit = 0)
    (writable : around.view.Writable (Path.ofText path)) :
    let toFile := { request with output := some path }
    ∃ text, (request.run kit around).Emits kit around.view request.output text ∧
      (toFile.run kit around).Emits kit around.view (some path) text ∧
      (toFile.run kit around).warnings = (request.run kit around).warnings := by
  intro toFile
  obtain ⟨task, inputs, catalog, warnings, text, feasible, scanned, tells, written, emits, told⟩ :=
    exists_emits exits prints decodes wellFormed succeeds
  obtain ⟨catalog', warnings', scanned', emits', -⟩ :=
    (feasible.toFile writable).run_spec exits prints wellFormed
  rw [scanned, Except.ok.injEq, Prod.mk.injEq] at scanned'
  obtain ⟨rfl, rfl⟩ := scanned'
  obtain ⟨emitted, told'⟩ := emits' tells text written
  exact ⟨text, emits, emitted, told'.trans told.symm⟩

end Request

/-- A quiet run is the same as another, but no warnings are told. -/
theorem run_quiet (takesQuiet : kit.TakesQuiet)
    (told : ∀ error, (run kit around arguments).ending ≠ .failed (.untold error)) :
    run kit around (['-', 'q'] :: arguments) =
      { run kit around arguments with warnings := [] } := by
  rw [run] at told
  rw [run, run, takesQuiet]
  cases taken : kit.read around.view arguments with
  | error reply => rfl
  | ok request =>
      rw [taken] at told
      exact request.run_quiet told

theorem Outcome.errors_eq (outcome : Outcome) :
    outcome.errors kit =
      outcome.warningLines kit ++ { outcome with warnings := [] }.errors kit :=
  rfl

end SeedCatalog.CommandLine
