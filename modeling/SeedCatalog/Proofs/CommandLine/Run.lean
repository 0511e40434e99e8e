import SeedCatalog.Proofs.CommandLine.Console
import SeedCatalog.Proofs.CommandLine.Inputs
import SeedCatalog.Proofs.Config.Override
import SeedCatalog.Proofs.Scan.Numbered

/-!
# All or nothing

A run can do what is asked of it if its configuration and its limit can be loaded, all of its inputs
can be read, and its catalog can be written where it is to go.  Then it emits the whole catalog,
unless the number of a line cannot be written; otherwise it emits none of it, and leaves the files
as they were.
-/

namespace SeedCatalog.CommandLine

variable {kit : Toolkit} {around : Surroundings} {request : Request} {task : Task}
  {catalog : Catalog} {inputs : List Scan.Input} {arguments : List Text} {text : Text}

/-- What is asked for can be done, with a task and inputs. -/
structure Feasible (kit : Toolkit) (around : Surroundings) (request : Request) (task : Task)
    (inputs : List Scan.Input) : Prop where
  loads : ∃ settings, Settings.build around.room around.view .here request.translatables
    request.settings = .ok (settings, task.config)
  limited : sizeLimit around.sizeLimit task.config.maxFileSize = .ok task.limit
  reads : ReadsAll kit around.view task around.input request.sources inputs
  writable : ∀ path, request.output = some path → around.view.Writable (Path.ofText path)

namespace Outcome

variable {outcome : Outcome}

/-- The run succeeds with a text, which it prints or writes to the file that is asked for, and tells
nothing but warnings. -/
structure Emits (kit : Toolkit) (view : FileView) (asked : Option Text) (text : Text)
    (outcome : Outcome) : Prop where
  succeeds : outcome.exitCode kit = 0
  tells : outcome.errors kit = outcome.warningLines kit
  printed : asked = none → outcome.output = kit.echo .output text ∧ outcome.tree = view.tree
  verbatim : asked = none → Text.escapeChar ∉ text → outcome.output = text
  written : ∀ path, asked = some path →
    outcome.output = [] ∧ view.HoldsAt outcome.tree (Path.ofText path) (Utf8.encode text)

/-- The run fails, prints nothing and changes no file. -/
structure HasFailed (kit : Toolkit) (view : FileView) (outcome : Outcome) : Prop where
  fails : outcome.exitCode kit ≠ 0
  silent : outcome.output = []
  unchanged : outcome.tree = view.tree

end Outcome

/-! ## Failures -/

/-- No failure has the exit code of a success. -/
theorem Toolkit.Exits.ne_zero (exits : kit.Exits) (telling : Telling) :
    kit.exitCode (some telling) ≠ 0 := by
  cases telling with
  | badValue text => simp [exits.badValue]
  | plain text => simp [exits.plain]
  | unexpected => simp [exits.unexpected]

/-- A run that ends with a failure has failed. -/
theorem hasFailed_of_failure (exits : kit.Exits) (view : FileView) (warnings : List Scan.Warning)
    (failure : Failure) :
    Outcome.HasFailed kit view { warnings, ending := .failed failure, tree := view.tree } :=
  ⟨exits.ne_zero failure.telling, rfl, rfl⟩

/-! ## The task -/

theorem mapError_eq_ok_iff {ε ε' α : Type} {result : Except ε α} {f : ε → ε'} {value : α} :
    result.mapError f = .ok value ↔ result = .ok value := by
  cases result <;> simp [Except.mapError]

/-- There is a task exactly if its configuration and its limit can be loaded. -/
theorem Task.ofRequest_eq_ok_iff :
    Task.ofRequest around request = .ok task ↔
      (∃ settings, Settings.build around.room around.view .here request.translatables
          request.settings = .ok (settings, task.config)) ∧
        sizeLimit around.sizeLimit task.config.maxFileSize = .ok task.limit := by
  simp only [ofRequest, Settings.bind_eq_ok_iff, mapError_eq_ok_iff]
  constructor
  · rintro ⟨⟨settings, config⟩, loads, limit, limited, same⟩
    cases same
    exact ⟨⟨settings, loads⟩, limited⟩
  · rintro ⟨⟨settings, loads⟩, limited⟩
    exact ⟨(settings, task.config), loads, task.limit, limited, rfl⟩

theorem find_encodingName {settings : Settings} {config : Config}
    (checked : settings.check = .ok config) :
    Encoding.find config.encodingName = .ok config.encoding := by
  simp only [Settings.check, Settings.bind_eq_ok_iff] at checked
  obtain ⟨_, _, _, _, ⟨name, encoding⟩, named, _, _, same⟩ := checked
  cases same
  rw [Settings.checkEncoding] at named
  split at named
  · contradiction
  · split at named
    · contradiction
    · cases named
      assumption

/-- The configuration of a task has been checked. -/
theorem Task.known_of_ofRequest (started : Task.ofRequest around request = .ok task) :
    task.Known := by
  obtain ⟨⟨settings, loads⟩, -⟩ := ofRequest_eq_ok_iff.1 started
  have free : Settings.firstNamed? Settings.takenNamesOfBuild
      request.settings = none := rfl
  simp only [Settings.build, free, Settings.bind_eq_ok_iff,
    mapError_eq_ok_iff] at loads
  obtain ⟨_, _, _, _, _, _, config, checked, same⟩ := loads
  cases same
  exact find_encodingName checked

/-! ## Warnings -/

/-- All warnings that are not kept back can be told. -/
def Request.Tells (request : Request) (warnings : List Scan.Warning) : Prop :=
  request.quiet = true ∨ ∀ warning ∈ warnings, warning.IsShort

theorem tell_of_isShort {warnings : List Scan.Warning}
    (short : ∀ warning ∈ warnings, warning.IsShort) : tell warnings = (warnings, none) := by
  induction warnings with
  | nil => rfl
  | cons warning warnings ih =>
      obtain ⟨line, written⟩ := Scan.Warning.render_of_isShort (short warning List.mem_cons_self)
      rw [tell, written]
      simp only [ih fun warning mem => short warning (List.mem_cons_of_mem _ mem)]

/-- Telling ends at a warning whose number is not written, if not before. -/
theorem snd_tell_of_not_isShort {warnings : List Scan.Warning} {warning : Scan.Warning}
    (mem : warning ∈ warnings) (long : ¬warning.IsShort) :
    (tell warnings).2 = some (.untold .tooManyDigits) := by
  induction warnings with
  | nil => contradiction
  | cons first warnings ih =>
      rw [tell]
      by_cases short : first.IsShort
      · have further : warning ∈ warnings := by
          refine (List.mem_cons.1 mem).resolve_left ?_
          rintro rfl
          exact long short
        obtain ⟨line, written⟩ := Scan.Warning.render_of_isShort short
        rw [written]
        exact ih further
      · rw [Scan.Warning.render_of_not_isShort short]

namespace Request

theorem tell_of_tells {warnings : List Scan.Warning} (tells : request.Tells warnings) :
    request.tell warnings = (if request.quiet then [] else warnings, none) := by
  rw [tell]
  split
  · rfl
  · exact tell_of_isShort (tells.resolve_left ‹_›)

theorem snd_tell_of_not_tells {warnings : List Scan.Warning} (untold : ¬request.Tells warnings) :
    (request.tell warnings).2 = some (.untold .tooManyDigits) := by
  rw [Tells, not_or, not_forall] at untold
  obtain ⟨loud, warning, untold⟩ := untold
  obtain ⟨mem, long⟩ := not_forall.1 untold
  rw [tell, if_neg loud]
  exact snd_tell_of_not_isShort mem long

end Request

/-! ## Delivering -/

/-- The catalog of a run is delivered if it can be written where it is to go. -/
theorem exists_deliver (kit : Toolkit) (wellFormed : around.view.WellFormed)
    (writable : ∀ path, request.output = some path → around.view.Writable (Path.ofText path))
    (written : catalog.serialize = .ok text) :
    ∃ delivered, deliver kit around request catalog = .ok delivered := by
  rw [deliver, written]
  cases asked : request.output with
  | none => exact ⟨_, rfl⟩
  | some path =>
      obtain ⟨tree, done⟩ : ∃ tree, around.view.write around.temporary (Path.ofText path) text =
          .ok tree := (FileView.exists_write_iff wellFormed).2 (writable path asked)
      exact ⟨([], tree), by simp only [done]⟩

/-- What is delivered is the text of the catalog. -/
theorem emits_of_deliver (exits : kit.Exits) (prints : kit.Prints)
    (wellFormed : around.view.WellFormed) (warnings : List Scan.Warning) {printed : Text}
    {tree : FileTree} (done : deliver kit around request catalog = .ok (printed, tree)) :
    ∃ text, catalog.serialize = .ok text ∧
      (∀ path, request.output = some path → around.view.Writable (Path.ofText path)) ∧
      Outcome.Emits kit around.view request.output text { printed, warnings, tree } := by
  rw [deliver] at done
  cases written : catalog.serialize with
  | error error => simp [written] at done
  | ok text =>
      refine ⟨text, rfl, ?_⟩
      simp only [written] at done
      cases asked : request.output with
      | none =>
          simp only [asked] at done
          cases done
          exact ⟨nofun, exits.done, List.append_nil _, fun _ => ⟨rfl, rfl⟩, fun _ => prints _ _,
            nofun⟩
      | some path =>
          simp only [asked] at done
          cases stored : around.view.write around.temporary (Path.ofText path) text with
          | error error => simp [stored] at done
          | ok tree' =>
              simp only [stored] at done
              cases done
              refine ⟨?_, exits.done, List.append_nil _, nofun, nofun, ?_⟩
              · rintro _ ⟨⟩
                exact (FileView.exists_write_iff wellFormed).1 ⟨tree, stored⟩
              · rintro _ ⟨⟩
                exact ⟨rfl, FileView.holdsAt_of_write wellFormed stored⟩

/-! ## Runs -/

namespace Request

/-- A warning that cannot be told ends a run, whatever else there is. -/
theorem run_of_not_tells {progress : Progress} {failure : Option Failure}
    (started : Task.ofRequest around request = .ok task)
    (scanned : scanInputs kit around.view task { input := around.input } request.sources =
      (progress, failure)) (untold : ¬request.Tells progress.warnings) :
    ∃ warnings, request.run kit around =
      { warnings, ending := .failed (.untold .tooManyDigits), tree := around.view.tree } := by
  have ended := snd_tell_of_not_tells untold
  simp only [run, started, scanned, ended]
  exact ⟨_, rfl⟩

/-- A run fails, or its task starts, all its inputs are scanned, its warnings are told and the
catalog is delivered. -/
theorem hasFailed_or_delivers (exits : kit.Exits) :
    (request.run kit around).HasFailed kit around.view ∨
      ∃ task progress printed tree, Task.ofRequest around request = .ok task ∧
        scanInputs kit around.view task { input := around.input } request.sources =
          (progress, none) ∧
        request.Tells progress.warnings ∧
        deliver kit around request progress.catalog = .ok (printed, tree) ∧
        request.run kit around =
          { printed, warnings := if request.quiet then [] else progress.warnings, tree } := by
  cases started : Task.ofRequest around request with
  | error failure =>
      simp only [run, started]
      exact .inl (hasFailed_of_failure exits around.view [] failure)
  | ok task =>
      rcases scanned : scanInputs kit around.view task { input := around.input } request.sources
        with ⟨progress, failure⟩
      by_cases tells : request.Tells progress.warnings
      · simp only [run, started, scanned, tell_of_tells tells]
        cases failure with
        | some failure => exact .inl (hasFailed_of_failure exits around.view _ failure)
        | none =>
            cases delivered : deliver kit around request progress.catalog with
            | error failure => exact .inl (hasFailed_of_failure exits around.view _ failure)
            | ok delivery =>
                exact .inr ⟨task, progress, delivery.1, delivery.2, rfl, scanned, tells, delivered,
                  rfl⟩
      · obtain ⟨warnings, ended⟩ := run_of_not_tells started scanned tells
        rw [ended]
        exact .inl (hasFailed_of_failure exits around.view warnings _)

/-- A run that delivers could do what was asked of it. -/
theorem hasFailed_of_infeasible (exits : kit.Exits) (prints : kit.Prints) (decodes : kit.Decodes)
    (wellFormed : around.view.WellFormed)
    (infeasible : ¬∃ task inputs, Feasible kit around request task inputs) :
    (request.run kit around).HasFailed kit around.view := by
  refine (hasFailed_or_delivers exits).resolve_right ?_
  rintro ⟨task, progress, printed, tree, started, scanned, -, delivered, -⟩
  obtain ⟨loads, limited⟩ := Task.ofRequest_eq_ok_iff.1 started
  obtain ⟨inputs, reads⟩ := exists_readsAll_of_scanInputs decodes { input := around.input }
    (Task.known_of_ofRequest started) (congrArg Prod.snd scanned)
  obtain ⟨text, -, writable, -⟩ := emits_of_deliver exits prints wellFormed [] delivered
  exact infeasible ⟨task, inputs, loads, limited, reads, writable⟩

end Request

namespace Feasible

/-- A run that can do what is asked of it scans all inputs into one catalog.  It delivers this
catalog if its numbers and those of the warnings are written, and fails otherwise. -/
theorem run_spec (exits : kit.Exits) (prints : kit.Prints) (wellFormed : around.view.WellFormed)
    (feasible : Feasible kit around request task inputs) :
    ∃ catalog warnings,
      Scan.scanInto task.config.registry .empty inputs = .ok (catalog, warnings) ∧
        (request.Tells warnings.flatten → ∀ text, catalog.serialize = .ok text →
          (request.run kit around).Emits kit around.view request.output text ∧
            (request.run kit around).warnings =
              if request.quiet then [] else warnings.flatten) ∧
        (¬(request.Tells warnings.flatten ∧ catalog.IsShort) →
          (request.run kit around).HasFailed kit around.view) := by
  obtain ⟨loads, limited, reads, writable⟩ := feasible
  have started := Task.ofRequest_eq_ok_iff.2 ⟨loads, limited⟩
  obtain ⟨catalog, warnings, left, scanned, finished⟩ :=
    exists_scanInputs_of_readsAll { input := around.input } (Task.known_of_ofRequest started) reads
  refine ⟨catalog, warnings, scanned, ?_, ?_⟩
  · intro tells text written
    obtain ⟨⟨printed, tree⟩, delivered⟩ := exists_deliver kit wellFormed writable written
    have whole : request.run kit around =
        { printed, warnings := if request.quiet then [] else warnings.flatten, tree } := by
      simp only [Request.run, started, finished, List.nil_append, Request.tell_of_tells tells,
        delivered]
      rfl
    obtain ⟨text', written', -, emits⟩ := emits_of_deliver exits prints wellFormed
      (if request.quiet then [] else warnings.flatten) delivered
    rw [written, Except.ok.injEq] at written'
    subst written'
    rw [whole]
    exact ⟨emits, rfl⟩
  · intro long
    refine (Request.hasFailed_or_delivers exits).resolve_right ?_
    rintro ⟨task', progress, printed, tree, started', scanned', tells, delivered, -⟩
    rw [started, Except.ok.injEq] at started'
    subst started'
    rw [finished, Prod.mk.injEq] at scanned'
    obtain ⟨rfl, -⟩ := scanned'
    refine long ⟨tells, ?_⟩
    by_contra long
    rw [deliver, Catalog.serialize_of_not_isShort long] at delivered
    contradiction

/-- All numbers are written if no input has more lines than can be numbered. -/
theorem isShort (feasible : Feasible kit around request task inputs)
    (numbered : ∀ input ∈ inputs, input.IsNumbered) {warnings : List (List Scan.Warning)}
    (scanned : Scan.scanInto task.config.registry .empty inputs = .ok (catalog, warnings)) :
    catalog.IsShort ∧ request.Tells warnings.flatten := by
  obtain ⟨short, told⟩ := Scan.isShort_of_scanInto feasible.reads.delimiter_ne_nil numbered
    Catalog.isShort_empty scanned
  exact ⟨short, .inr told⟩

end Feasible

end SeedCatalog.CommandLine
