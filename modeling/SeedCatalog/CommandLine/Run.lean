import SeedCatalog.CommandLine.Toolkit
import SeedCatalog.Config.Search
import SeedCatalog.Scan.File
import SeedCatalog.SizeLimit

/-!
# Runs

A run scans its inputs one after the other into one catalog, and then prints the catalog or writes
it to a file.  Warnings are told as they arise.  A run that fails prints no catalog and changes no
file.
-/

namespace SeedCatalog.CommandLine

/-- What a run finds around it. -/
structure Surroundings where
  view : FileView
  /-- The bytes of the standard input. -/
  input : Bytes := []
  /-- The value of the variable that limits the size of files. -/
  sizeLimit : Option Text := none
  /-- The name for a temporary file. -/
  temporary : Text
  /-- The room for nested values in files with settings. -/
  room : Nat := Toml.fullRoom

/-- Why a run fails. -/
inductive Failure where
  | config (error : ConfigError)
  | sizeLimit (error : SizeLimitError)
  | unresolved (error : ResolveError)
  | access (error : AccessError)
  | scan (error : Scan.Failure)
  /-- A standard input that is no text. -/
  | input (error : Encoding.DecodeError)
  /-- A warning about a line whose number is not written. -/
  | untold (error : Text.IntegerError)
  /-- A catalog with a line whose number is not written. -/
  | unserialized (error : Text.IntegerError)
  deriving DecidableEq

/-- What a run says of a failure. -/
def Failure.telling : Failure → Telling
  | .config (.nameTaken _) => .unexpected
  | .config (.load (.badSection path file)) => .badValue (LoadError.badSection path file).message
  | .config (.load _) => .unexpected
  | .config (.setting (.encodingName .nulInName)) => .unexpected
  | .config (.setting error) => .badValue error.message
  | .config (.override (.malformedColumn written)) =>
      .badValue (OverrideError.malformedColumn written).message
  | .config (.override _) => .unexpected
  | .sizeLimit error => .plain error.message
  | .unresolved .homeUnknown => .unexpected
  | .unresolved error => .badValue error.message
  | .access .nulInPath => .unexpected
  | .access error => .plain error.message
  | .scan (.step _) => .unexpected
  | .scan (.unopened _ (.access .nulInPath)) => .unexpected
  | .scan (.unopened _ (.encoding _)) => .unexpected
  | .scan error => .plain error.message
  | .input error => .plain (standardSource ++ [':', ' '] ++ error.message)
  | .untold _ | .unserialized _ => .unexpected

/-- How a run ends. -/
inductive Ending where
  /-- What was asked for has been done. -/
  | done
  /-- The arguments ask for no scan. -/
  | answered (reply : Reply)
  | failed (failure : Failure)
  deriving DecidableEq

/-- What a run leaves behind. -/
structure Outcome where
  /-- The catalog, as far as it is printed. -/
  printed : Text := []
  /-- The warnings, in the order in which they arose, as far as they are told. -/
  warnings : List Scan.Warning := []
  ending : Ending := .done
  /-- The files after the run. -/
  tree : FileTree

namespace Outcome

variable (kit : Toolkit)

/-- The exit code. -/
def exitCode (outcome : Outcome) : Nat :=
  match outcome.ending with
  | .done => kit.exitCode none
  | .answered reply => reply.code
  | .failed failure => kit.exitCode (some failure.telling)

/-- The text on the standard output. -/
def output (outcome : Outcome) : Text :=
  match outcome.ending with
  | .answered reply => reply.output
  | _ => outcome.printed

/-- The lines of the warnings on the standard error. -/
def warningLines (outcome : Outcome) : Text :=
  (outcome.warnings.filterMap fun warning => warning.render.toOption).flatMap fun line =>
    kit.echo .errors (line ++ ['\n'])

/-- The text on the standard error. -/
def errors (outcome : Outcome) : Text :=
  outcome.warningLines kit ++
    match outcome.ending with
    | .done => []
    | .answered reply => reply.errors
    | .failed failure => kit.words failure.telling

end Outcome

/-- What the inputs are scanned with. -/
structure Task where
  config : Config
  limit : Int

/-- The task of a request. -/
def Task.ofRequest (around : Surroundings) (request : Request) : Except Failure Task := do
  let (_, config) ← (Settings.build around.room around.view .here request.translatables
    request.settings).mapError .config
  let limit ← (SeedCatalog.sizeLimit around.sizeLimit config.maxFileSize).mapError .sizeLimit
  return ⟨config, limit⟩

/-- What a run has yielded so far. -/
structure Progress where
  catalog : Catalog := .empty
  warnings : List Scan.Warning := []
  /-- The part of the standard input that has not been read. -/
  input : Bytes

/-- Take in what the scan of an input yielded. -/
def Progress.add (progress : Progress) (report : Scan.Report) : Progress :=
  { progress with
    catalog := progress.catalog.recordAll report.records
    warnings := progress.warnings ++ report.warnings }

/-- Scan one file. -/
def scanFile (view : FileView) (task : Task) (progress : Progress) (source : Text) :
    Progress × Option Failure :=
  let config := task.config
  match view.resolve (Path.ofText source) with
  | .error error => (progress, some (.unresolved error))
  | .ok place =>
      let path := Path.ofPlace place
      match (view.fileSize path).bind fun size => FileView.checkSize size task.limit path with
      | .error error => (progress, some (.access error))
      | .ok () =>
          let scan := Scan.scanFile view config.registry [config.delimiter] config.encodingName
            source path
          (progress.add scan.report, scan.failure.map .scan)

/-- Scan the standard input; it is used up afterwards. -/
def scanStandardInput (kit : Toolkit) (task : Task) (progress : Progress) :
    Progress × Option Failure :=
  let config := task.config
  let (lines, fault) := kit.lines config.encodingName progress.input
  let report := Scan.scanLines config.registry [config.delimiter] standardSource lines
  ({ progress.add report with input := [] },
    match report.failure with
    | some error => some (.scan (.step error))
    | none => fault.map .input)

/-- Scan one input. -/
def scanInput (kit : Toolkit) (view : FileView) (task : Task) (progress : Progress)
    (source : Text) : Progress × Option Failure :=
  if source = standardInput then scanStandardInput kit task progress
  else scanFile view task progress source

/-- Scan inputs one after the other, up to the first failure. -/
def scanInputs (kit : Toolkit) (view : FileView) (task : Task) (progress : Progress) :
    List Text → Progress × Option Failure
  | [] => (progress, none)
  | source :: rest =>
      match scanInput kit view task progress source with
      | (progress, some failure) => (progress, some failure)
      | (progress, none) => scanInputs kit view task progress rest

/-- Tell warnings, up to the first that is not written: those that are told, and the failure. -/
def tell : List Scan.Warning → List Scan.Warning × Option Failure
  | [] => ([], none)
  | warning :: rest =>
      match warning.render with
      | .error error => ([], some (.untold error))
      | .ok _ =>
          let (told, failure) := tell rest
          (warning :: told, failure)

/-- Tell warnings, unless they are to be kept back. -/
def Request.tell (request : Request) (warnings : List Scan.Warning) :
    List Scan.Warning × Option Failure :=
  if request.quiet then ([], none) else CommandLine.tell warnings

/-- Print the catalog, or write it to the file that is asked for: the text on the standard output,
and the files afterwards. -/
def deliver (kit : Toolkit) (around : Surroundings) (request : Request) (catalog : Catalog) :
    Except Failure (Text × FileTree) :=
  match catalog.serialize with
  | .error error => .error (.unserialized error)
  | .ok text =>
      match request.output with
      | none => .ok (kit.echo .output text, around.view.tree)
      | some path =>
          match around.view.write around.temporary (Path.ofText path) text with
          | .error error => .error (.access error)
          | .ok tree => .ok ([], tree)

/-- Do what a request asks for. -/
def Request.run (kit : Toolkit) (around : Surroundings) (request : Request) : Outcome :=
  let tree := around.view.tree
  match Task.ofRequest around request with
  | .error failure => { ending := .failed failure, tree }
  | .ok task =>
      let (progress, failure) := scanInputs kit around.view task { input := around.input }
        request.sources
      -- A warning is told before the scan goes on, so one that is not written ends the run first.
      let (warnings, untold) := request.tell progress.warnings
      match untold <|> failure with
      | some failure => { warnings, ending := .failed failure, tree }
      | none =>
          match deliver kit around request progress.catalog with
          | .error failure => { warnings, ending := .failed failure, tree }
          | .ok (printed, tree) => { printed, warnings, tree }

/-- Run the program with arguments. -/
def run (kit : Toolkit) (around : Surroundings) (arguments : List Text) : Outcome :=
  match kit.read around.view arguments with
  | .error reply => { ending := .answered reply, tree := around.view.tree }
  | .ok request => request.run kit around

end SeedCatalog.CommandLine
