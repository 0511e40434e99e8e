import SeedCatalog.Files.Reading
import SeedCatalog.Scan.Report

/-!
# Scanning bytes and files

An input that is given as bytes is decoded while it is scanned: what was recorded before bytes that
are no text stays recorded, and the scan ends there.  A file is such an input; errors of it are
reported under the name of the input.
-/

namespace SeedCatalog.Scan

/-- What the scan of bytes yields. -/
structure ByteScan where
  report : Report
  /-- The bytes that ended the scan. -/
  fault : Option Encoding.DecodeError
  deriving DecidableEq

/-- Scan bytes in an encoding. -/
def scanBytes (registry : Registry) (delimiter : Text) (encoding : Encoding) (source : Text)
    (bytes : Bytes) : ByteScan :=
  let (lines, fault) := encoding.readLines bytes
  let report := scanLines registry delimiter source lines
  ⟨report, if report.failure.isSome then none else fault⟩

/-- What ends the scan of a file. -/
inductive Failure where
  | step (error : StepError)
  | unopened (source : Text) (error : OpenError)
  | undecodable (source encodingName : Text) (error : Encoding.DecodeError)
  deriving DecidableEq, Repr

/-- The failure in words.  Errors of paths and names with characters that they cannot hold, and of
encodings that are not known, have no source. -/
def Failure.message : Failure → Text
  | .step error => error.message
  | .unopened _ (.access .nulInPath) => nulInPathMessage
  | .unopened _ (.encoding error) => error.message
  | .unopened source error => source ++ ": ".toList ++ error.message
  | .undecodable source encodingName error =>
      source ++ ": invalid ".toList ++ encodingName ++ " sequence: ".toList ++ error.message

/-- What the scan of a file yields. -/
structure FileScan where
  report : Report
  failure : Option Failure
  deriving DecidableEq

/-- Scan a file. -/
def scanFile (view : FileView) (registry : Registry) (delimiter encodingName source : Text)
    (path : Path) : FileScan :=
  match view.openText path encodingName with
  | .error error => ⟨⟨[], [], none⟩, some (.unopened source error)⟩
  | .ok (encoding, bytes) =>
      let scan := scanBytes registry delimiter encoding source bytes
      ⟨scan.report,
        match scan.report.failure with
        | some error => some (.step error)
        | none => scan.fault.map (.undecodable source encodingName)⟩

end SeedCatalog.Scan
