import SeedCatalog.Proofs.Encoding.Blocks
import SeedCatalog.Proofs.Scan.Boundary
import SeedCatalog.Scan.File

/-!
# Bytes and files as inputs

Bytes that are a text are scanned as the lines of the text, and other bytes end
the scan with a fault.  A file is scanned as its bytes are.
-/

namespace SeedCatalog

theorem Encoding.hasNul_eq_false_of_find {name : Text} {encoding : Encoding}
    (found : Encoding.find name = .ok encoding) : Encoding.hasNul name = false := by
  rw [Encoding.find] at found
  split at found
  · contradiction
  · exact eq_false_of_ne_true ‹_›

namespace Scan

variable {registry : Registry} {delimiter source : Text} {encoding : Encoding} {bytes : Bytes}
  {text : Text}

/-- Bytes that are a text are scanned as its lines. -/
theorem scanBytes_of_decode (decoded : encoding.decode bytes = .ok text) :
    scanBytes registry delimiter encoding source bytes =
      ⟨scanLines registry delimiter source (Text.unifyLineEnds text).lines, none⟩ := by
  simp [scanBytes, Encoding.readLines_of_decode decoded]

/-- A file that can be read as a whole is scanned as the lines of its text. -/
theorem scanFile_of_readText (registry : Registry) (nonempty : delimiter ≠ []) (source : Text)
    {view : FileView} {path : Path} {name : Text} (read : view.readText path name = .ok text) :
    scanFile view registry delimiter name source path =
      ⟨scanLines registry delimiter source text.lines, none⟩ := by
  rw [FileView.readText] at read
  split at read
  · contradiction
  · rename_i encoding bytes opened
    split at read
    · contradiction
    · rename_i written decoded
      cases read
      have finished := @failure_scanLines registry delimiter nonempty source
        (Text.unifyLineEnds written).lines
      simp only [scanFile, opened, scanBytes_of_decode decoded, finished, Option.map_none]

/-- The scan of bytes fails at a fault only. -/
theorem failure_scanBytes (nonempty : delimiter ≠ []) (encoding : Encoding) (source : Text)
    (bytes : Bytes) :
    (scanBytes registry delimiter encoding source bytes).report.failure = none :=
  failure_scanLines nonempty source _

/-- Without a fault the bytes are a text. -/
theorem exists_decode_of_scanBytes (nonempty : delimiter ≠ [])
    (faultless : (scanBytes registry delimiter encoding source bytes).fault = none) :
    ∃ text, encoding.decode bytes = .ok text := by
  apply Encoding.exists_decode_of_readLines
  have finished : (scanLines registry delimiter source (encoding.readLines bytes).1).failure =
      none := failure_scanLines nonempty source _
  simpa [scanBytes, finished] using faultless

/-- A file is scanned as its bytes. -/
theorem scanFile_of_readBytes (registry : Registry) (nonempty : delimiter ≠ []) (source : Text)
    {view : FileView} {path : Path} {name : Text} (found : Encoding.find name = .ok encoding)
    (read : view.readBytes path = .ok bytes) :
    scanFile view registry delimiter name source path =
      ⟨(scanBytes registry delimiter encoding source bytes).report,
        (scanBytes registry delimiter encoding source bytes).fault.map
          (.undecodable source name)⟩ := by
  have opened : view.openText path name = .ok (encoding, bytes) := by
    simp [FileView.openText, Encoding.hasNul_eq_false_of_find found, read, found]
  simp [scanFile, opened, failure_scanBytes nonempty]

end Scan

end SeedCatalog
