import SeedCatalog.CommandLine.Toolkit
import SeedCatalog.Proofs.Files.Write
import SeedCatalog.Text.ControlSequence

/-!
# What toolkits promise

A run relies on few properties of its toolkit.  They are stated one by one, so that each result
names those that it needs.
-/

namespace SeedCatalog.CommandLine.Toolkit

/-- Exit codes tell success, bad values and other failures apart. -/
structure Exits (kit : Toolkit) : Prop where
  done : kit.exitCode none = 0
  badValue : ∀ text, kit.exitCode (some (.badValue text)) = 2
  plain : ∀ text, kit.exitCode (some (.plain text)) = 1
  unexpected : kit.exitCode (some .unexpected) = 1

/-- A text that begins no control sequence is printed as it is. -/
def Prints (kit : Toolkit) : Prop :=
  ∀ channel text, Text.escapeChar ∉ text → kit.echo channel text = text

/-- The standard input is decoded, and no fault in it is passed over.  Its line ends may be those of
its text, or may all be line feeds. -/
structure Decodes (kit : Toolkit) : Prop where
  text : ∀ name encoding bytes text, Encoding.find name = .ok encoding →
    encoding.decode bytes = .ok text →
      kit.lines name bytes = (text.lines, none) ∨
        kit.lines name bytes = ((Text.unifyLineEnds text).lines, none)
  fault : ∀ name encoding bytes, Encoding.find name = .ok encoding →
    (∀ text, encoding.decode bytes ≠ .ok text) → (kit.lines name bytes).2 ≠ none

/-- All line ends of the standard input become line feeds in the encoding with a name. -/
def Unifies (kit : Toolkit) (name : Text) : Prop :=
  ∀ encoding bytes text, Encoding.find name = .ok encoding → encoding.decode bytes = .ok text →
    kit.lines name bytes = ((Text.unifyLineEnds text).lines, none)

/-- The option to be quiet may stand in front of other arguments, and changes nothing else. -/
def TakesQuiet (kit : Toolkit) : Prop :=
  ∀ view arguments, kit.read view (['-', 'q'] :: arguments) =
    (kit.read view arguments).map fun request => { request with quiet := true }

/-- The option to write to a file may stand in front of arguments without it, and changes nothing
else if the file can be written. -/
def TakesOutput (kit : Toolkit) : Prop :=
  ∀ view arguments request path, kit.read view arguments = .ok request → request.output = none →
    view.Writable (Path.ofText path) →
      kit.read view (['-', 'o'] :: path :: arguments) = .ok { request with output := some path }

end SeedCatalog.CommandLine.Toolkit
