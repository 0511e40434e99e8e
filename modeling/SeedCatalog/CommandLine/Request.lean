import SeedCatalog.Toml.Value

/-!
# Requests

A request says what a scan reads, with which settings, and where its catalog goes.
-/

namespace SeedCatalog.CommandLine

/-- What is asked of a run. -/
structure Request where
  /-- The file to write the catalog to. -/
  output : Option Text := none
  /-- The translatable columns to add. -/
  translatables : List Text := []
  delimiter : Option Text := none
  encoding : Option Text := none
  /-- Whether warnings are kept back. -/
  quiet : Bool := false
  /-- The inputs. -/
  inputs : List Text := []
  deriving DecidableEq, Repr

/-- The name that stands for the standard input. -/
def standardInput : Text := ['-']

/-- The name of the standard input in locations and warnings. -/
def standardSource : Text := "<stdin>".toList

namespace Request

/-- The values that a request has for settings. -/
def settings (request : Request) : List (Text × Value) :=
  let value := fun given : Option Text => (given.map Value.string).getD .null
  [("delimiter".toList, value request.delimiter), ("encoding".toList, value request.encoding)]

/-- The inputs that a request names, or the standard input. -/
def sources (request : Request) : List Text :=
  if request.inputs = [] then [standardInput] else request.inputs

end Request

end SeedCatalog.CommandLine
