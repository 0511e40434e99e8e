import SeedCatalog.Text.Integer

/-!
# The limit on the size of input files

The limit comes from the environment, if a variable gives it there, and otherwise from the
configuration.
-/

namespace SeedCatalog

/-- The name of the variable that gives the limit. -/
def sizeLimitVariable : String := "EXTRACT_SQL_MAX_FILE_SIZE"

/-- What is wrong with a limit. -/
inductive SizeLimitError where
  | notInteger (written : Text)
  | notPositive (limit : Int)
  deriving DecidableEq, Repr

/-- The error in words. -/
def SizeLimitError.message : SizeLimitError → Text
  | .notInteger written =>
      s!"Invalid value for {sizeLimitVariable}: ".toList ++ written ++
        " (expected positive integer)".toList
  | .notPositive limit => s!"{sizeLimitVariable} must be a positive integer, got {limit}.".toList

/-- The limit that holds, given the value of the variable and the limit without it. -/
def sizeLimit (given : Option Text) (configured : Int) : Except SizeLimitError Int :=
  match given with
  | none => .ok configured
  | some written =>
      match Text.integer? written with
      | none => .error (.notInteger written)
      | some limit => if 0 < limit then .ok limit else .error (.notPositive limit)

end SeedCatalog
