import SeedCatalog.CommandLine.Request
import SeedCatalog.Encoding.Basic
import SeedCatalog.Files.Access

/-!
# Toolkits

A run leaves to a toolkit what has to do with the line that it is called from: how arguments are
read, what the standard input is as a text, what a text is like when it is printed, and how a
failure is told.
-/

namespace SeedCatalog.CommandLine

/-- Where texts are printed. -/
inductive Channel where
  | output
  | errors
  deriving DecidableEq, Repr

/-- The answer to arguments that ask for no scan. -/
structure Reply where
  /-- The exit code. -/
  code : Nat
  /-- The text on the standard output. -/
  output : Text := []
  /-- The text on the standard error. -/
  errors : Text := []
  deriving DecidableEq, Repr

/-- What a run says of its failure. -/
inductive Telling where
  /-- A value that was given is bad. -/
  | badValue (text : Text)
  /-- What is asked for cannot be done. -/
  | plain (text : Text)
  /-- Nothing, because the program does not expect it. -/
  | unexpected
  deriving DecidableEq, Repr

/-- A toolkit for command lines. -/
structure Toolkit where
  /-- Read arguments, which may name files of a view: what they ask for, or the answer to them. -/
  read : FileView → List Text → Except Reply Request
  /-- The lines of the bytes of the standard input in the encoding with a name, up to the first
  bytes that are no text. -/
  lines : (encodingName : Text) → Bytes → List Text × Option Encoding.DecodeError
  /-- A text as it is printed. -/
  echo : Channel → Text → Text
  /-- The exit code of a run, given what it says of its failure if it fails. -/
  exitCode : Option Telling → Nat
  /-- The text of a failure on the standard error. -/
  words : Telling → Text

end SeedCatalog.CommandLine
