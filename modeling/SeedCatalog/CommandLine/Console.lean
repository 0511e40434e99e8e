import SeedCatalog.CommandLine.Arguments
import SeedCatalog.CommandLine.Toolkit
import SeedCatalog.Text.ControlSequence

/-!
# The console

The console is the toolkit of the program.  It keeps control sequences from all channels that lead
to no terminal.  The standard input is read as files are, unless it is set to the encoding that is
asked for: then it is read as it is set.
-/

namespace SeedCatalog.CommandLine

/-- What there is around the console. -/
structure Console where
  /-- Whether a channel leads to a terminal. -/
  isTerminal : Channel → Bool := fun _ => false
  /-- The name of the encoding that the standard input is set to. -/
  encodingName : Text := "utf-8".toList
  /-- Whether the standard input is set to keep its carriage returns. -/
  keepsReturns : Bool := false

/-- How the program is used. -/
def usageLine : Text := "Usage: cli [OPTIONS] [FILES]...\n".toList

/-- The text of a notice. -/
def Notice.render : Notice → Text
  | .version => "cli, version 0.1.0\n".toList
  | .help => usageLine

/-- An error with a hint at how the program is used. -/
def usageError (message : Text) : Text :=
  usageLine ++ "Try 'cli --help' for help.\n\nError: ".toList ++ message ++ ['\n']

/-- An error without a hint. -/
def plainError (message : Text) : Text := "Error: ".toList ++ message ++ ['\n']

namespace Console

/-- A text as it is printed. -/
def echo (console : Console) (channel : Channel) (text : Text) : Text :=
  if console.isTerminal channel then text else Text.dropControlSequences text

/-- The answer to arguments with an error. -/
def answer (console : Console) (error : ArgumentError) : Reply :=
  match error with
  | .nulInPath => { code := 1 }
  | .unknownOption .. | .directory .. =>
      { code := 2, errors := console.echo .errors (usageError error.message) }
  | .valueMissing _ | .valueNotTaken _ =>
      { code := 2, errors := console.echo .errors (plainError error.message) }

/-- Read arguments: first the options, and then the files that they name. -/
def read (console : Console) (view : FileView) (arguments : List Text) : Except Reply Request :=
  match Options.ofArguments arguments with
  | .error error => .error (console.answer error)
  | .ok options =>
      match options.notice with
      | some notice => .error { code := 0, output := console.echo .output notice.render }
      | none =>
          match refuseDirectories view options.toRequest with
          | .error error => .error (console.answer error)
          | .ok () => .ok options.toRequest

/-- The lines of the standard input. -/
def lines (console : Console) (encodingName : Text) (bytes : Bytes) :
    List Text × Option Encoding.DecodeError :=
  match Encoding.find encodingName with
  | .error _ => ([], none)
  | .ok encoding =>
      if console.keepsReturns ∧ encodingName = console.encodingName then
        encoding.readLinesAsGiven bytes
      else encoding.readLines bytes

/-- The exit code of a run. -/
def exitCode : Option Telling → Nat
  | none => 0
  | some (.badValue _) => 2
  | some (.plain _) => 1
  | some .unexpected => 1

/-- The text of a failure. -/
def words (console : Console) : Telling → Text
  | .badValue text => console.echo .errors (usageError ("Invalid value: ".toList ++ text))
  | .plain text => console.echo .errors (plainError text)
  | .unexpected => []

/-- The console as a toolkit. -/
def toolkit (console : Console) : Toolkit where
  read := console.read
  lines := console.lines
  echo := console.echo
  exitCode := exitCode
  words := console.words

end Console

end SeedCatalog.CommandLine
