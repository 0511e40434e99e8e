import SeedCatalog.Config.Check
import SeedCatalog.Config.Override
import SeedCatalog.Files.Access
import SeedCatalog.Toml.Document

/-!
# Where settings are found

Settings stand in a section of a file in the working directory or in a directory above it.  The
nearest section counts, and no other: what it does not set has its default.  Files that are missing
or malformed are passed over, but not files that are refused for another reason.
-/

namespace SeedCatalog

/-- Why settings cannot be loaded. -/
inductive LoadError where
  | nulInPath
  | inaccessible (error : FileError)
  /-- A file whose bytes are no text. -/
  | undecodable (error : Encoding.DecodeError)
  /-- A file with an integer of so many digits that it is not read. -/
  | longInteger (digits : Nat)
  /-- A file with values that are nested too deep. -/
  | deepValue
  /-- A section of a file that is no table, or has an entry that is no setting. -/
  | badSection (path : List Text) (file : Place)
  deriving DecidableEq, Repr

/-- The error in words. -/
def LoadError.message : LoadError → Text
  | .nulInPath => nulInPathMessage
  | .inaccessible error => error.message
  | .undecodable error => error.message
  | .longInteger digits =>
      (s!"Exceeds the limit ({Text.maxDigits} digits) for integer string conversion: " ++
        s!"value has {digits} digits; " ++
        "use sys.set_int_max_str_digits() to increase the limit").toList
  | .deepValue => "maximum recursion depth exceeded".toList
  | .badSection path file =>
      "Invalid `[".toList ++ Text.join ['.'] path ++ "]` settings in ".toList ++
        (Path.ofPlace file).render

namespace Settings

/-- The files that settings may stand in, each with the sections for them, in order of
precedence. -/
def sources : List (Text × List (List Text)) :=
  [("pyproject.toml", [["tool", "extract-sql"]]),
    (".extract-sql.toml", [["extract-sql"], ["tool", "extract-sql"]])].map
    fun (file, sections) => (String.toList file, sections.map fun path => path.map String.toList)

/-- The settings that the value of a section gives. -/
def ofSection? : Value → Option Settings
  | .table entries => (Settings.setAll {} entries).toOption
  | _ => none

/-- The settings in the first of several sections that a document has. -/
def inDocument (file : Place) (entries : Toml.Entries) :
    List (List Text) → Except LoadError (Option Settings)
  | [] => .ok none
  | path :: paths =>
      match Toml.Entries.find? path entries with
      | none => inDocument file entries paths
      | some value =>
          match ofSection? value with
          | some settings => .ok (some settings)
          | none => .error (.badSection path file)

/-- The settings in a file. -/
def inFile (room : Nat) (tree : FileTree) (file : Place) (sections : List (List Text)) :
    Except LoadError (Option Settings) :=
  let path := Path.ofPlace file
  match tree.find [] path with
  | .error .nameTooLong => .error (.inaccessible ⟨.nameTooLong, path.render, none⟩)
  | .error _ | .ok (_, .directory) => .ok none
  | .ok (_, .file bytes) =>
      match Encoding.utf8.decode bytes with
      | .error error => .error (.undecodable error)
      | .ok text =>
          match Toml.document room text with
          | .error .malformed => .ok none
          | .error (.longInteger digits) => .error (.longInteger digits)
          | .error .deepValue => .error .deepValue
          | .ok entries => inDocument file entries sections

/-- The settings in the first of several files of a directory that has any. -/
def inDirectory (room : Nat) (tree : FileTree) (directory : Place) :
    List (Text × List (List Text)) → Except LoadError (Option Settings)
  | [] => .ok none
  | (file, sections) :: rest =>
      match inFile room tree (directory ++ [file]) sections with
      | .ok none => inDirectory room tree directory rest
      | found => found

/-- The settings in the first of several directories that has any, or the defaults. -/
def inDirectories (room : Nat) (tree : FileTree) : List Place → Except LoadError Settings
  | [] => .ok {}
  | directory :: rest =>
      match inDirectory room tree directory sources with
      | .error error => .error error
      | .ok (some settings) => .ok settings
      | .ok none => inDirectories room tree rest

/-- Load the settings that hold in a directory, with some room for nested values. -/
def load (room : Nat) (view : FileView) (directory : Path) : Except LoadError Settings :=
  if directory.hasNul then .error .nulInPath
  else inDirectories room view.tree (Path.upward (directory.place view.cwd))

end Settings

/-- Why there is no configuration. -/
inductive ConfigError where
  /-- An override with the name of what is given on its own. -/
  | nameTaken (name : Text)
  | load (error : LoadError)
  | setting (error : SettingError)
  | override (error : OverrideError)
  deriving DecidableEq

/-- The error in words. -/
def ConfigError.message : ConfigError → Text
  | .nameTaken name =>
      "build_config() got multiple values for argument '".toList ++ name ++ ['\'']
  | .load error => error.message
  | .setting error => error.message
  | .override error => error.message

/-- The names that no override can have when the settings are loaded too. -/
def Settings.takenNamesOfBuild : List String := ["search_path", "translatables"]

/-- Load settings, check them, override them, and check them again. -/
def Settings.build (room : Nat) (view : FileView) (directory : Path) (written : List Text)
    (values : List (Text × Value)) : Except ConfigError (Settings × Config) := do
  if let some name := Settings.firstNamed? Settings.takenNamesOfBuild values then
    throw (.nameTaken name)
  let settings ← (Settings.load room view directory).mapError .load
  let _ ← settings.check.mapError .setting
  let settings ← (settings.override written values).mapError .override
  let config ← settings.check.mapError .setting
  return (settings, config)

end SeedCatalog
