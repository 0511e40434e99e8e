import SeedCatalog.Encoding.Basic
import SeedCatalog.Registry
import SeedCatalog.Toml.Value

/-!
# Settings

Settings are what a user configures, before anything is checked: each has whatever value it was
given, or its default.
-/

namespace SeedCatalog

/-- The value of the setting that lists the translatable columns. -/
inductive Listing where
  /-- A table, from the names of tables to the names of their translatable columns. -/
  | tables (entries : OrderedMap Value Value)
  /-- A value that is no table. -/
  | other (value : Value)
  deriving DecidableEq

/-- The listing that a value gives. -/
def Listing.ofValue : Value → Listing
  | .table entries => .tables (.ofList (entries.map fun (key, value) => (.string key, value)))
  | value => .other value

/-- The settings, each with the value that it has. -/
structure Settings where
  /-- The tables with their translatable columns. -/
  translatables : Listing :=
    .tables (.ofList (defaultTranslatables.map fun (table, columns) =>
      (.string table, .array (columns.map .string))))
  /-- The separator of fields in the rows of a COPY without an option for it. -/
  delimiter : Value := .string ['\t']
  /-- The name of the encoding of the inputs. -/
  encoding : Value := .string "UTF-8".toList
  /-- The greatest number of bytes of an input file. -/
  maxFileSize : Value := .integer 52428800
  deriving DecidableEq

/-- A name that is not the name of a setting. -/
structure UnknownSetting where
  name : Text
  deriving DecidableEq, Repr

/-- The error in words; one name is taken by the configuration itself. -/
def UnknownSetting.message (error : UnknownSetting) : Text :=
  let problem :=
    if error.name = "self".toList then " got multiple values for argument '".toList
    else " got an unexpected keyword argument '".toList
  "ExtractConfig.__init__()".toList ++ problem ++ error.name ++ ['\'']

namespace Settings

/-- Give a setting a value. -/
def set (settings : Settings) (name : Text) (value : Value) : Except UnknownSetting Settings :=
  if name = "translatables".toList then
    .ok { settings with translatables := .ofValue value }
  else if name = "delimiter".toList then .ok { settings with delimiter := value }
  else if name = "encoding".toList then .ok { settings with encoding := value }
  else if name = "max_file_size".toList then .ok { settings with maxFileSize := value }
  else .error ⟨name⟩

/-- Give settings values, one after the other. -/
def setAll (settings : Settings) : List (Text × Value) → Except UnknownSetting Settings
  | [] => .ok settings
  | (name, value) :: rest =>
      match settings.set name value with
      | .error error => .error error
      | .ok settings => settings.setAll rest

end Settings

end SeedCatalog
