import SeedCatalog.Config.Settings

/-!
# Configurations

A configuration is settings that have passed all checks: every table has a name, every column has
one, the delimiter is one character that ends no line and escapes nothing, the encoding is known,
and the limit on the size of files is a positive integer.
-/

namespace SeedCatalog

/-- A configuration that has been checked. -/
structure Config where
  /-- The tables with their translatable columns, as the user writes them. -/
  translatables : List (Text × List Text)
  delimiter : Char
  /-- The name of the encoding, as the user writes it. -/
  encodingName : Text
  encoding : Encoding
  maxFileSize : Nat
  maxFileSize_pos : 0 < maxFileSize

/-- What is wrong with settings. -/
inductive SettingError where
  | notTables
  | noTableName
  | notColumns (table : Text)
  | noColumnName (table : Text)
  | notOneCharacter
  | badCharacter
  | noEncodingName
  | encodingName (error : Encoding.NameError)
  | sizeNotInteger
  | sizeNotPositive
  deriving DecidableEq, Repr

/-- The error in words. -/
def SettingError.message : SettingError → Text
  | .notTables => "`translatables` must be a table of table names to column lists".toList
  | .noTableName => "`translatables` keys must be non-empty table names".toList
  | .notColumns table =>
      "`translatables.".toList ++ table ++ "` must be a list of column names".toList
  | .noColumnName table =>
      "`translatables.".toList ++ table ++ "` must contain non-empty column names".toList
  | .notOneCharacter => "`delimiter` must be a single character".toList
  | .badCharacter => "`delimiter` cannot be a newline or a backslash".toList
  | .noEncodingName => "`encoding` must not be empty".toList
  | .encodingName (.unknown name) => "Unknown encoding: ".toList ++ name
  | .encodingName error => error.message
  | .sizeNotInteger => "`max_file_size` must be an integer".toList
  | .sizeNotPositive => "`max_file_size` must be a positive integer".toList

namespace Settings

/-- The name that a value gives, if it is a text with at least one character. -/
def name? : Value → Option Text
  | .string (c :: rest) => some (c :: rest)
  | _ => none

/-- The columns that a value lists for a table. -/
def checkColumns (table : Text) : Value → Except SettingError (List Text)
  | .array items =>
      match items.mapM name? with
      | some columns => .ok columns
      | none => .error (.noColumnName table)
  | _ => .error (.notColumns table)

/-- The tables of a listing, each with its columns. -/
def checkTables : List (Value × Value) → Except SettingError (List (Text × List Text))
  | [] => .ok []
  | (key, value) :: rest =>
      match name? key with
      | none => .error .noTableName
      | some table =>
          match checkColumns table value with
          | .error error => .error error
          | .ok columns => (checkTables rest).map ((table, columns) :: ·)

/-- The tables that the settings list. -/
def checkListing : Listing → Except SettingError (List (Text × List Text))
  | .tables entries => checkTables entries.entries
  | .other _ => .error .notTables

/-- The character that the settings give as the delimiter. -/
def checkDelimiter : Value → Except SettingError Char
  | .string [c] => if c = '\n' ∨ c = '\r' ∨ c = '\\' then .error .badCharacter else .ok c
  | _ => .error .notOneCharacter

/-- The encoding that the settings name, with its name. -/
def checkEncoding (value : Value) : Except SettingError (Text × Encoding) :=
  match name? value with
  | none => .error .noEncodingName
  | some name =>
      match Encoding.find name with
      | .error error => .error (.encodingName error)
      | .ok encoding => .ok (name, encoding)

/-- The limit on the size of files that the settings give. -/
def checkSize : Value → Except SettingError { size : Nat // 0 < size }
  | .integer n =>
      if h : 0 < n then .ok ⟨n.toNat, by omega⟩ else .error .sizeNotPositive
  | _ => .error .sizeNotInteger

/-- Check settings; of several errors the first one counts. -/
def check (settings : Settings) : Except SettingError Config := do
  let translatables ← checkListing settings.translatables
  let delimiter ← checkDelimiter settings.delimiter
  let (encodingName, encoding) ← checkEncoding settings.encoding
  let size ← checkSize settings.maxFileSize
  return ⟨translatables, delimiter, encodingName, encoding, size.val, size.property⟩

end Settings

/-- The registry of a configuration. -/
def Config.registry (config : Config) : Registry :=
  .ofTables config.translatables

end SeedCatalog
