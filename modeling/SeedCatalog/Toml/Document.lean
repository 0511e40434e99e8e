import SeedCatalog.Toml.Statement

/-!
# Documents

A header opens a table, and the keys below it are its entries.  A table is opened by one header
only; a table that keys with dots made is not opened by a header, and keys with dots do not go into
a table that a header opened.  An array or an inline table is complete where it is written.  No key
is given two values.
-/

namespace SeedCatalog.Toml

/-- A document that has been read so far. -/
structure Draft where
  entries : Entries := []
  /-- The path of the last header. -/
  header : List Text := []
  /-- The tables that no header may open, and that no key with dots may go through. -/
  opened : List (List Text) := []
  /-- The tables that keys with dots went through since the last header; the next header closes
  them in the same way. -/
  passed : List (List Text) := []
  /-- The arrays and the inline tables. -/
  complete : List (List Text) := []

/-- The paths that lead through a key with dots, below the table of the header. -/
def pathsThrough (header : List Text) : (path : List Text) → List (List Text)
  | [] => []
  | part :: path => (header ++ [part]) :: pathsThrough (header ++ [part]) path

/-- One more table at the end of the array of tables at the end of a path. -/
def appendTable? (path : List Text) (entries : Entries) : Option Entries :=
  match path.getLast? with
  | none => none
  | some key =>
      entries.changeAt true (fun inner =>
        match inner.get? key with
        | none => some (inner.set key (.array [.table []]))
        | some (.array items) => some (inner.set key (.array (items ++ [.table []])))
        | some _ => none) path.dropLast

/-- Take one more statement into a draft. -/
def Draft.add? (draft : Draft) (statement : Statement) : Option Draft :=
  match statement with
  | .table path =>
      let opened := draft.passed ++ draft.opened
      if path ∈ opened ∨ leadsThrough draft.complete path then none
      else
        (draft.entries.changeAt true some path).map fun entries =>
          { draft with entries, header := path, opened := path :: opened, passed := [] }
  | .arrayTable path =>
      if leadsThrough draft.complete path then none
      else
        let opened := (draft.passed ++ draft.opened).filter fun other => !path.isPrefixOf other
        let complete := draft.complete.filter fun other => !path.isPrefixOf other
        (appendTable? path draft.entries).map fun entries =>
          { entries, header := path, opened := path :: opened, passed := [], complete }
  | .entry path key value =>
      let through := pathsThrough draft.header path
      let parent := draft.header ++ path
      if through.any (· ∈ draft.opened) ∨ leadsThrough draft.complete parent then none
      else
        (draft.entries.addAt true parent key value).map fun entries =>
          { draft with
            entries
            passed := through ++ draft.passed
            complete :=
              if isCompound value then (parent ++ [key]) :: draft.complete else draft.complete }

/-- The text without the carriage returns that stand before line feeds. -/
def dropReturns : Text → Text
  | [] => []
  | c :: rest =>
      if c = '\r' ∧ rest.head? = some '\n' then dropReturns rest else c :: dropReturns rest

/-- Read the lines of a text into a draft, one after the other, up to the first that is refused;
`fuel` bounds their number. -/
def Draft.addLines (room : Nat) : (fuel : Nat) → Draft → Text → Except Refusal Draft
  | 0, _, _ => .error .malformed
  | fuel + 1, draft, text =>
      (statement room (skipSpaces text)).bind fun (statement, rest) =>
        (orMalformed (statement.elim (some draft) draft.add?)).bind fun draft =>
          (lineEnd rest).bind fun
            | none => .ok draft
            | some rest => draft.addLines room fuel rest

/-- The room for nested values that a program has when it has taken up little of it itself. -/
def fullRoom : Nat := 960

/-- The entries of a document, read by a program with some room for nested values. -/
def document (room : Nat) (text : Text) : Except Refusal Entries :=
  let text := dropReturns text
  (Draft.addLines room (text.length + 1) {} text).map Draft.entries

end SeedCatalog.Toml
