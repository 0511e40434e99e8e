import SeedCatalog.Toml.Scalar

/-!
# Statements of a document

A document is a list of statements, one to a line: the header of a table, the header of one more
table of an array, or a key with its value.  A value may be an array or an inline table, which hold
values in turn; there is only so much room for values inside values.  A comment runs from a number
sign to the end of its line.
-/

namespace SeedCatalog.Toml

/-- One statement of a document. -/
inductive Statement where
  /-- The header of a table. -/
  | table (path : List Text)
  /-- The header of one more table of an array. -/
  | arrayTable (path : List Text)
  /-- A key of the table under the last header, and its value. -/
  | entry (path : List Text) (key : Text) (value : Value)

/-- The text from its first character that is neither a space nor a tab. -/
def skipSpaces (text : Text) : Text :=
  text.dropWhile isSpace

/-- Pass over a comment, if there is one. -/
def skipComment? (text : Text) : Option Text :=
  match text with
  | [] => some []
  | c :: rest =>
      if c = '#' then
        if (rest.takeWhile (· ≠ '\n')).any isControl then none
        else some (rest.dropWhile (· ≠ '\n'))
      else some text

/-- Pass over spaces, line ends and comments; `fuel` bounds how many comments there are. -/
def skipLines? : (fuel : Nat) → Text → Option Text
  | 0, _ => none
  | fuel + 1, text =>
      let text := text.dropWhile fun c => isSpace c || c == '\n'
      match text with
      | [] => some []
      | c :: rest =>
          if c = '#' then (skipComment? (c :: rest)).bind (skipLines? fuel) else some (c :: rest)

/-! ## Keys -/

/-- Whether a character may stand in a key without quotes. -/
def isBareKeyChar (c : Char) : Bool :=
  c.isAlphanum || c == '-' || c == '_'

/-- Read one part of a key. -/
def keyPart? (text : Text) : Option (Text × Text) :=
  match text with
  | [] => none
  | c :: rest =>
      if isBareKeyChar c then some (text.takeWhile isBareKeyChar, text.dropWhile isBareKeyChar)
      else if c = '\'' then literal? rest
      else if c = '"' then basic? (rest.length + 1) rest
      else none

/-- Read the parts of a key that follow, each behind a dot; `fuel` bounds how many there are. -/
def keyParts? : (fuel : Nat) → Text → Option (List Text × Text)
  | 0, _ => none
  | fuel + 1, text =>
      match skipSpaces text with
      | [] => some ([], [])
      | c :: rest =>
          if c = '.' then
            (keyPart? (skipSpaces rest)).bind fun (part, rest) =>
              (keyParts? fuel rest).map fun (parts, rest) => (part :: parts, rest)
          else some ([], c :: rest)

/-- Read a key: the parts before its last part, and its last part. -/
def key? (text : Text) : Option ((List Text × Text) × Text) :=
  (keyPart? text).bind fun (first, rest) =>
    (keyParts? (rest.length + 1) rest).map fun (parts, rest) =>
      (((first :: parts).dropLast, (first :: parts).getLast (by simp)), rest)

/-! ## Values -/

/-- Whether a path leads to or through one of the given places. -/
def leadsThrough (places : List (List Text)) (path : List Text) : Bool :=
  places.any fun place => place.isPrefixOf path

/-- Whether a value is an array or a table. -/
def isCompound : Value → Bool
  | .array _ => true
  | .table _ => true
  | _ => false

/-- Read a value that is neither an array nor a table. -/
def plainValue (text : Text) : Except Refusal (Value × Text) :=
  match string? text with
  | some (string, rest) => .ok (.string string, rest)
  | none =>
      match text with
      | '"' :: _ => .error .malformed
      | '\'' :: _ => .error .malformed
      | 't' :: 'r' :: 'u' :: 'e' :: rest => .ok (.boolean true, rest)
      | 'f' :: 'a' :: 'l' :: 's' :: 'e' :: rest => .ok (.boolean false, rest)
      | _ =>
          match moment text with
          | .present rest => .ok (.moment (text.take (text.length - rest.length)), rest)
          | .impossible => .error .malformed
          | .absent => number text

/-- The room that an array takes. -/
def arrayRoom : Nat := 2

/-- The room that an inline table takes. -/
def tableRoom : Nat := 3

mutual

/-- Read a value; `fuel` bounds the number of calls, and `room` how deep values may be nested. -/
def value : (fuel room : Nat) → Text → Except Refusal (Value × Text)
  | 0, _, _ => .error .malformed
  | fuel + 1, room, text =>
      match text with
      | '[' :: rest =>
          if room < arrayRoom then .error .deepValue
          else
            (orMalformed (skipLines? (rest.length + 1) rest)).bind
              (items fuel (room - arrayRoom))
      | '\x7b' :: rest =>
          if room < tableRoom then .error .deepValue
          else
            match skipSpaces rest with
            | '\x7d' :: rest => .ok (.table [], rest)
            | rest => fields fuel (room - tableRoom) [] [] rest
      | text => plainValue text

/-- Read the items of an array that are left, and its closing bracket. -/
def items : (fuel room : Nat) → Text → Except Refusal (Value × Text)
  | 0, _, _ => .error .malformed
  | fuel + 1, room, text =>
      match text with
      | ']' :: rest => .ok (.array [], rest)
      | text =>
          (value fuel room text).bind fun (item, rest) =>
            (orMalformed (skipLines? (rest.length + 1) rest)).bind fun rest =>
              match rest with
              | ']' :: rest => .ok (.array [item], rest)
              | ',' :: rest =>
                  (orMalformed (skipLines? (rest.length + 1) rest)).bind fun rest =>
                    match items fuel room rest with
                    | .ok (.array items, rest) => .ok (.array (item :: items), rest)
                    | .ok _ => .error .malformed
                    | .error refusal => .error refusal
              | _ => .error .malformed

/-- Read the fields of an inline table that are left, and its closing brace, given the fields so
far and the places among them that are closed to further fields. -/
def fields : (fuel room : Nat) → (entries : Entries) → (closed : List (List Text)) → Text →
    Except Refusal (Value × Text)
  | 0, _, _, _, _ => .error .malformed
  | fuel + 1, room, entries, closed, text =>
      (orMalformed (key? text)).bind fun ((path, key), rest) =>
        match rest with
        | '=' :: rest =>
            (value fuel room (skipSpaces rest)).bind fun (value, rest) =>
              if leadsThrough closed (path ++ [key]) then .error .malformed
              else
                (orMalformed (entries.addAt false path key value)).bind fun entries =>
                  match skipSpaces rest with
                  | '\x7d' :: rest => .ok (.table entries, rest)
                  | ',' :: rest =>
                      fields fuel room entries
                        (if isCompound value then (path ++ [key]) :: closed else closed)
                        (skipSpaces rest)
                  | _ => .error .malformed
        | _ => .error .malformed

end

/-! ## Lines -/

/-- Read a statement, given the room for a value that is inside no other; a line may have none. -/
def statement (room : Nat) (text : Text) : Except Refusal (Option Statement × Text) :=
  match text with
  | [] => .ok (none, [])
  | '\n' :: rest => .ok (none, '\n' :: rest)
  | '#' :: rest => .ok (none, '#' :: rest)
  | '[' :: '[' :: rest =>
      (orMalformed (key? (skipSpaces rest))).bind fun ((path, key), rest) =>
        match rest with
        | ']' :: ']' :: rest => .ok (some (.arrayTable (path ++ [key])), rest)
        | _ => .error .malformed
  | '[' :: rest =>
      (orMalformed (key? (skipSpaces rest))).bind fun ((path, key), rest) =>
        match rest with
        | ']' :: rest => .ok (some (.table (path ++ [key])), rest)
        | _ => .error .malformed
  | text =>
      (orMalformed (key? text)).bind fun ((path, key), rest) =>
        match rest with
        | '=' :: rest =>
            let rest := skipSpaces rest
            (value (2 * rest.length + 2) room rest).map fun (value, rest) =>
              (some (.entry path key value), rest)
        | _ => .error .malformed

/-- Pass over the end of a line, with the comment in front of it: the lines behind it, unless it is
the last line. -/
def lineEnd (text : Text) : Except Refusal (Option Text) :=
  (orMalformed (skipComment? (skipSpaces text))).bind fun rest =>
    match rest with
    | [] => .ok none
    | '\n' :: rest => .ok (some rest)
    | _ => .error .malformed

end SeedCatalog.Toml
