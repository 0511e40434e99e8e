import SeedCatalog.Text.Integer
import SeedCatalog.Toml.Value

/-!
# Strings, numbers and times

Each reader returns what it read and the text behind it, or nothing when the text does not begin
with what it reads.  A string is basic, with escapes, or literal, without; either kind may run over
several lines between triple quotes.  A number may have single underscores between its digits; an
integer in base ten with too many digits is refused, whatever comes behind it.
-/

namespace SeedCatalog.Toml

/-! ## Strings -/

/-- Whether a character may not stand in a string or a comment of one line. -/
def isControl (c : Char) : Bool :=
  (c.toNat < 0x20 && c != '\t') || c.toNat == 0x7F

/-- The value of a hexadecimal digit. -/
def hexDigit? (c : Char) : Option Nat :=
  if '0' ≤ c ∧ c ≤ '9' then some (c.toNat - '0'.toNat)
  else if 'a' ≤ c ∧ c ≤ 'f' then some (c.toNat - 'a'.toNat + 10)
  else if 'A' ≤ c ∧ c ≤ 'F' then some (c.toNat - 'A'.toNat + 10)
  else none

/-- Read a number of so many hexadecimal digits. -/
def hexNumber? : (digits : Nat) → (value : Nat) → Text → Option (Nat × Text)
  | 0, value, text => some (value, text)
  | _ + 1, _, [] => none
  | digits + 1, value, c :: rest =>
      (hexDigit? c).bind fun digit => hexNumber? digits (value * 16 + digit) rest

/-- Read the number of a character in so many hexadecimal digits. -/
def charNumber? (digits : Nat) (text : Text) : Option (Char × Text) :=
  (hexNumber? digits 0 text).bind fun (n, rest) =>
    if n.isValidChar then some (Char.ofNat n, rest) else none

/-- The character that a letter behind a backslash stands for. -/
def escaped? (c : Char) : Option Char :=
  match c with
  | 'b' => some (Char.ofNat 0x08)
  | 't' => some '\t'
  | 'n' => some '\n'
  | 'f' => some (Char.ofNat 0x0C)
  | 'r' => some '\r'
  | '"' => some '"'
  | '\\' => some '\\'
  | _ => none

/-- Whether a character is a space or a tab. -/
def isSpace (c : Char) : Bool :=
  c == ' ' || c == '\t'

/-- Pass over the end of a line that a backslash escapes, and over the blanks that follow it. -/
def skipEscapedLineEnd? (text : Text) : Option Text :=
  match text.dropWhile isSpace with
  | [] => if text = [] then none else some []
  | c :: rest =>
      if c = '\n' then some (rest.dropWhile fun d => isSpace d || d == '\n') else none

/-- Read an escape from behind its backslash. -/
def escape? (text : Text) : Option (Char × Text) :=
  match text with
  | [] => none
  | c :: rest =>
      if c = 'u' then charNumber? 4 rest
      else if c = 'U' then charNumber? 8 rest
      else (escaped? c).map fun d => (d, rest)

/-- Read a basic string of one line from behind its quote; `fuel` bounds its length. -/
def basic? : (fuel : Nat) → Text → Option (Text × Text)
  | 0, _ => none
  | _, [] => none
  | fuel + 1, c :: rest =>
      if c = '"' then some ([], rest)
      else if c = '\\' then
        (escape? rest).bind fun (d, rest) =>
          (basic? fuel rest).map fun (inside, after) => (d :: inside, after)
      else if isControl c then none
      else (basic? fuel rest).map fun (inside, after) => (c :: inside, after)

/-- The quotes, at most two, with which a string of several lines ends before its last three. -/
def extraQuotes (q : Char) (text : Text) : Text × Text :=
  match text with
  | c :: d :: rest =>
      if c = q ∧ d = q then ([q, q], rest) else if c = q then ([q], d :: rest) else ([], text)
  | [c] => if c = q then ([q], []) else ([], text)
  | [] => ([], [])

/-- The text behind three quotes. -/
def afterTriple? (q : Char) : Text → Option Text
  | a :: b :: c :: rest => if a = q ∧ b = q ∧ c = q then some rest else none
  | _ => none

/-- Read a basic string of several lines from behind its quotes; `fuel` bounds its length. -/
def basicLines? : (fuel : Nat) → Text → Option (Text × Text)
  | 0, _ => none
  | _, [] => none
  | fuel + 1, c :: rest =>
      match afterTriple? '"' (c :: rest) with
      | some after => some (extraQuotes '"' after)
      | none =>
          if c = '\\' then
            match skipEscapedLineEnd? rest with
            | some rest => basicLines? fuel rest
            | none =>
                (escape? rest).bind fun (d, rest) =>
                  (basicLines? fuel rest).map fun (inside, after) => (d :: inside, after)
          else if isControl c && c != '\n' then none
          else (basicLines? fuel rest).map fun (inside, after) => (c :: inside, after)

/-- Read a literal string of one line from behind its quote. -/
def literal? : Text → Option (Text × Text)
  | [] => none
  | c :: rest =>
      if c = '\'' then some ([], rest)
      else if isControl c then none
      else (literal? rest).map fun (inside, after) => (c :: inside, after)

/-- Read a literal string of several lines from behind its quotes. -/
def literalLines? : Text → Option (Text × Text)
  | [] => none
  | c :: rest =>
      match afterTriple? '\'' (c :: rest) with
      | some after => some (extraQuotes '\'' after)
      | none =>
          if isControl c && c != '\n' then none
          else (literalLines? rest).map fun (inside, after) => (c :: inside, after)

/-- The text without the line feed at its beginning. -/
def skipLineFeed : Text → Text
  | [] => []
  | c :: rest => if c = '\n' then rest else c :: rest

/-- Read a string of any kind. -/
def string? (text : Text) : Option (Text × Text) :=
  match afterTriple? '"' text with
  | some rest => basicLines? (rest.length + 1) (skipLineFeed rest)
  | none =>
      match afterTriple? '\'' text with
      | some rest => literalLines? (skipLineFeed rest)
      | none =>
          match text with
          | [] => none
          | c :: rest =>
              if c = '"' then basic? (rest.length + 1) rest
              else if c = '\'' then literal? rest
              else none

/-! ## Numbers -/

/-- Read digits, with single underscores between them; the underscores are left out. -/
def digitsFrom (isDigit : Char → Bool) : Text → Text × Text
  | [] => ([], [])
  | [c] => if isDigit c then ([c], []) else ([], [c])
  | c :: d :: rest =>
      if isDigit c then
        let (digits, after) := digitsFrom isDigit (d :: rest)
        (c :: digits, after)
      else if c = '_' ∧ isDigit d then digitsFrom isDigit (d :: rest)
      else ([], c :: d :: rest)

/-- Read at least one digit, with single underscores between the digits. -/
def digits? (isDigit : Char → Bool) (text : Text) : Option (Text × Text) :=
  if text.head?.any isDigit then some (digitsFrom isDigit text) else none

/-- The number that digits stand for in a base. -/
def numberOf (base : Nat) (digits : Text) : Nat :=
  digits.foldl (fun n c => n * base + (hexDigit? c).getD 0) 0

/-- Read a whole number with a base in front of its digits. -/
def basedNumber? (text : Text) : Option (Nat × Text) :=
  match text with
  | '0' :: 'x' :: rest =>
      (digits? (fun c => (hexDigit? c).isSome) rest).map fun run => (numberOf 16 run.1, run.2)
  | '0' :: 'o' :: rest =>
      (digits? (fun c => '0' ≤ c && c ≤ '7') rest).map fun run => (numberOf 8 run.1, run.2)
  | '0' :: 'b' :: rest =>
      (digits? (fun c => c == '0' || c == '1') rest).map fun run => (numberOf 2 run.1, run.2)
  | _ => none

/-- Read a sign, if there is one. -/
def sign (text : Text) : Text × Text :=
  match text with
  | [] => ([], [])
  | c :: rest => if c = '+' ∨ c = '-' then ([c], rest) else ([], c :: rest)

/-- Read the digits of a whole number without leading zeros. -/
def wholeDigits? (text : Text) : Option (Text × Text) :=
  match text with
  | [] => none
  | c :: rest => if c = '0' then some (['0'], rest) else digits? Char.isDigit (c :: rest)

/-- Read a fraction, if there is one. -/
def fraction (text : Text) : Text × Text :=
  match text with
  | '.' :: rest =>
      match digits? Char.isDigit rest with
      | some (digits, after) => ('.' :: digits, after)
      | none => ([], text)
  | _ => ([], text)

/-- Read an exponent, if there is one. -/
def exponent (text : Text) : Text × Text :=
  match text with
  | [] => ([], [])
  | c :: rest =>
      if c = 'e' ∨ c = 'E' then
        match digits? Char.isDigit (sign rest).2 with
        | some (digits, after) => (c :: (sign rest).1 ++ digits, after)
        | none => ([], text)
      else ([], text)

/-- Read a number, an infinity or the word for no number. -/
def number (text : Text) : Except Refusal (Value × Text) :=
  match basedNumber? text with
  | some (n, rest) => .ok (.integer n, rest)
  | none =>
      let (mark, unsigned) := sign text
      match wholeDigits? unsigned with
      | some (digits, rest) =>
          let (fractionPart, rest) := fraction rest
          let (exponentPart, rest) := exponent rest
          if fractionPart ++ exponentPart ≠ [] then
            .ok (.decimal (mark ++ digits ++ fractionPart ++ exponentPart), rest)
          else if Text.maxDigits < digits.length then .error (.longInteger digits.length)
          else
            let n := numberOf 10 digits
            .ok (.integer (if mark = ['-'] then -n else n), rest)
      | none =>
          match unsigned with
          | 'i' :: 'n' :: 'f' :: rest => .ok (.decimal (mark ++ ['i', 'n', 'f']), rest)
          | 'n' :: 'a' :: 'n' :: rest => .ok (.decimal (mark ++ ['n', 'a', 'n']), rest)
          | _ => .error .malformed

/-! ## Dates and times -/

/-- Read a number of so many decimal digits. -/
def decimal? (digits : Nat) (text : Text) : Option (Nat × Text) :=
  let run := text.take digits
  if run.length = digits ∧ run.all Char.isDigit then some (numberOf 10 run, text.drop digits)
  else none

/-- Read one given character. -/
def expect? (c : Char) : Text → Option Text
  | [] => none
  | d :: rest => if d = c then some rest else none

/-- The number of days in a month. -/
def daysIn (year month : Nat) : Nat :=
  if month = 2 then
    if year % 4 = 0 ∧ (year % 100 ≠ 0 ∨ year % 400 = 0) then 29 else 28
  else if month = 4 ∨ month = 6 ∨ month = 9 ∨ month = 11 then 30
  else 31

/-- Read a date: whether the calendar has it, and the text behind it. -/
def date? (text : Text) : Option (Bool × Text) := do
  let (year, text) ← decimal? 4 text
  let text ← expect? '-' text
  let (month, text) ← decimal? 2 text
  let text ← expect? '-' text
  let (day, text) ← decimal? 2 text
  if 1 ≤ month ∧ month ≤ 12 ∧ 1 ≤ day ∧ day ≤ 31 then
    some (1 ≤ year && day ≤ daysIn year month, text)
  else none

/-- Read a time of the day. -/
def time? (text : Text) : Option Text := do
  let (hour, text) ← decimal? 2 text
  let text ← expect? ':' text
  let (minute, text) ← decimal? 2 text
  let text ← expect? ':' text
  let (second, text) ← decimal? 2 text
  if hour < 24 ∧ minute < 60 ∧ second < 60 then
    match text with
    | '.' :: c :: rest =>
        if c.isDigit then some (rest.dropWhile Char.isDigit) else some ('.' :: c :: rest)
    | text => some text
  else none

/-- Pass over the distance from universal time, if it is there. -/
def skipOffset (text : Text) : Text :=
  match text with
  | [] => []
  | c :: rest =>
      if c = 'Z' ∨ c = 'z' then rest
      else if c = '+' ∨ c = '-' then
        (do
          let (hour, rest) ← decimal? 2 rest
          let rest ← expect? ':' rest
          let (minute, rest) ← decimal? 2 rest
          if hour < 24 ∧ minute < 60 then some rest else none : Option Text).getD text
      else text

/-- What a text begins with that looks like a date, a time or both. -/
inductive Moment where
  /-- No date and no time. -/
  | absent
  /-- A date that the calendar does not have. -/
  | impossible
  /-- A date, a time or both, with the text behind. -/
  | present (rest : Text)

/-- Read a date, a time or both. -/
def moment (text : Text) : Moment :=
  match date? text with
  | some (valid, rest) =>
      if valid then
        match rest with
        | [] => .present []
        | c :: after =>
            if c = 'T' ∨ c = 't' ∨ c = ' ' then
              match time? after with
              | some after => .present (skipOffset after)
              | none => .present rest
            else .present rest
      else .impossible
  | none =>
      match time? text with
      | some rest => .present rest
      | none => .absent

end SeedCatalog.Toml
