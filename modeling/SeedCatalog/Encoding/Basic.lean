import SeedCatalog.Encoding.Utf8
import SeedCatalog.Text.Lines
import SeedCatalog.Text.Quoted

/-!
# Encodings

An input is read in one of four encodings; all names but theirs count as unknown.  In three of them
every byte is a character or none at all.  Bytes that are no text in the encoding are reported with
their place and their fault.

A file that is read line by line is decoded block by block.  The lines that end in the blocks
before a fault are read; a place is counted from the first byte that the blocks before left over.
-/

namespace SeedCatalog

/-- The encodings that inputs can be read in. -/
inductive Encoding where
  | utf8
  | latin1
  | ascii
  | windows1252
  deriving DecidableEq, Repr

namespace Encoding

/-- The first names of the encodings, in lower case with underscores. -/
def names : List (Encoding × List String) :=
  [(.utf8, ["utf_8"]), (.latin1, ["latin_1", "iso8859_1"]), (.ascii, ["ascii"]),
    (.windows1252, ["cp1252"])]

/-- The other names of the encodings. -/
def aliases : List (Encoding × List String) :=
  [(.utf8, ["utf8", "u8", "utf", "utf8_ucs2", "utf8_ucs4", "cp65001"]),
    (.latin1, ["latin1", "latin", "l1", "8859", "iso8859", "iso8859_1", "iso_8859_1",
      "iso_8859_1_1987", "iso_ir_100", "cp819", "ibm819", "csisolatin1"]),
    (.ascii, ["646", "us", "us_ascii", "ansi_x3.4_1968", "ansi_x3_4_1968", "ansi_x3.4_1986",
      "cp367", "ibm367", "csascii", "iso646_us", "iso_646.irv_1991", "iso_ir_6"]),
    (.windows1252, ["1252", "windows_1252"])]

/-- Whether a character is kept in the name of an encoding: a letter, a digit or a dot. -/
def isKeptInName (c : Char) : Bool :=
  c.isAlphanum || c == '.'

/-- The name of an encoding in its plain form: lower case, with one underscore for every run of
other characters inside it. -/
def plainNameFrom (afterGap : Bool) (isFirst : Bool) : Text → Text
  | [] => []
  | c :: rest =>
      if isKeptInName c then
        (if afterGap && !isFirst then ['_'] else []) ++
          c.toLower :: plainNameFrom false false rest
      else plainNameFrom true isFirst rest

/-- The encoding that a list of names gives a name. -/
def named? (table : List (Encoding × List String)) (name : Text) : Option Encoding :=
  (table.find? fun entry => entry.2.contains (String.ofList name)).map (·.1)

/-- The encoding of a name; in the other names an underscore may be written as a dot. -/
def ofName? (name : Text) : Option Encoding :=
  let plain := plainNameFrom false true name
  named? names plain <|> named? aliases plain <|>
    named? aliases (plain.map fun c => if c = '.' then '_' else c)

/-- Why a name stands for no encoding. -/
inductive NameError where
  | nulInName
  | unknown (name : Text)
  deriving DecidableEq, Repr

/-- The error in words. -/
def NameError.message : NameError → Text
  | .nulInName => "embedded null character".toList
  | .unknown name => "unknown encoding: ".toList ++ name

/-- Whether a name holds a character that no name can hold. -/
def hasNul (name : Text) : Bool :=
  name.contains (Char.ofNat 0)

/-- Look up the encoding of a name; only the names of the four are known. -/
def find (name : Text) : Except NameError Encoding :=
  if hasNul name then .error .nulInName
  else
    match ofName? name with
    | some encoding => .ok encoding
    | none => .error (.unknown name)

/-- The characters of the bytes 0x80 to 0x9F in Windows-1252; five bytes have none. -/
def windows1252High : List Nat :=
  [0x20AC, 0, 0x201A, 0x0192, 0x201E, 0x2026, 0x2020, 0x2021, 0x02C6, 0x2030, 0x0160, 0x2039,
   0x0152, 0, 0x017D, 0, 0, 0x2018, 0x2019, 0x201C, 0x201D, 0x2022, 0x2013, 0x2014, 0x02DC,
   0x2122, 0x0161, 0x203A, 0x0153, 0, 0x017E, 0x0178]

/-- The character of a byte in an encoding of one byte a character. -/
def charOfByte? (encoding : Encoding) (b : UInt8) : Option Char :=
  let n := b.toNat
  if n < 0x80 then some (Char.ofNat n)
  else
    match encoding with
    | .latin1 => some (Char.ofNat n)
    | .windows1252 =>
        if 0xA0 ≤ n then some (Char.ofNat n)
        else ((windows1252High[n - 0x80]?).filter (· ≠ 0)).map Char.ofNat
    | _ => none

/-- What is at fault with bytes that are no text. -/
inductive Fault where
  | utf8 (fault : Utf8.Fault)
  /-- The bytes end inside a character. -/
  | unexpectedEnd
  /-- A byte that is no character in an encoding of one byte a character. -/
  | undefinedByte (encoding : Encoding)
  deriving DecidableEq, Repr

/-- Bytes that are no text. -/
structure DecodeError where
  fault : Fault
  /-- The bytes at fault. -/
  bytes : Bytes
  /-- The number of bytes before them. -/
  position : Nat
  deriving DecidableEq, Repr

/-- The name that messages give the rules of decoding. -/
def Fault.decoder : Fault → String
  | .undefinedByte .windows1252 => "charmap"
  | .undefinedByte _ => "ascii"
  | _ => "utf-8"

/-- A fault in words. -/
def Fault.reason : Fault → String
  | .utf8 .invalidStart => "invalid start byte"
  | .utf8 .invalidContinuation => "invalid continuation byte"
  | .unexpectedEnd => "unexpected end of data"
  | .undefinedByte .windows1252 => "character maps to <undefined>"
  | .undefinedByte _ => "ordinal not in range(128)"

/-- A decoding error in words. -/
def DecodeError.message (error : DecodeError) : Text :=
  let place := match error.bytes with
    | [b] =>
        "byte 0x".toList ++ Text.hexDigits 2 b.toNat ++ s!" in position {error.position}".toList
    | bytes =>
        s!"bytes in position {error.position}-{error.position + bytes.length - 1}".toList
  ['\''] ++ error.fault.decoder.toList ++ "' codec can't decode ".toList ++ place ++
    [':', ' '] ++ error.fault.reason.toList

/-- Decode bytes in an encoding of one byte a character, `position` bytes from the start. -/
def decodeBytes (encoding : Encoding) (position : Nat) : Bytes → Except DecodeError Text
  | [] => .ok []
  | b :: rest =>
      match encoding.charOfByte? b with
      | some c => (decodeBytes encoding (position + 1) rest).map (c :: ·)
      | none => .error ⟨.undefinedByte encoding, [b], position⟩

/-- Decode a block of bytes: its text, and the bytes of a character that the block does not
finish. -/
def decodeBlock (encoding : Encoding) (bytes : Bytes) : Except DecodeError (Text × Bytes) :=
  match encoding with
  | .utf8 =>
      let decoded := Utf8.decode bytes
      match decoded.fault with
      | none => .ok (decoded.text, decoded.rest)
      | some fault => .error ⟨.utf8 fault, decoded.rest, (Utf8.encode decoded.text).length⟩
  | encoding => (decodeBytes encoding 0 bytes).map fun text => (text, [])

/-- Decode all bytes of a text at once. -/
def decode (encoding : Encoding) (bytes : Bytes) : Except DecodeError Text :=
  match encoding.decodeBlock bytes with
  | .error error => .error error
  | .ok (text, []) => .ok text
  | .ok (_, rest) => .error ⟨.unexpectedEnd, rest, bytes.length - rest.length⟩

/-! ## Reading line by line -/

/-- The number of bytes that are decoded at a time. -/
def blockSize : Nat := 8192

/-- Cut bytes into blocks, given the bytes of the present block, the last one first, and how many
bytes it lacks. -/
def blocksFrom (size : Nat) (block : Bytes) : (lacks : Nat) → Bytes → List Bytes
  | _, [] => [block.reverse]
  | 0, b :: rest => block.reverse :: blocksFrom size [b] (size - 1) rest
  | lacks + 1, b :: rest => blocksFrom size (b :: block) lacks rest

/-- Decode blocks one after the other, given the bytes that were left over before: the text of the
blocks before the first error, and the error. -/
def decodeBlocks (encoding : Encoding) (left : Bytes) : List Bytes → Text × Option DecodeError
  | [] => ([], if left = [] then none else some ⟨.unexpectedEnd, left, 0⟩)
  | block :: blocks =>
      match encoding.decodeBlock (left ++ block) with
      | .error error => ([], some error)
      | .ok (text, left) =>
          let (more, error) := decodeBlocks encoding left blocks
          (text ++ more, error)

/-- Decode bytes block by block: the text before the first error, and the error. -/
def decodeInBlocks (encoding : Encoding) (bytes : Bytes) : Text × Option DecodeError :=
  decodeBlocks encoding [] (blocksFrom blockSize [] blockSize bytes)

/-- The lines of a text of which more may follow: a line without a line feed is not finished. -/
def finishedLines (text : Text) : List Text :=
  text.lines.filter fun line => line.getLast? = some '\n'

/-- Read bytes line by line, each line with its line feed, up to the first error.  A carriage return
at the end of what comes before an error may belong to a line end. -/
def readLines (encoding : Encoding) (bytes : Bytes) : List Text × Option DecodeError :=
  match encoding.decodeInBlocks bytes with
  | (text, none) => ((Text.unifyLineEnds text).lines, none)
  | (text, some error) =>
      let text := if text.getLast? = some '\r' then text.dropLast else text
      (finishedLines (Text.unifyLineEnds text), some error)

/-- Read bytes line by line as `readLines` does, but keep carriage returns as they are. -/
def readLinesAsGiven (encoding : Encoding) (bytes : Bytes) : List Text × Option DecodeError :=
  match encoding.decodeInBlocks bytes with
  | (text, none) => (text.lines, none)
  | (text, some error) => (finishedLines text, some error)

end Encoding

end SeedCatalog
