import SeedCatalog.Text.Basic

/-!
# UTF-8

A character is written in one to four bytes.  The first byte says how many bytes follow and how far
the second may range; every further byte has its two highest bits set to ten.  Surrogates, numbers
beyond the last character, and forms that are longer than they need to be are no characters.

Reading stops at the first byte that cannot continue what was read, and the bytes of that character
read so far are at fault.  At the end of the bytes, a character of which only the first bytes were
read is left over.
-/

namespace SeedCatalog

/-- A file's contents, byte by byte. -/
abbrev Bytes := List UInt8

namespace Utf8

/-- The bytes of a character. -/
def encodeChar (c : Char) : Bytes :=
  let n := c.toNat
  if n < 0x80 then [.ofNat n]
  else if n < 0x800 then [.ofNat (0xC0 + n / 0x40), .ofNat (0x80 + n % 0x40)]
  else if n < 0x10000 then
    [.ofNat (0xE0 + n / 0x1000), .ofNat (0x80 + n / 0x40 % 0x40), .ofNat (0x80 + n % 0x40)]
  else
    [.ofNat (0xF0 + n / 0x40000), .ofNat (0x80 + n / 0x1000 % 0x40),
      .ofNat (0x80 + n / 0x40 % 0x40), .ofNat (0x80 + n % 0x40)]

/-- The bytes of a text. -/
def encode (text : Text) : Bytes :=
  text.flatMap encodeChar

theorem encode_append (first second : Text) :
    encode (first ++ second) = encode first ++ encode second :=
  List.flatMap_append

/-- A character of which the first bytes were read. -/
structure Opened where
  /-- The bytes that were read, the last one first. -/
  read : Bytes
  /-- How many bytes are missing. -/
  missing : Nat
  /-- The number that the bytes so far stand for. -/
  value : Nat
  /-- The least byte that may come next. -/
  low : Nat
  /-- The greatest byte that may come next. -/
  high : Nat
  deriving DecidableEq, Repr

/-- What the first byte of a character opens, if it needs further bytes. -/
def open? (first : UInt8) : Option Opened :=
  let n := first.toNat
  if 0xC2 ≤ n ∧ n ≤ 0xDF then some ⟨[first], 1, n - 0xC0, 0x80, 0xBF⟩
  else if 0xE0 ≤ n ∧ n ≤ 0xEF then
    some ⟨[first], 2, n - 0xE0, if n = 0xE0 then 0xA0 else 0x80, if n = 0xED then 0x9F else 0xBF⟩
  else if 0xF0 ≤ n ∧ n ≤ 0xF4 then
    some ⟨[first], 3, n - 0xF0, if n = 0xF0 then 0x90 else 0x80, if n = 0xF4 then 0x8F else 0xBF⟩
  else none

/-- What is at fault with bytes that are no text. -/
inductive Fault where
  /-- A byte that begins no character. -/
  | invalidStart
  /-- The first bytes of a character, behind which comes a byte that does not continue it. -/
  | invalidContinuation
  deriving DecidableEq, Repr

/-- What bytes turn out to be: a text, and either bytes that are left over at the end or, behind the
bytes of the text, bytes that are at fault. -/
structure Decoded where
  text : Text
  /-- The bytes behind those of the text that were read. -/
  rest : Bytes
  /-- What is at fault with the bytes `rest`; without a fault they are left over. -/
  fault : Option Fault
  deriving DecidableEq, Repr

/-- Put a character in front of what was decoded. -/
def Decoded.cons (c : Char) (decoded : Decoded) : Decoded :=
  { decoded with text := c :: decoded.text }

/-- Decode bytes, given the character that they are to continue, if there is one. -/
def decodeFrom : Option Opened → Bytes → Decoded
  | none, [] => ⟨[], [], none⟩
  | some opened, [] => ⟨[], opened.read.reverse, none⟩
  | none, b :: rest =>
      if b.toNat < 0x80 then (decodeFrom none rest).cons (Char.ofNat b.toNat)
      else
        match open? b with
        | some opened => decodeFrom (some opened) rest
        | none => ⟨[], [b], some .invalidStart⟩
  | some opened, b :: rest =>
      if opened.low ≤ b.toNat ∧ b.toNat ≤ opened.high then
        let value := opened.value * 0x40 + (b.toNat - 0x80)
        if opened.missing = 1 then (decodeFrom none rest).cons (Char.ofNat value)
        else decodeFrom (some ⟨b :: opened.read, opened.missing - 1, value, 0x80, 0xBF⟩) rest
      else ⟨[], opened.read.reverse, some .invalidContinuation⟩

/-- Decode bytes from the beginning of a character. -/
def decode (bytes : Bytes) : Decoded :=
  decodeFrom none bytes

end Utf8

end SeedCatalog
