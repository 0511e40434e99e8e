import SeedCatalog.Text.Printable

/-!
# Quoted texts

A text that is shown to people stands between single quotes, or between double quotes when it has
single quotes and no double quotes.  Inside, a backslash goes before a backslash and before the
quote; the line feed, the carriage return and the tab have short escapes; every other character
that does not print is shown by its number in two, four or eight hexadecimal digits.
-/

namespace SeedCatalog.Text

/-- The last `width` hexadecimal digits of a number. -/
def hexDigits : (width : Nat) → (n : Nat) → Text
  | 0, _ => []
  | width + 1, n => hexDigits width (n / 16) ++ [Nat.digitChar (n % 16)]

/-- A character as it stands inside the quotes `q`. -/
def quoteChar (q c : Char) : Text :=
  if c = q ∨ c = '\\' then ['\\', c]
  else if c = '\n' then ['\\', 'n']
  else if c = '\r' then ['\\', 'r']
  else if c = '\t' then ['\\', 't']
  else if isPrintable c then [c]
  else if c.toNat < 0x100 then '\\' :: 'x' :: hexDigits 2 c.toNat
  else if c.toNat < 0x10000 then '\\' :: 'u' :: hexDigits 4 c.toNat
  else '\\' :: 'U' :: hexDigits 8 c.toNat

/-- The quotes that a text is shown in. -/
def quoteFor (text : Text) : Char :=
  if '\'' ∈ text ∧ '"' ∉ text then '"' else '\''

/-- A text as it is shown between quotes. -/
def quoted (text : Text) : Text :=
  let q := quoteFor text
  q :: text.flatMap (quoteChar q) ++ [q]

end SeedCatalog.Text
