import SeedCatalog.Text.Digit

/-!
# Integers

An integer is read from the decimal digits of any script, with a sign before them if it has one.
A single underscore may stand between two digits, and padding may stand at both ends.  Neither read
nor written is an integer with too many digits.
-/

namespace SeedCatalog.Text

/-- Whether a character may stand around an integer: a blank that is not a separator of records. -/
def isPadding (c : Char) : Bool :=
  isBlank c && !(0x1C ≤ c.toNat && c.toNat ≤ 0x1F)

/-- The values of the digits of a number, given whether the last character was a digit. -/
def digitValues? : (afterDigit : Bool) → Text → Option (List Nat)
  | afterDigit, [] => if afterDigit then some [] else none
  | afterDigit, c :: rest =>
      match decimalDigit? c with
      | some digit => (digitValues? true rest).map (digit :: ·)
      | none => if c = '_' ∧ afterDigit then digitValues? false rest else none

/-- The greatest number of digits that an integer is read or written with. -/
def maxDigits : Nat := 4300

/-- The least number that has too many digits.  It is irreducible, so that no proof comes to compute
it. -/
@[irreducible]
def leastTooLong : Nat := Nat.pow 10 maxDigits

/-- The number that a text without a sign stands for. -/
def natural? (text : Text) : Option Nat :=
  (digitValues? false text).bind fun digits =>
    if digits.length ≤ maxDigits then some (digits.foldl (fun n digit => n * 10 + digit) 0)
    else none

/-- The integer that a text stands for. -/
def integer? (text : Text) : Option Int :=
  match dropEndWhile isPadding (text.dropWhile isPadding) with
  | '+' :: rest => (natural? rest).map Int.ofNat
  | '-' :: rest => (natural? rest).map fun n => -Int.ofNat n
  | rest => (natural? rest).map Int.ofNat

/-- Why an integer is not written. -/
inductive IntegerError where
  | tooManyDigits
  deriving DecidableEq, Repr

/-- The error in words. -/
def IntegerError.message : IntegerError → Text
  | .tooManyDigits =>
      (s!"Exceeds the limit ({maxDigits} digits) for integer string conversion; " ++
        "use sys.set_int_max_str_digits() to increase the limit").toList

/-- Write an integer in decimal digits. -/
def ofInteger (n : Int) : Except IntegerError Text :=
  if n.natAbs < leastTooLong then .ok (toString n).toList else .error .tooManyDigits

end SeedCatalog.Text
