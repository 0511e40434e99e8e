/-!
# Text

A text is the list of its characters, and a blank is a white space character of any script.  The
operations here cut a text at blanks and at separators.
-/

namespace SeedCatalog

/-- A text, character by character. -/
abbrev Text := List Char

/-- Whether a character is white space. -/
def isBlank (c : Char) : Bool :=
  let n := c.toNat
  (0x09 ≤ n && n ≤ 0x0D) || (0x1C ≤ n && n ≤ 0x20) || n == 0x85 || n == 0xA0 || n == 0x1680 ||
    (0x2000 ≤ n && n ≤ 0x200A) || n == 0x2028 || n == 0x2029 || n == 0x202F || n == 0x205F ||
    n == 0x3000

namespace Text

/-- The text from its first character that is not blank. -/
def skipBlanks (text : Text) : Text :=
  text.dropWhile isBlank

/-- Whether a text holds nothing but blanks. -/
def allBlank (text : Text) : Bool :=
  text.all isBlank

/-- The text up to its last character outside the class `p`. -/
def dropEndWhile (p : Char → Bool) (text : Text) : Text :=
  (text.reverse.dropWhile p).reverse

/-- The text without the blanks at its two ends. -/
def strip (text : Text) : Text :=
  dropEndWhile isBlank (skipBlanks text)

/-- Put one more character in front of the first of several pieces. -/
def consToFirst (c : Char) : List Text → List Text
  | [] => [[c]]
  | piece :: pieces => (c :: piece) :: pieces

/-- The pieces of a text between the occurrences of a separator.  The first `skip` characters
belong to an occurrence that began earlier. -/
def splitOnFrom (separator : Text) : (skip : Nat) → Text → List Text
  | _, [] => [[]]
  | skip + 1, _ :: rest => splitOnFrom separator skip rest
  | 0, c :: rest =>
      if separator.isPrefixOf (c :: rest) then
        [] :: splitOnFrom separator (separator.length - 1) rest
      else consToFirst c (splitOnFrom separator 0 rest)

/-- The pieces of a text between the occurrences of a separator, which are read from the left and
do not overlap.  There is one piece more than there are occurrences. -/
def splitOn (separator text : Text) : List Text :=
  splitOnFrom separator 0 text

/-- The texts one after the other, with a separator between them. -/
def join (separator : Text) : List Text → Text
  | [] => []
  | [text] => text
  | text :: texts => text ++ separator ++ join separator texts

/-- Double every occurrence of a character. -/
def double (q : Char) : Text → Text
  | [] => []
  | c :: rest => if c = q then q :: q :: double q rest else c :: double q rest

/-- Read every doubled occurrence of a character, from the left, as one. -/
def undouble (q : Char) : Text → Text
  | [] => []
  | [c] => [c]
  | c :: d :: rest =>
      if c = q ∧ d = q then q :: undouble q rest else c :: undouble q (d :: rest)

/-- The two parts of a text before and after the last occurrence of a character. -/
def cutLast? (separator : Char) : Text → Option (Text × Text)
  | [] => none
  | c :: rest =>
      match cutLast? separator rest with
      | some (before, after) => some (c :: before, after)
      | none => if c = separator then some ([], rest) else none

/-- Whether the first text comes before the second or is the same, by the numbers of the
characters. -/
def le : Text → Text → Bool
  | [], _ => true
  | _ :: _, [] => false
  | c :: rest, d :: rest' => c.toNat < d.toNat || (c = d && le rest rest')

theorem length_dropWhile_le (p : Char → Bool) (text : Text) :
    (text.dropWhile p).length ≤ text.length :=
  (List.dropWhile_sublist p).length_le

theorem length_skipBlanks_le (text : Text) : text.skipBlanks.length ≤ text.length :=
  length_dropWhile_le isBlank text

@[simp]
theorem undouble_double (q : Char) (text : Text) : undouble q (double q text) = text := by
  induction text with
  | nil => rfl
  | cons c rest ih =>
    by_cases h : c = q
    · simp [double, undouble, h, ih]
    · cases hr : double q rest with
      | nil => simp_all [double, undouble]
      | cons d ds => simp_all [double, undouble]

end Text

end SeedCatalog
