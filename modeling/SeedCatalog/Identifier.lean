import SeedCatalog.Text.Casing

/-!
# Identifiers

An identifier is one part or several parts with dots between them.  A part in double quotes stands
for what is inside the quotes, a doubled quote for one; any other part stands for its lower case.
Blanks around a part do not count.
-/

namespace SeedCatalog.Identifier

/-- The parts between the dots that stand outside quotes.  Every quote opens or closes. -/
def partsFrom : (quoted : Bool) → Text → List Text
  | _, [] => [[]]
  | quoted, c :: rest =>
      if c = '"' then Text.consToFirst c (partsFrom (!quoted) rest)
      else if c = '.' ∧ quoted = false then [] :: partsFrom false rest
      else Text.consToFirst c (partsFrom quoted rest)

/-- The parts of an identifier as they are written. -/
def parts (identifier : Text) : List Text :=
  partsFrom false identifier

/-- Whether a part has at least two characters and stands between double quotes. -/
def isQuoted (part : Text) : Bool :=
  part.length ≥ 2 && part.head? = some '"' && part.getLast? = some '"'

/-- What a part stands for. -/
def normalizePart (part : Text) : Text :=
  let part := part.strip
  if isQuoted part then Text.undouble '"' part.tail.dropLast else part.lower

/-- The name that an identifier stands for: its parts with a dot between each two. -/
def normalize (identifier : Text) : Text :=
  Text.join ['.'] ((parts identifier).map normalizePart)

end SeedCatalog.Identifier
