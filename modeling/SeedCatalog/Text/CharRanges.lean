import SeedCatalog.Text.Basic

/-!
# Ranges of characters

A character class that a standard lists is kept as the list of its ranges.
-/

namespace SeedCatalog

/-- Ranges of character numbers, both ends included. -/
abbrev CharRanges := List (Nat × Nat)

/-- Whether one of the ranges holds the character. -/
def CharRanges.covers (ranges : CharRanges) (c : Char) : Bool :=
  ranges.any fun range => range.1 ≤ c.toNat && c.toNat ≤ range.2

end SeedCatalog
