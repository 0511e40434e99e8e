import SeedCatalog.Text.Basic

/-!
# Line comments

A line comment runs from two hyphens to the end of the text.  Hyphens inside a literal, inside a
quoted identifier and inside a block comment begin none.  A doubled quote closes its run and opens
the next one at once, so that it changes nothing.
-/

namespace SeedCatalog.Sql

/-- What surrounds a place in a text. -/
inductive Surrounding where
  /-- Plain text. -/
  | plain
  /-- A literal or an identifier that the quote `q` opened. -/
  | quoted (q : Char)
  /-- The marker that opens a block comment, before its second character. -/
  | opening
  /-- A block comment. -/
  | comment
  /-- The marker that closes a block comment, before its second character. -/
  | closing
  deriving DecidableEq, Repr

/-- What surrounds the place behind a character, given the text that follows the character. -/
def Surrounding.next (c : Char) (rest : Text) : Surrounding → Surrounding
  | .plain =>
      if c = '/' ∧ rest.head? = some '*' then .opening
      else if c = '\'' ∨ c = '"' then .quoted c
      else .plain
  | .quoted q => if c = q then .plain else .quoted q
  | .opening => .comment
  | .comment => if c = '*' ∧ rest.head? = some '/' then .closing else .comment
  | .closing => .plain

/-- Whether a line comment begins at a character, given the text that follows the character. -/
def Surrounding.beginsLineComment (c : Char) (rest : Text) (surrounding : Surrounding) : Bool :=
  surrounding = .plain && c = '-' && rest.head? = some '-'

/-- The text up to its line comment, from a place with the given surrounding. -/
def dropLineCommentFrom (surrounding : Surrounding) : Text → Text
  | [] => []
  | c :: rest =>
      if surrounding.beginsLineComment c rest then []
      else c :: dropLineCommentFrom (surrounding.next c rest) rest

/-- The text up to its line comment; `inComment` says whether it begins inside a block comment. -/
def dropLineComment (text : Text) (inComment : Bool := false) : Text :=
  dropLineCommentFrom (if inComment then .comment else .plain) text

end SeedCatalog.Sql
