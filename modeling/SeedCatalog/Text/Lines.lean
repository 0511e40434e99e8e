import SeedCatalog.Text.Basic

/-!
# Lines

A line ends with its line feed; the last line of a text may lack one.  Where line ends of several
kinds may occur, a carriage return, with or without a line feed behind it, counts as a line feed.
-/

namespace SeedCatalog.Text

/-- The lines of a text, each with its line feed. -/
def lines : Text → List Text
  | [] => []
  | c :: rest =>
      if c = '\n' then ['\n'] :: lines rest
      else consToFirst c (lines rest)

/-- The text without the carriage returns and line feeds at its end. -/
def dropLineEnd (line : Text) : Text :=
  dropEndWhile (fun c => c = '\r' || c = '\n') line

/-- A text with a line feed for each line end of any kind, given whether it follows a carriage
return. -/
def unifyLineEndsFrom : (afterReturn : Bool) → Text → Text
  | _, [] => []
  | afterReturn, c :: rest =>
      if c = '\r' then '\n' :: unifyLineEndsFrom true rest
      else if c = '\n' ∧ afterReturn then unifyLineEndsFrom false rest
      else c :: unifyLineEndsFrom false rest

/-- The text with a line feed for each line end of any kind. -/
def unifyLineEnds (text : Text) : Text :=
  unifyLineEndsFrom false text

/-- The lines put together are the text. -/
theorem flatten_lines (text : Text) : text.lines.flatten = text := by
  induction text with
  | nil => rfl
  | cons c rest ih =>
    rw [lines]
    split
    · simp_all
    · cases h : lines rest with
      | nil => simp_all [consToFirst]
      | cons line others => simp_all [consToFirst]

end SeedCatalog.Text
