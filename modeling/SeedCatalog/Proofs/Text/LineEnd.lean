import SeedCatalog.Proofs.Text.Line

/-!
# Ways to end a line

A text can be written with another end for each of its lines.  Reading unifies the line ends again,
and up to their ends the lines are the same.
-/

namespace SeedCatalog.Text

/-- The ways to end a line. -/
inductive LineEnd where
  | feed
  | returnFeed
  | carriageReturn
  deriving DecidableEq, Repr

/-- The characters that end a line. -/
def LineEnd.text : LineEnd → Text
  | .feed => ['\n']
  | .returnFeed => ['\r', '\n']
  | .carriageReturn => ['\r']

/-- The text with its lines ended in the given way. -/
def LineEnd.write (lineEnd : LineEnd) (text : Text) : Text :=
  text.flatMap fun c => if c = '\n' then lineEnd.text else [c]

namespace LineEnd

variable (lineEnd : LineEnd)

@[simp]
theorem write_nil : lineEnd.write [] = [] :=
  rfl

theorem write_newline (rest : Text) :
    lineEnd.write ('\n' :: rest) = lineEnd.text ++ lineEnd.write rest := by
  simp [write]

theorem write_cons {c : Char} (noFeed : c ≠ '\n') (rest : Text) :
    lineEnd.write (c :: rest) = c :: lineEnd.write rest := by
  simp [write, noFeed]

theorem write_append (first second : Text) :
    lineEnd.write (first ++ second) = lineEnd.write first ++ lineEnd.write second :=
  List.flatMap_append

theorem write_of_notMem {piece : Text} (noFeed : '\n' ∉ piece) : lineEnd.write piece = piece := by
  induction piece with
  | nil => rfl
  | cons c piece ih =>
      rw [List.mem_cons, not_or] at noFeed
      rw [write_cons lineEnd (Ne.symm noFeed.1), ih noFeed.2]

/-- Behind a carriage return stands a line feed only where both end a line. -/
theorem unifyLineEndsFrom_write {text : Text} (noReturn : '\r' ∉ text) {afterReturn : Bool}
    (apart : afterReturn = true → lineEnd = .carriageReturn) :
    unifyLineEndsFrom afterReturn (lineEnd.write text) = text := by
  induction text generalizing afterReturn with
  | nil => rfl
  | cons c rest ih =>
      rw [List.mem_cons, not_or] at noReturn
      obtain ⟨other, noReturn⟩ := noReturn
      by_cases feed : c = '\n'
      · subst feed
        rw [write_newline]
        cases lineEnd with
        | feed =>
            have notAfter : afterReturn = false := by simpa using apart
            simp [LineEnd.text, unifyLineEndsFrom, notAfter, ih noReturn]
        | returnFeed => simp [LineEnd.text, unifyLineEndsFrom, ih noReturn]
        | carriageReturn => simp [LineEnd.text, unifyLineEndsFrom, ih noReturn]
      · simp [write_cons lineEnd feed, unifyLineEndsFrom, Ne.symm other, feed, ih noReturn]

/-- However its lines are ended, a text without carriage returns is read back. -/
theorem unifyLineEnds_write {text : Text} (noReturn : '\r' ∉ text) :
    unifyLineEnds (lineEnd.write text) = text :=
  lineEnd.unifyLineEndsFrom_write noReturn nofun

end LineEnd

/-! ## Lines up to their ends -/

/-- Line ends behind a line change nothing of it. -/
theorem dropLineEnd_append_of_forall {lineEnd : Text} (ends : ∀ c ∈ lineEnd, c = '\r' ∨ c = '\n')
    (line : Text) : dropLineEnd (line ++ lineEnd) = dropLineEnd line := by
  rw [dropLineEnd, dropEndWhile, List.reverse_append, List.dropWhile_append_of_pos, dropLineEnd,
    dropEndWhile]
  intro c mem
  simpa using ends c (List.mem_reverse.1 mem)

/-- A carriage return in front of its line feed changes nothing of a line. -/
theorem map_dropLineEnd_lines_returnFeed (text : Text) :
    (lines (LineEnd.returnFeed.write text)).map dropLineEnd = (lines text).map dropLineEnd := by
  induction text using lineInduction with
  | nil => rfl
  | last filled noFeed => rw [LineEnd.write_of_notMem _ noFeed]
  | @line piece rest noFeed ih =>
      have whole : LineEnd.returnFeed.write (piece ++ '\n' :: rest) =
          piece ++ ['\r'] ++ '\n' :: LineEnd.returnFeed.write rest := by
        rw [LineEnd.write_append, LineEnd.write_newline, LineEnd.write_of_notMem _ noFeed]
        simp [LineEnd.text]
      have noFeed' : '\n' ∉ piece ++ ['\r'] := by simp [noFeed]
      rw [whole, lines_append_newline noFeed', lines_append_newline noFeed, List.map_cons,
        List.map_cons, ih, List.append_assoc, dropLineEnd_append_of_forall (by simp),
        dropLineEnd_append_of_forall (by simp)]

/-- Carriage returns stand at the ends of lines only, so that the lines of a text are the same up to
their ends when line ends are unified. -/
def ReturnsEndLines (text : Text) : Prop :=
  (lines text).map dropLineEnd = (lines (unifyLineEnds text)).map dropLineEnd

theorem returnsEndLines_returnFeed {text : Text} (noReturn : '\r' ∉ text) :
    ReturnsEndLines (LineEnd.returnFeed.write text) := by
  rw [ReturnsEndLines, LineEnd.unifyLineEnds_write _ noReturn, map_dropLineEnd_lines_returnFeed]

theorem getLast?_append_newline {rest : Text} (filled : rest ≠ []) (piece : Text) :
    (piece ++ '\n' :: rest).getLast? = rest.getLast? := by
  rw [List.getLast?_append, List.getLast?_cons_of_ne_nil filled,
    List.getLast?_eq_some_getLast filled, Option.some_or]

/-- A line feed behind a text without one at its end only ends the last line. -/
theorem map_dropLineEnd_lines_append {text : Text} (filled : text ≠ [])
    (unended : text.getLast? ≠ some '\n') :
    (lines (text ++ ['\n'])).map dropLineEnd = (lines text).map dropLineEnd := by
  induction text using lineInduction with
  | nil => contradiction
  | last filled noFeed =>
      rw [lines_append_newline noFeed, lines_of_notMem filled noFeed]
      simp [lines, dropLineEnd_append_of_forall]
  | @line piece rest noFeed ih =>
      have further : rest ≠ [] := by
        rintro rfl
        simp at unended
      rw [getLast?_append_newline further] at unended
      rw [List.append_assoc, List.cons_append, lines_append_newline noFeed,
        lines_append_newline noFeed, List.map_cons, List.map_cons, ih further unended]

/-- A line feed behind a line feed is a line of its own. -/
theorem lines_append_feed {text : Text} (ended : text = [] ∨ text.getLast? = some '\n') :
    lines (text ++ ['\n']) = lines text ++ [['\n']] := by
  induction text using lineInduction with
  | nil => rfl
  | last filled noFeed =>
      rcases ended with rfl | ended
      · contradiction
      · exact absurd (List.mem_of_getLast? ended) noFeed
  | @line piece rest noFeed ih =>
      have further : rest = [] ∨ rest.getLast? = some '\n' := by
        refine or_iff_not_imp_left.2 fun filled => ?_
        rw [← getLast?_append_newline filled piece]
        exact ended.resolve_left (by simp)
      rw [List.append_assoc, List.cons_append, lines_append_newline noFeed,
        lines_append_newline noFeed, ih further, List.cons_append]

end SeedCatalog.Text
