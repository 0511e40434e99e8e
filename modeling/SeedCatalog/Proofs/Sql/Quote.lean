import SeedCatalog.Sql.Quote

/-!
# Reading a text that was written between quotes

A text whose quotes are doubled is read back as it was written, if no further
quote stands behind its closing quote.  Without a closing quote the run is open;
what is read of it then ends at a doubled quote, and the second quote of that
pair is left.
-/

namespace SeedCatalog.Sql

open Text

theorem double_append (q : Char) (first second : Text) :
    double q (first ++ second) = double q first ++ double q second := by
  induction first with
  | nil => rfl
  | cons c first ih =>
      rw [List.cons_append, double, double, ih]
      split <;> rfl

theorem mem_double {q c : Char} {text : Text} : c ∈ double q text ↔ c ∈ text := by
  induction text with
  | nil => rfl
  | cons d text ih =>
      rw [double]
      split
      · rename_i quote
        simp [quote, ih]
      · simp [ih]

/-- Doubling keeps the last character. -/
theorem getLast?_double (q : Char) (text : Text) : (double q text).getLast? = text.getLast? := by
  rcases List.eq_nil_or_concat text with rfl | ⟨others, c, rfl⟩
  · rfl
  · rw [List.concat_eq_append, double_append, List.getLast?_append]
    by_cases quote : c = q
    · simp [double, quote]
    · simp [double, quote]

theorem quotedRun?_cons {q c : Char} (other : c ≠ q) (rest : Text) :
    quotedRun? q (c :: rest) = (quotedRun? q rest).map fun run => (c :: run.1, run.2) := by
  cases rest with
  | nil => simp [quotedRun?, other]
  | cons d rest => rw [quotedRun?, if_neg other]

/-- A written text is read back up to its closing quote. -/
theorem quotedRun?_double {q : Char} {after : Text} (alone : after.head? ≠ some q) (text : Text) :
    quotedRun? q (double q text ++ q :: after) = some (double q text, after) := by
  induction text with
  | nil =>
      cases after with
      | nil => simp [double, quotedRun?]
      | cons d after =>
          have other : d ≠ q := by simpa using alone
          simp [double, quotedRun?, other]
  | cons c text ih =>
      by_cases quote : c = q
      · subst quote
        simp [double, quotedRun?, ih]
      · rw [double, if_neg quote, List.cons_append, quotedRun?_cons quote, ih]
        rfl

theorem double_ne_nil (q : Char) {text : Text} (filled : text ≠ []) : double q text ≠ [] := by
  cases text with
  | nil => contradiction
  | cons c text =>
      rw [double]
      split <;> simp

theorem filledRun?_double {q : Char} {after : Text} (alone : after.head? ≠ some q) {text : Text}
    (filled : text ≠ []) :
    filledRun? q (double q text ++ q :: after) = some (double q text, after) := by
  obtain ⟨c, inside, written⟩ := List.exists_cons_of_ne_nil (double_ne_nil q filled)
  rw [filledRun?, quotedRun?_double alone, written]

theorem runIsOpen_cons {q c : Char} (other : c ≠ q) (rest : Text) :
    runIsOpen q (c :: rest) = runIsOpen q rest := by
  cases rest with
  | nil => simp [runIsOpen, other]
  | cons d rest => rw [runIsOpen, if_neg other]

/-- Without its closing quote a written text is an open run. -/
theorem runIsOpen_double (q : Char) (text : Text) : runIsOpen q (double q text) = true := by
  induction text with
  | nil => rfl
  | cons c text ih =>
      by_cases quote : c = q
      · subst quote
        simp [double, runIsOpen, ih]
      · rw [double, if_neg quote, runIsOpen_cons quote, ih]

/-- What is read of an open run leaves the second quote of a pair. -/
theorem head?_of_quotedRun?_double {q : Char} {text inside after : Text}
    (read : quotedRun? q (double q text) = some (inside, after)) : after.head? = some q := by
  induction text generalizing inside with
  | nil => contradiction
  | cons c text ih =>
      by_cases quote : c = q
      · subst quote
        rw [double, if_pos rfl, quotedRun?, if_pos rfl, if_pos rfl] at read
        split at read
        · rename_i further
          cases read
          exact ih further
        · cases read
          rfl
      · rw [double, if_neg quote, quotedRun?_cons quote] at read
        obtain ⟨run, further, same⟩ := Option.map_eq_some_iff.1 read
        cases same
        exact ih further

end SeedCatalog.Sql
