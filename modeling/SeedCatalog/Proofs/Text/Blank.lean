import Mathlib.Data.List.TakeWhile
import SeedCatalog.Text.Basic

/-!
# Blanks in front of a text

Skipping blanks passes over a blank piece, stops at a character that is no
blank, and leaves nothing exactly when the whole text is blank.
-/

namespace SeedCatalog.Text

theorem skipBlanks_of_not_isBlank {c : Char} (filled : isBlank c = false) (text : Text) :
    skipBlanks (c :: text) = c :: text := by
  rw [skipBlanks, List.dropWhile_cons_of_neg (by simp [filled])]

theorem skipBlanks_append {blank : Text} (allBlank : blank.allBlank = true) (text : Text) :
    skipBlanks (blank ++ text) = skipBlanks text := by
  rw [skipBlanks, List.dropWhile_append_of_pos (by simpa [Text.allBlank] using allBlank),
    skipBlanks]

/-- Behind blanks stands the first character that is none. -/
theorem skipBlanks_lead {lead : Text} (blank : lead.allBlank = true) {c : Char}
    (filled : isBlank c = false) (rest : Text) : skipBlanks (lead ++ c :: rest) = c :: rest := by
  rw [skipBlanks_append blank, skipBlanks_of_not_isBlank filled]

theorem skipBlanks_eq_nil_iff {text : Text} : skipBlanks text = [] ↔ text.allBlank = true := by
  simp [skipBlanks, allBlank, List.dropWhile_eq_nil_iff]

/-- What is skipped is a blank piece in front of the rest. -/
theorem exists_blank_append (text : Text) :
    ∃ blank : Text, blank.allBlank = true ∧ text = blank ++ skipBlanks text :=
  ⟨text.takeWhile isBlank, List.all_takeWhile, List.takeWhile_append_dropWhile.symm⟩

/-- Skipping stops at a character that is no blank. -/
theorem not_isBlank_of_skipBlanks {text rest : Text} {c : Char}
    (skipped : skipBlanks text = c :: rest) : isBlank c = false := by
  induction text with
  | nil => contradiction
  | cons d text ih =>
      by_cases blank : isBlank d = true
      · rw [skipBlanks, List.dropWhile_cons_of_pos blank] at skipped
        exact ih skipped
      · rw [skipBlanks, List.dropWhile_cons_of_neg blank] at skipped
        cases skipped
        simpa using blank

/-- What stands behind a text that is not blank is not reached. -/
theorem skipBlanks_append_of_filled {text : Text} (filled : text.allBlank = false) (more : Text) :
    skipBlanks (text ++ more) = skipBlanks text ++ more := by
  obtain ⟨blank, allBlank, cut⟩ := exists_blank_append text
  cases behind : skipBlanks text with
  | nil => simp [skipBlanks_eq_nil_iff.1 behind] at filled
  | cons c rest =>
      rw [cut, behind, List.append_assoc, skipBlanks_append allBlank, List.cons_append,
        skipBlanks_of_not_isBlank (not_isBlank_of_skipBlanks behind)]

end SeedCatalog.Text
