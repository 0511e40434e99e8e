import SeedCatalog.Sql.LineComment

/-!
# Where a line comment may begin

A piece of a statement is closed if a line comment behind it begins where it
would begin without the piece.  Words, marks, blanks and whole literals are
closed; inside a literal that is still open no line comment begins at all.
-/

namespace SeedCatalog.Sql

open Text

/-- Behind the piece, a line comment begins where it would begin without the piece. -/
def Closed (piece : Text) : Prop :=
  ∀ rest, dropLineComment (piece ++ rest) = piece ++ dropLineComment rest

/-- Whether a character opens no quotes and no comment. -/
def isInert (c : Char) : Bool :=
  c != '\'' && c != '"' && c != '-' && c != '/'

theorem closed_nil : Closed [] := by
  intro rest
  rfl

theorem Closed.append {first second : Text} (closed : Closed first) (closed' : Closed second) :
    Closed (first ++ second) := by
  intro rest
  rw [List.append_assoc, closed, closed', List.append_assoc]

@[simp]
theorem dropLineComment_nil : dropLineComment [] = [] :=
  rfl

/-- Two hyphens and all that stands behind them are dropped. -/
theorem dropLineComment_hyphens (rest : Text) : dropLineComment ('-' :: '-' :: rest) = [] := by
  simp [dropLineComment, dropLineCommentFrom, Surrounding.beginsLineComment]

/-- What is dropped of a text is nothing, or begins with two hyphens. -/
theorem exists_eq_dropLineCommentFrom_append (surrounding : Surrounding) (text : Text) :
    ∃ dropped, text = dropLineCommentFrom surrounding text ++ dropped ∧
      (dropped = [] ∨ ['-', '-'] <+: dropped) := by
  induction text generalizing surrounding with
  | nil => exact ⟨[], rfl, .inl rfl⟩
  | cons c rest ih =>
      rw [dropLineCommentFrom]
      split
      · rename_i begins
        refine ⟨c :: rest, rfl, .inr ?_⟩
        simp only [Surrounding.beginsLineComment, Bool.and_eq_true, decide_eq_true_eq] at begins
        obtain ⟨others, rfl⟩ := List.head?_eq_some_iff.1 begins.2
        rw [begins.1.2]
        exact ⟨others, rfl⟩
      · obtain ⟨dropped, cut, hyphens⟩ := ih (surrounding.next c rest)
        exact ⟨dropped, by rw [List.cons_append, ← cut], hyphens⟩

/-- What is dropped begins with a hyphen. -/
theorem exists_dropLineCommentFrom_append (surrounding : Surrounding) (text : Text) :
    ∃ comment, text = dropLineCommentFrom surrounding text ++ comment ∧
      comment.head?.all (· == '-') = true := by
  obtain ⟨comment, cut, hyphens⟩ := exists_eq_dropLineCommentFrom_append surrounding text
  refine ⟨comment, cut, ?_⟩
  rcases hyphens with rfl | ⟨others, rfl⟩ <;> rfl

theorem Closed.dropLineComment_hyphens {piece : Text} (closed : Closed piece) (rest : Text) :
    dropLineComment (piece ++ '-' :: '-' :: rest) = piece := by
  rw [closed, SeedCatalog.Sql.dropLineComment_hyphens, List.append_nil]

theorem Closed.dropLineComment_eq {piece : Text} (closed : Closed piece) :
    dropLineComment piece = piece := by
  rw [← List.append_nil piece, closed, dropLineComment_nil]

theorem closed_singleton {c : Char} (inert : isInert c = true) : Closed [c] := by
  intro rest
  simp only [isInert, Bool.and_eq_true, bne_iff_ne] at inert
  obtain ⟨⟨⟨noQuote, noDoubleQuote⟩, noHyphen⟩, noSlash⟩ := inert
  simp [dropLineComment, dropLineCommentFrom, Surrounding.beginsLineComment, Surrounding.next,
    noQuote, noDoubleQuote, noHyphen, noSlash]

/-- A piece of words, marks and blanks is closed. -/
theorem closed_of_all {piece : Text} (inert : piece.all isInert = true) : Closed piece := by
  induction piece with
  | nil => exact closed_nil
  | cons c piece ih =>
      rw [List.all_cons, Bool.and_eq_true] at inert
      exact (closed_singleton inert.1).append (ih inert.2)

/-! ## Literals -/

/-- A doubled quote leaves a literal and enters it again, so that the inside of a literal is kept
as a whole. -/
theorem dropLineCommentFrom_double (text rest : Text) :
    dropLineCommentFrom (.quoted '\'') (double '\'' text ++ rest) =
      double '\'' text ++ dropLineCommentFrom (.quoted '\'') rest := by
  induction text with
  | nil => rfl
  | cons c text ih =>
      by_cases quote : c = '\''
      · subst quote
        simp [double, dropLineCommentFrom, Surrounding.beginsLineComment, Surrounding.next, ih]
      · simp [double, dropLineCommentFrom, Surrounding.beginsLineComment, Surrounding.next, quote,
          ih]

/-- The text as a literal: between quotes, with its own quotes doubled. -/
def literal (text : Text) : Text :=
  '\'' :: double '\'' text ++ ['\'']

theorem literal_append (text rest : Text) :
    literal text ++ rest = '\'' :: (double '\'' text ++ '\'' :: rest) := by
  simp [literal]

theorem dropLineComment_quote (rest : Text) :
    dropLineComment ('\'' :: rest) = '\'' :: dropLineCommentFrom (.quoted '\'') rest := by
  simp [dropLineComment, dropLineCommentFrom, Surrounding.beginsLineComment, Surrounding.next]

theorem closed_literal (text : Text) : Closed (literal text) := by
  intro rest
  rw [literal_append, dropLineComment_quote, dropLineCommentFrom_double, literal_append]
  simp [dropLineComment, dropLineCommentFrom, Surrounding.beginsLineComment, Surrounding.next]

/-- A literal that is still open keeps all of its text. -/
theorem dropLineComment_open (text : Text) :
    dropLineComment ('\'' :: double '\'' text) = '\'' :: double '\'' text := by
  have kept := dropLineCommentFrom_double text []
  rw [List.append_nil, dropLineCommentFrom, List.append_nil] at kept
  rw [dropLineComment_quote, kept]

end SeedCatalog.Sql
