import SeedCatalog.Proofs.Sql.LineComment

/-!
# Line comments and carried text

A text that waits for its next line is read once more together with this line.
Nothing of it is lost then, because it has no line comment, and the line is read
as the end of the text asks for: on its own, on from a block comment, or on from
quotes that are still open.
-/

namespace SeedCatalog.Sql

open Text

namespace Surrounding

/-- What surrounds the beginning of a text, which may stand inside a block comment. -/
def beginning (inComment : Bool) : Surrounding :=
  if inComment then .comment else .plain

/-- What surrounds the place behind a text. -/
def behind : Surrounding → Text → Surrounding
  | surrounding, [] => surrounding
  | surrounding, c :: rest => (surrounding.next c rest).behind rest

/-- Only whether a marker is completed matters of the text behind a character. -/
theorem next_congr {c : Char} {rest rest' : Text}
    (star : rest.head? = some '*' ↔ rest'.head? = some '*')
    (slash : rest.head? = some '/' ↔ rest'.head? = some '/') (surrounding : Surrounding) :
    surrounding.next c rest = surrounding.next c rest' := by
  cases surrounding <;> simp only [next, star, slash]

/-- Quotes are opened by a quote. -/
theorem quoted_of_next {surrounding : Surrounding} {c q : Char} {rest : Text}
    (opened : surrounding.next c rest = .quoted q) :
    surrounding = .quoted q ∨ q = '\'' ∨ q = '"' := by
  cases surrounding with
  | plain =>
      rw [next] at opened
      split at opened
      · contradiction
      · split at opened
        · rename_i quote
          cases opened
          exact .inr quote
        · contradiction
  | quoted q' =>
      rw [next] at opened
      split at opened
      · contradiction
      · exact .inl opened
  | opening => contradiction
  | comment =>
      rw [next] at opened
      split at opened <;> contradiction
  | closing => contradiction

theorem quoted_of_behind {surrounding : Surrounding} {text : Text} {q : Char}
    (opened : surrounding.behind text = .quoted q) :
    surrounding = .quoted q ∨ q = '\'' ∨ q = '"' := by
  induction text generalizing surrounding with
  | nil => exact .inl opened
  | cons c rest ih =>
      rcases ih opened with opened | quote
      · exact quoted_of_next opened
      · exact .inr quote

/-- A line end completes no marker and begins none. -/
theorem cases_next_newline (surrounding : Surrounding) :
    (∃ inComment, surrounding.next '\n' [] = beginning inComment) ∨
      ∃ q, surrounding.next '\n' [] = .quoted q := by
  cases surrounding with
  | plain => exact .inl ⟨false, rfl⟩
  | quoted q =>
      rw [next]
      split
      · exact .inl ⟨false, rfl⟩
      · exact .inr ⟨q, rfl⟩
  | opening => exact .inl ⟨true, rfl⟩
  | comment => exact .inl ⟨true, rfl⟩
  | closing => exact .inl ⟨false, rfl⟩

/-- Behind a line end there is a beginning, or the inside of quotes. -/
theorem cases_behind {text : Text} (ended : text.getLast? = some '\n')
    (surrounding : Surrounding) :
    (∃ inComment, surrounding.behind text = beginning inComment) ∨
      ∃ q, surrounding.behind text = .quoted q := by
  induction text generalizing surrounding with
  | nil => contradiction
  | cons c rest ih =>
      cases rest with
      | nil =>
          obtain rfl : c = '\n' := Option.some.inj ended
          exact surrounding.cases_next_newline
      | cons d rest =>
          rw [List.getLast?_cons_cons] at ended
          exact ih ended _

end Surrounding

/-! ## What is dropped -/

/-- A text without a line comment has none at its first character and none behind it. -/
theorem dropLineCommentFrom_cons_eq_iff {surrounding : Surrounding} {c : Char} {rest : Text} :
    dropLineCommentFrom surrounding (c :: rest) = c :: rest ↔
      surrounding.beginsLineComment c rest = false ∧
        dropLineCommentFrom (surrounding.next c rest) rest = rest := by
  rw [dropLineCommentFrom]
  split
  · rename_i begins
    simp [begins]
  · rename_i goesOn
    simp [goesOn]

/-- What is left of a text begins as the text does, or the text begins with a hyphen. -/
theorem head?_dropLineCommentFrom (surrounding : Surrounding) (text : Text) :
    (dropLineCommentFrom surrounding text).head? = text.head? ∨
      dropLineCommentFrom surrounding text = [] ∧ text.head? = some '-' := by
  cases text with
  | nil => exact .inl rfl
  | cons c rest =>
      rw [dropLineCommentFrom]
      split
      · rename_i begins
        simp only [Surrounding.beginsLineComment, Bool.and_eq_true, decide_eq_true_eq] at begins
        exact .inr ⟨rfl, by rw [List.head?_cons, begins.1.2]⟩
      · exact .inl rfl

/-- In what is left of a text no line comment begins. -/
theorem dropLineCommentFrom_idem (surrounding : Surrounding) (text : Text) :
    dropLineCommentFrom surrounding (dropLineCommentFrom surrounding text) =
      dropLineCommentFrom surrounding text := by
  induction text generalizing surrounding with
  | nil => rfl
  | cons c rest ih =>
      by_cases begins : surrounding.beginsLineComment c rest = true
      · rw [dropLineCommentFrom, if_pos begins]
        rfl
      · rw [dropLineCommentFrom, if_neg begins, dropLineCommentFrom_cons_eq_iff]
        have head := head?_dropLineCommentFrom (surrounding.next c rest) rest
        have left := ih (surrounding.next c rest)
        generalize dropLineCommentFrom (surrounding.next c rest) rest = kept at head left
        -- The cut is at a hyphen, so that it takes no marker of a block comment apart.
        have same : surrounding.next c kept = surrounding.next c rest := by
          apply Surrounding.next_congr <;>
            rcases head with same | ⟨rfl, hyphen⟩ <;> simp_all
        constructor
        · rw [Bool.not_eq_true, Surrounding.beginsLineComment] at begins
          rw [Surrounding.beginsLineComment]
          rcases head with same | ⟨rfl, -⟩
          · rwa [same]
          · simp
        · rwa [same]

/-! ## A line behind a carried text -/

/-- Behind a carried text a line is read as the end of the text asks for. -/
theorem dropLineCommentFrom_append {surrounding : Surrounding} {text : Text}
    (ended : text.getLast? = some '\n') (kept : dropLineCommentFrom surrounding text = text)
    (line : Text) :
    dropLineCommentFrom surrounding (text ++ line) =
      text ++ dropLineCommentFrom (surrounding.behind text) line := by
  induction text generalizing surrounding with
  | nil => contradiction
  | cons c rest ih =>
      obtain ⟨goesOn, kept⟩ := dropLineCommentFrom_cons_eq_iff.1 kept
      cases rest with
      | nil =>
          obtain rfl : c = '\n' := Option.some.inj ended
          have same : surrounding.next '\n' line = surrounding.next '\n' [] := by
            cases surrounding <;> simp [Surrounding.next]
          have goesOn : surrounding.beginsLineComment '\n' line = false := by
            simp [Surrounding.beginsLineComment]
          rw [List.singleton_append, dropLineCommentFrom, goesOn, same]
          rfl
      | cons d rest =>
          rw [List.getLast?_cons_cons] at ended
          have goesOn : surrounding.beginsLineComment c (d :: rest ++ line) = false := goesOn
          rw [List.cons_append, dropLineCommentFrom, goesOn, if_neg Bool.false_ne_true]
          exact congrArg (c :: ·) (ih ended kept)

theorem dropLineCommentFrom_quoted_cons {q c : Char} (other : c ≠ q) (rest : Text) :
    dropLineCommentFrom (.quoted q) (c :: rest) = c :: dropLineCommentFrom (.quoted q) rest := by
  simp [dropLineCommentFrom, Surrounding.beginsLineComment, Surrounding.next, other]

/-- Inside of quotes that are not closed everything is kept. -/
theorem dropLineCommentFrom_quoted_of_not_mem {q : Char} {text : Text} (unclosed : q ∉ text) :
    dropLineCommentFrom (.quoted q) text = text := by
  induction text with
  | nil => rfl
  | cons c rest ih =>
      rw [List.mem_cons, not_or] at unclosed
      rw [dropLineCommentFrom_quoted_cons (Ne.symm unclosed.1), ih unclosed.2]

/-- Behind the quote that closes quotes line comments may begin again. -/
theorem dropLineCommentFrom_quoted_append {q : Char} {inside : Text} (first : q ∉ inside)
    (rest : Text) :
    dropLineCommentFrom (.quoted q) (inside ++ q :: rest) =
      inside ++ q :: dropLineComment rest := by
  induction inside with
  | nil => simp [dropLineCommentFrom, Surrounding.beginsLineComment, Surrounding.next,
      dropLineComment]
  | cons c inside ih =>
      rw [List.mem_cons, not_or] at first
      rw [List.cons_append, dropLineCommentFrom_quoted_cons (Ne.symm first.1), ih first.2,
        List.cons_append]

/-- How a line behind a carried text is read, by what surrounds the end of the text. -/
structure ReadsOn (inComment : Bool) (text : Text) : Prop where
  /-- The text ends outside of quotes, or inside of quotes that one of the two quotes opened. -/
  complete : (∃ ends, (Surrounding.beginning inComment).behind text = .beginning ends) ∨
    ∃ q, (q = '\'' ∨ q = '"') ∧ (Surrounding.beginning inComment).behind text = .quoted q
  /-- Outside of quotes the line is read on its own, or on from a block comment. -/
  outside : ∀ ends, (Surrounding.beginning inComment).behind text = .beginning ends → ∀ line,
    dropLineComment (text ++ line) inComment = text ++ dropLineComment line ends
  /-- Inside of quotes that the line does not close, all of it is kept. -/
  unclosed : ∀ q, (Surrounding.beginning inComment).behind text = .quoted q → ∀ line, q ∉ line →
    dropLineComment (text ++ line) inComment = text ++ line
  /-- Inside of quotes that the line closes, what follows the closing quote is read on its own. -/
  closed : ∀ q, (Surrounding.beginning inComment).behind text = .quoted q →
    ∀ inside rest, q ∉ inside →
      dropLineComment (text ++ (inside ++ q :: rest)) inComment =
        text ++ (inside ++ q :: dropLineComment rest)

/-- What is left of a text is the text up to two hyphens, and stays when it is read again.  A line
behind a text that waits is read as the end of that text asks for. -/
theorem dropLineComment_carried (text : Text) (inComment : Bool) :
    (∃ dropped, text = dropLineComment text inComment ++ dropped ∧
        (dropped = [] ∨ ['-', '-'] <+: dropped)) ∧
      dropLineComment (dropLineComment text inComment) inComment =
        dropLineComment text inComment ∧
      (text.getLast? = some '\n' → dropLineComment text inComment = text →
        ReadsOn inComment text) := by
  refine ⟨exists_eq_dropLineCommentFrom_append _ _, dropLineCommentFrom_idem _ _, ?_⟩
  intro ended kept
  have readsOn (line : Text) : dropLineComment (text ++ line) inComment =
      text ++ dropLineCommentFrom ((Surrounding.beginning inComment).behind text) line :=
    dropLineCommentFrom_append ended kept line
  constructor
  · rcases (Surrounding.beginning inComment).cases_behind ended with outside | ⟨q, inside⟩
    · exact .inl outside
    · refine .inr ⟨q, ?_, inside⟩
      rcases Surrounding.quoted_of_behind inside with opened | quote
      · cases inComment <;> contradiction
      · exact quote
  · intro ends outside line
    rw [readsOn, outside]
    rfl
  · intro q inside line unclosed
    rw [readsOn, inside, dropLineCommentFrom_quoted_of_not_mem unclosed]
  · intro q opened inside rest first
    rw [readsOn, opened, dropLineCommentFrom_quoted_append first]

/-- A carried literal keeps the hyphens in front of its closing quote, and a carried comment those
in front of its closing marker. -/
theorem dropLineComment_carried_literal :
    let text := "VALUES ('a--\n".toList
    text.getLast? = some '\n' ∧ dropLineComment text = text ∧
      dropLineComment (text ++ "b--') -- c".toList) = text ++ "b--') ".toList ∧
      dropLineComment ("/* 'a'\n".toList ++ "-- */ 'b' -- c".toList) =
        "/* 'a'\n-- */ 'b' ".toList := by
  intro text
  have ended : text.getLast? = some '\n' := by decide
  have kept : dropLineComment text = text := by decide
  refine ⟨ended, kept, ?_, ?_⟩
  · exact ((dropLineComment_carried text false).2.2 ended kept).closed '\'' (by decide)
      "b--".toList ") -- c".toList (by decide)
  · exact ((dropLineComment_carried "/* 'a'\n".toList false).2.2 (by decide) (by decide)).outside
      true (by decide) "-- */ 'b' -- c".toList

end SeedCatalog.Sql
