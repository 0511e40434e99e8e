import SeedCatalog.Proofs.Sql.ValueForm

/-!
# Whole block comments

Two readers look for the end of a block comment: the one that drops line
comments keeps account of quotes, and the scanner does not.  Inside a comment
both go to its first closing marker, whatever the comment holds, so that they
agree on where it ends.
-/

namespace SeedCatalog.Sql

open Text

/-- The text as a block comment. -/
def blockComment (body : Text) : Text :=
  '/' :: '*' :: (body ++ ['*', '/'])

theorem blockComment_append (body rest : Text) :
    blockComment body ++ rest = '/' :: '*' :: (body ++ '*' :: '/' :: rest) := by
  simp [blockComment]

/-- A comment goes on behind a character at which no closing marker stands. -/
theorem dropLineCommentFrom_cons {c : Char} {rest : Text}
    (goesOn : ¬(c = '*' ∧ rest.head? = some '/')) :
    dropLineCommentFrom .comment (c :: rest) = c :: dropLineCommentFrom .comment rest := by
  rw [dropLineCommentFrom, Surrounding.next, if_neg goesOn]
  rfl

namespace ClosesFirst

variable {body : Text}

theorem of_prefix {piece : Text} (first : ClosesFirst body) (begins : piece <+: body) :
    ClosesFirst piece :=
  fun marker => first (marker.trans begins.isInfix)

/-- No closing marker stands at the beginning of a text that has none. -/
theorem not_marker_of_cons {c : Char} (first : ClosesFirst (c :: body)) :
    ¬(c = '*' ∧ body.head? = some '/') := by
  rintro ⟨rfl, slash⟩
  obtain ⟨others, rfl⟩ := List.head?_eq_some_iff.1 slash
  exact first ⟨[], others, rfl⟩

theorem cons {c : Char} (goesOn : ¬(c = '*' ∧ body.head? = some '/'))
    (first : ClosesFirst body) : ClosesFirst (c :: body) := by
  intro marker
  rcases List.infix_cons_iff.1 marker with ⟨others, begins⟩ | further
  · cases begins
    exact goesOn ⟨rfl, rfl⟩
  · exact first further

/-- A line end brings no closing marker about. -/
theorem append_newline (first : ClosesFirst body) : ClosesFirst (body ++ ['\n']) := by
  rintro ⟨before, after, written⟩
  rcases List.eq_nil_or_concat after with rfl | ⟨after, c, rfl⟩
  · have last := congrArg List.getLast? written
    simp at last
  · refine first ⟨before, after, ?_⟩
    rw [List.concat_eq_append, ← List.append_assoc] at written
    exact (List.append_inj' written rfl).1

/-- Without a closing marker a comment goes on. -/
theorem afterComment?_eq_none (first : ClosesFirst body) : afterComment? body = none := by
  induction body with
  | nil => rfl
  | cons c body ih =>
      cases body with
      | nil => rfl
      | cons d body =>
          have goesOn := first.not_marker_of_cons
          rw [List.head?_cons, Option.some.injEq] at goesOn
          rw [afterComment?, if_neg goesOn, ih first.of_cons]

/-- Where a comment does not go on, it ends at its first closing marker. -/
theorem exists_of_afterComment? :
    ∀ {text after : Text}, afterComment? text = some after →
      ∃ body, ClosesFirst body ∧ text = body ++ '*' :: '/' :: after
  | [], _, read => by simp [afterComment?] at read
  | [_], _, read => by simp [afterComment?] at read
  | c :: d :: text, after, read => by
      rw [afterComment?] at read
      split at read
      · rename_i marker
        cases read
        exact ⟨[], by simp [ClosesFirst], by rw [marker.1, marker.2]; rfl⟩
      · rename_i goesOn
        obtain ⟨body, first, cut⟩ := exists_of_afterComment? read
        refine ⟨c :: body, first.cons ?_, by rw [cut, List.cons_append]⟩
        rintro ⟨star, slash⟩
        obtain ⟨others, rfl⟩ := List.head?_eq_some_iff.1 slash
        cases cut
        exact goesOn ⟨star, rfl⟩

theorem of_afterComment? :
    ∀ {text : Text}, afterComment? text = none → ClosesFirst text
  | [], _ => by simp [ClosesFirst]
  | [c], _ => cons (by simp) (by simp [ClosesFirst])
  | c :: d :: text, unread => by
      rw [afterComment?] at unread
      split at unread
      · contradiction
      · rename_i goesOn
        exact cons (by simpa using goesOn) (of_afterComment? unread)

/-- In a comment that goes on no line comment begins. -/
theorem dropLineCommentFrom_eq (first : ClosesFirst body) :
    dropLineCommentFrom .comment body = body := by
  induction body with
  | nil => rfl
  | cons c body ih =>
      rw [dropLineCommentFrom_cons first.not_marker_of_cons, ih first.of_cons]

/-- Behind the first closing marker line comments may begin again. -/
theorem dropLineCommentFrom_append (first : ClosesFirst body) (rest : Text) :
    dropLineCommentFrom .comment (body ++ '*' :: '/' :: rest) =
      body ++ '*' :: '/' :: dropLineComment rest := by
  induction body with
  | nil =>
      simp [dropLineCommentFrom, Surrounding.beginsLineComment, Surrounding.next, dropLineComment]
  | cons c body ih =>
      rw [List.cons_append, dropLineCommentFrom_cons (first.not_marker ('/' :: rest)),
        ih first.of_cons, List.cons_append]

end ClosesFirst

theorem dropLineComment_opening (rest : Text) :
    dropLineComment ('/' :: '*' :: rest) = '/' :: '*' :: dropLineCommentFrom .comment rest := by
  simp [dropLineComment, dropLineCommentFrom, Surrounding.beginsLineComment, Surrounding.next]

theorem closed_blockComment {body : Text} (first : ClosesFirst body) :
    Closed (blockComment body) := by
  intro rest
  rw [blockComment_append, dropLineComment_opening, first.dropLineCommentFrom_append,
    blockComment_append]

theorem closed_of_allBlank {blank : Text} (allBlank : blank.allBlank = true) : Closed blank := by
  apply closed_of_all
  rw [List.all_eq_true]
  intro c mem
  have isBlank : isBlank c = true := List.all_eq_true.1 allBlank c mem
  simp only [isInert, Bool.and_eq_true, bne_iff_ne]
  refine ⟨⟨⟨?_, ?_⟩, ?_⟩, ?_⟩
  all_goals
    rintro rfl
    contradiction

theorem commentOpening?_eq {lead : Text} (blank : lead.allBlank = true) (rest : Text) :
    commentOpening? (lead ++ '/' :: '*' :: rest) = some rest := by
  rw [commentOpening?, skipBlanks_append blank, skipBlanks_of_not_isBlank rfl]
  rfl

end SeedCatalog.Sql
