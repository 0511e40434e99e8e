import SeedCatalog.Proofs.Scan.Move
import SeedCatalog.Proofs.Sql.ValueForm

/-!
# What a step on a value leaves

A step that counts a value leaves what stands behind the comma or parenthesis
that ends the value.  Wherever nothing but blanks and comments closed at their
first markers stands between the value and such a mark, that mark ends it.
Where something else stands there, a comment may be read over its closing
marker, and everything up to a later mark is lost.
-/

namespace SeedCatalog.Scan

open SeedCatalog.Sql

variable {registry : Registry} {delimiter : Text} {cursor : Cursor} {text : Text}

/-- A step that counts a value has read one. -/
theorem Move.exists_value {statement : Statement} {transition : Transition}
    (move : Move registry delimiter cursor text transition) (phase : cursor.phase = .tuple)
    (reading : cursor.statement = some statement)
    (counted : transition.cursor.statement.map Statement.ordinal = some (statement.ordinal + 1)) :
    ∃ token, value? text = some token ∧ transition.remainder = token.rest := by
  have uncounted (kept : transition.cursor.statement = cursor.statement) : False := by
    rw [kept, reading, Option.map_some, Option.some.injEq] at counted
    omega
  cases move with
  | value phase reading read => exact ⟨_, read, rfl⟩
  | pause => exact (uncounted rfl).elim
  | openComment => exact (uncounted rfl).elim
  | wait => exact (uncounted rfl).elim
  | openColumns closes => exact absurd phase closes.ne_tuple
  | column closes => exact absurd phase closes.ne_tuple
  | giveUp => contradiction
  | insertUnknown => contradiction
  | endTuples => contradiction
  | _ => simp_all

/-- The value that a step counts ends at the mark that the step leaves behind.  If blanks and
comments closed at their first markers and then a mark stand behind the value, it is that mark. -/
theorem step_value_extent {statement : Statement} {transition : Transition}
    (phase : cursor.phase = .tuple) (reading : cursor.statement = some statement)
    (taken : cursor.step registry delimiter text = .ok transition)
    (counted : transition.cursor.statement.map Statement.ordinal = some (statement.ordinal + 1)) :
    ∃ lead value behind, text = lead ++ (value ++ behind) ∧ lead.allBlank = true ∧
      IsValue value ∧
      (∃ trail isLast, Comments (fun _ => True) trail ∧
        behind = trail ++ endMark isLast :: transition.remainder) ∧
      ∀ trail isLast rest, Comments ClosesFirst trail →
        behind = trail ++ endMark isLast :: rest → transition.remainder = rest := by
  obtain ⟨token, read, left⟩ := (Move.of_step taken).exists_value phase reading counted
  obtain ⟨lead, value, behind, cut, blank, isValue, ends⟩ := value?_eq_some read
  refine ⟨lead, value, behind, cut, blank, isValue, ?_, ?_⟩
  · obtain ⟨trail, comments, written⟩ := exists_remains_of_ending? ends
    exact ⟨trail, token.isLast, comments, by rw [left, written]⟩
  · intro trail isLast rest comments written
    rw [written, ending?_comments comments, Option.some.injEq, Prod.mk.injEq] at ends
    rw [left, ends.2]

/-- A comment with a comma inside stands behind the first of two values. -/
theorem step_value_extent_comment :
    let statement : Statement := { table := ['t'], columnsOpen := true }
    let cursor : Cursor := { phase := .tuple, statement }
    let text := "'a' /* x, y */, 'b')".toList
    ∃ transition, cursor.step (Registry.ofTables []) ['\t'] text = .ok transition ∧
      transition.cursor.statement.map Statement.ordinal = some 1 ∧
      transition.remainder = " 'b')".toList ∧
      ∃ lead value behind : Text, text = lead ++ (value ++ behind) ∧ lead.allBlank = true ∧
        IsValue value ∧
        (∃ trail isLast, Comments (fun _ => True) trail ∧
          behind = trail ++ endMark isLast :: " 'b')".toList) ∧
        ∀ trail isLast rest, Comments ClosesFirst trail →
          behind = trail ++ endMark isLast :: rest → " 'b')".toList = rest := by
  intro statement cursor text
  have taken : cursor.step (Registry.ofTables []) ['\t'] text =
      .ok (cursor.stepTuple (Registry.ofTables []) statement text) := by decide +kernel
  have counted : (cursor.stepTuple (Registry.ofTables []) statement text).cursor.statement.map
      Statement.ordinal = some (statement.ordinal + 1) := by decide +kernel
  have left : (cursor.stepTuple (Registry.ofTables []) statement text).remainder =
      " 'b')".toList := by decide +kernel
  refine ⟨_, taken, counted, left, ?_⟩
  rw [← left]
  exact step_value_extent rfl rfl taken counted

/-- Comments mislead the scanner.  At `'a' /* x */ 'b', 'c' /* y */)` the first comment is read on
to the second closing marker, and `1 /* a, b */, 'x')` ends at the comma inside the comment. -/
theorem comments_mislead_values :
    let registry := Registry.ofTables [(['t'], [['a'], ['b']])]
    let statement : Statement :=
      { table := ['t'], columns := .ofList [(1, ['a']), (2, ['b'])], columnsOpen := true }
    let cursor : Cursor := { phase := .tuple, statement }
    (∃ transition,
      cursor.step registry ['\t'] "'a' /* x */ 'b', 'c' /* y */)".toList = .ok transition ∧
      transition.cursor.statement.map Statement.ordinal = some (statement.ordinal + 1) ∧
      transition.remainder = [] ∧
      ¬TakesOneValue "'a' /* x */ 'b', 'c' /* y */)".toList []) ∧
    ∃ transition,
      cursor.step registry ['\t'] "1 /* a, b */, 'x')".toList = .ok transition ∧
      transition.cursor.statement.map Statement.ordinal = some (statement.ordinal + 1) ∧
      transition.remainder = " b */, 'x')".toList ∧
      ¬TakesOneValue "1 /* a, b */, 'x')".toList " b */, 'x')".toList := by
  intro registry statement cursor
  refine ⟨⟨_, rfl, by decide +kernel, by decide +kernel, ?_⟩,
    ⟨_, rfl, by decide +kernel, by decide +kernel, ?_⟩⟩
  · intro takes
    have read : quotedRun? '\'' "a' /* x */ 'b', 'c' /* y */)".toList =
        some (['a'], " /* x */ 'b', 'c' /* y */)".toList) := by decide +kernel
    obtain ⟨trail, isLast, comments, cut⟩ := takes.of_quote read (by decide +kernel)
    -- Behind the first closing marker stands a quote, which is neither a mark nor a comment.
    have comment : Text.skipBlanks " /* x */ 'b', 'c' /* y */)".toList =
        '/' :: '*' :: " x */ 'b', 'c' /* y */)".toList := by decide +kernel
    rw [cut] at comment
    obtain ⟨others, comments, behind⟩ := comments.behind_comment isLast [] comment
    have closed : afterComment? " x */ 'b', 'c' /* y */)".toList =
        some " 'b', 'c' /* y */)".toList := by decide +kernel
    rw [closed, Option.some.injEq] at behind
    have quote : (Text.skipBlanks " 'b', 'c' /* y */)".toList).head? = some '\'' := by
      decide +kernel
    rw [behind] at quote
    rcases comments.skipBlanks_eq isLast [] with mark | ⟨body, further, -, -, comment⟩
    · rw [mark] at quote
      cases isLast <;> simp [endMark] at quote
    · simp [comment] at quote
  · intro takes
    have takes : TakesOneValue ('1' :: " /* a".toList ++ endMark false :: " b */, 'x')".toList)
        " b */, 'x')".toList := takes
    have ends : ∀ d, ('1' :: " /* a".toList).getLast? = some d → isBlank d = false ∧ d ≠ '/' := by
      rintro d last
      cases last
      decide
    exact takes.not_comment (by decide) (by decide) ends ⟨['1', ' '], [' ', 'a'], rfl⟩

end SeedCatalog.Scan
