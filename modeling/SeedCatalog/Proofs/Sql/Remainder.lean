import SeedCatalog.Sql.Value

/-!
# What a reader leaves

A reader reads from the front of its text.  What it leaves is an end of that
text: nothing is put in front of it, and nothing inside it is passed over.
-/

namespace SeedCatalog.Sql

open Text

theorem skipBlanks_isSuffix (text : Text) : skipBlanks text <:+ text :=
  List.dropWhile_suffix _

/-- Behind the first character that is no blank stands an end of the text. -/
theorem isSuffix_of_skipBlanks {text rest : Text} {c : Char}
    (skipped : skipBlanks text = c :: rest) : rest <:+ text := by
  have whole := skipBlanks_isSuffix text
  rw [skipped] at whole
  exact (List.suffix_cons c rest).trans whole

/-! ## Marks and words -/

theorem isSuffix_of_mark? {c : Char} {text rest : Text} (read : mark? c text = some rest) :
    rest <:+ text := by
  unfold mark? at read
  split at read
  · contradiction
  · rename_i skipped
    split at read
    · cases read
      exact isSuffix_of_skipBlanks skipped
    · contradiction

theorem isSuffix_of_commentOpening? {text rest : Text} (read : commentOpening? text = some rest) :
    rest <:+ text := by
  unfold commentOpening? at read
  split at read
  · rename_i skipped
    cases read
    exact (List.suffix_cons '*' _).trans (isSuffix_of_skipBlanks skipped)
  · contradiction

theorem isSuffix_of_afterComment? {text rest : Text} (read : afterComment? text = some rest) :
    rest <:+ text := by
  fun_induction afterComment? text with
  | case1 => contradiction
  | case2 => contradiction
  | case3 c d behind closes =>
      cases read
      exact (List.suffix_cons d rest).trans (List.suffix_cons c _)
  | case4 c d behind goesOn ih => exact (ih read).trans (List.suffix_cons c _)

theorem isSuffix_of_letters? {word text rest : Text} (read : letters? word text = some rest) :
    rest <:+ text := by
  fun_induction letters? word text with
  | case1 text =>
      cases read
      exact List.suffix_rfl
  | case2 => contradiction
  | case3 letter word c text form ih => exact (ih read).trans (List.suffix_cons c text)
  | case4 => contradiction

theorem isSuffix_of_keyword? {word text rest : Text} (read : keyword? word text = some rest) :
    rest <:+ text := by
  unfold keyword? at read
  split at read
  · rename_i letters
    split at read
    · contradiction
    · cases read
      exact isSuffix_of_letters? letters
  · contradiction

/-- Blanks in front of a keyword are left aside. -/
theorem isSuffix_of_skipped_keyword? {word text rest : Text}
    (read : keyword? word text.skipBlanks = some rest) : rest <:+ text :=
  (isSuffix_of_keyword? read).trans (skipBlanks_isSuffix text)

theorem isSuffix_of_copy? {text rest : Text} (read : copy? text = some rest) : rest <:+ text := by
  unfold copy? at read
  split at read
  · contradiction
  · rename_i c behind skipped
    have suffix := isSuffix_of_keyword? read
    split at suffix
    · exact suffix.trans (isSuffix_of_skipBlanks skipped)
    · exact suffix.trans (skipped ▸ skipBlanks_isSuffix text)

theorem isSuffix_of_fromStdin? {text rest : Text} (read : fromStdin? text = some rest) :
    rest <:+ text := by
  unfold fromStdin? at read
  split at read
  · rename_i letters
    split at read
    · exact (isSuffix_of_skipped_keyword? read).trans
        ((isSuffix_of_letters? letters).trans (skipBlanks_isSuffix text))
    · contradiction
  · contradiction

/-! ## Names -/

theorem isSuffix_of_quotedRun? {q : Char} {text inside after : Text}
    (read : quotedRun? q text = some (inside, after)) : after <:+ text := by
  rw [eq_append_of_quotedRun? read]
  exact (List.suffix_cons q after).trans (List.suffix_append inside _)

theorem isSuffix_of_filledRun? {q : Char} {text : Text} {run : Text × Text}
    (read : filledRun? q text = some run) : run.2 <:+ text := by
  obtain ⟨inside, after⟩ := run
  rw [eq_append_of_filledRun? read]
  exact (List.suffix_cons q after).trans (List.suffix_append inside _)

theorem isSuffix_of_identifier? {text : Text} {name : Text × Text}
    (read : identifier? text = some name) : name.2 <:+ text := by
  unfold identifier? at read
  split at read
  · contradiction
  · rename_i c behind
    split at read
    · obtain ⟨run, filled, rfl⟩ := Option.map_eq_some_iff.1 read
      exact (isSuffix_of_filledRun? filled).trans (List.suffix_cons c behind)
    · split at read
      · cases read
        exact (List.dropWhile_suffix _).trans (List.suffix_cons c behind)
      · contradiction

theorem isSuffix_of_qualification? {text : Text} {name : Text × Text}
    (read : qualification? text = some name) : name.2 <:+ text := by
  unfold qualification? at read
  split at read
  · contradiction
  · rename_i c behind skipped
    split at read
    · obtain ⟨second, named, rfl⟩ := Option.map_eq_some_iff.1 read
      exact (isSuffix_of_identifier? named).trans
        ((skipBlanks_isSuffix behind).trans (isSuffix_of_skipBlanks skipped))
    · contradiction

theorem isSuffix_of_tableName? {text : Text} {name : Text × Text}
    (read : tableName? text = some name) : name.2 <:+ text := by
  obtain ⟨first, named, rfl⟩ := Option.map_eq_some_iff.1 read
  have behind := (isSuffix_of_identifier? named).trans (skipBlanks_isSuffix text)
  split
  · rename_i qualified
    exact (isSuffix_of_qualification? qualified).trans behind
  · exact behind

theorem isSuffix_of_column? {text : Text} {column : ColumnToken}
    (read : column? text = some column) : column.rest <:+ text := by
  unfold column? at read
  split at read
  · contradiction
  · rename_i named
    have behind := (isSuffix_of_identifier? named).trans (skipBlanks_isSuffix text)
    split at read
    · contradiction
    · rename_i skipped
      have rest := (isSuffix_of_skipBlanks skipped).trans behind
      split at read
      · cases read
        exact rest
      · split at read
        · cases read
          exact rest
        · contradiction

/-! ## Options of COPY -/

theorem skipWord_isSuffix (word text : Text) : skipWord word text <:+ text := by
  unfold skipWord
  split
  · rename_i rest letters
    split
    · exact (skipBlanks_isSuffix rest).trans (isSuffix_of_letters? letters)
    · exact List.suffix_rfl
  · exact List.suffix_rfl

/-- A mark and the blanks behind it are passed over, if the mark is there. -/
theorem mark?_elim_isSuffix (c : Char) (text : Text) :
    (mark? c text).elim text skipBlanks <:+ text := by
  cases read : mark? c text with
  | none => exact List.suffix_rfl
  | some rest => exact (skipBlanks_isSuffix rest).trans (isSuffix_of_mark? read)

/-- A mark is passed over, if it is there, and the blanks in front of it in any case. -/
theorem mark?_getD_isSuffix (c : Char) (text : Text) :
    (mark? c text).getD text.skipBlanks <:+ text := by
  cases read : mark? c text with
  | none => exact skipBlanks_isSuffix text
  | some rest => exact isSuffix_of_mark? read

theorem isSuffix_of_delimiterOption? {text : Text} {option : Text × Text}
    (read : delimiterOption? text = some option) : option.2 <:+ text := by
  unfold delimiterOption? at read
  have first := (skipWord_isSuffix ['W', 'I', 'T', 'H'] _).trans (skipBlanks_isSuffix text)
  have opened := (mark?_elim_isSuffix '(' _).trans first
  simp only at read
  split at read
  · contradiction
  · rename_i rest letters
    have word := (isSuffix_of_letters? letters).trans opened
    split at read
    · have second := (skipWord_isSuffix ['A', 'S'] _).trans ((skipBlanks_isSuffix rest).trans word)
      split at read
      · contradiction
      · rename_i c behind quoted
        rw [quoted] at second
        split at read
        · obtain ⟨run, filled, rfl⟩ := Option.map_eq_some_iff.1 read
          exact (mark?_getD_isSuffix ')' run.2).trans ((isSuffix_of_filledRun? filled).trans
            ((List.suffix_cons c behind).trans second))
        · contradiction
    · contradiction

/-! ## Between the statements -/

theorem isSuffix_of_skipToken? {text rest : Text} (read : skipToken? text = some rest) :
    rest <:+ text := by
  unfold skipToken? at read
  split at read
  · contradiction
  · rename_i c behind skipped
    have first := isSuffix_of_skipBlanks skipped
    split at read
    · cases read
      cases run : quotedRun? c behind with
      | none => exact first
      | some run' => exact (isSuffix_of_quotedRun? run).trans first
    · cases read
      exact (List.dropWhile_suffix _).trans first

/-! ## Values -/

theorem skipCast_isSuffix (text : Text) : skipCast text <:+ text := by
  unfold skipCast
  split
  · rename_i colons skipped
    have behind := (List.suffix_cons ':' _).trans (isSuffix_of_skipBlanks skipped)
    split
    · exact List.suffix_rfl
    · rename_i c rest named
      have name := (List.dropWhile_suffix continuesType (l := rest)).trans
        ((isSuffix_of_skipBlanks named).trans behind)
      split
      · split
        · rename_i brackets
          rw [brackets] at name
          exact ((List.suffix_cons ']' _).trans (List.suffix_cons '[' _)).trans name
        · exact name
      · exact List.suffix_rfl
  · exact List.suffix_rfl

theorem isSuffix_of_ending? {place : CommentPlace} {text : Text} {last : Bool × Text}
    (read : ending? place text = some last) : last.2 <:+ text := by
  induction text generalizing place with
  | nil => contradiction
  | cons c rest ih =>
      have onward : ∀ {place}, ending? place rest = some last → last.2 <:+ c :: rest :=
        fun read => (ih read).trans (List.suffix_cons c rest)
      cases place with
      | outside =>
          rw [ending?] at read
          split at read
          · exact onward read
          · split at read
            · cases read
              exact List.suffix_cons c rest
            · split at read
              · cases read
                exact List.suffix_cons c rest
              · split at read
                · exact onward read
                · contradiction
      | opening => exact onward (by simpa only [ending?] using read)
      | closing => exact onward (by simpa only [ending?] using read)
      -- Inside a comment a closing marker either ends it or is read as a part of it.
      | _ =>
          simp only [ending?] at read
          split at read
          · split at read
            · rename_i closed
              exact onward (closed.trans read)
            · exact onward read
          · exact onward read

theorem isSuffix_of_longestBare? {text bare : Text} {last : Bool × Text}
    (read : longestBare? text = some (bare, last)) : last.2 <:+ text := by
  induction text generalizing bare with
  | nil => contradiction
  | cons c rest ih =>
      rw [longestBare?] at read
      split at read
      · contradiction
      · split at read
        · rename_i longer
          cases read
          exact (ih longer).trans (List.suffix_cons c rest)
        · split at read
          · contradiction
          · obtain ⟨last', ended, same⟩ := Option.map_eq_some_iff.1 read
            cases same
            exact (isSuffix_of_ending? ended).trans (List.suffix_cons c rest)

theorem isSuffix_of_bare? {c : Char} {rest bare : Text} {last : Bool × Text}
    (read : bare? c rest = some (bare, last)) : last.2 <:+ rest := by
  unfold bare? at read
  split at read
  · contradiction
  · split at read
    · rename_i longer
      cases read
      split at longer
      · contradiction
      · exact isSuffix_of_longestBare? longer
    · obtain ⟨last', ended, same⟩ := Option.map_eq_some_iff.1 read
      cases same
      exact isSuffix_of_ending? ended

theorem isSuffix_of_value? {text : Text} {token : ValueToken} (read : value? text = some token) :
    token.rest <:+ text := by
  unfold value? at read
  split at read
  · contradiction
  · rename_i c rest skipped
    have first := isSuffix_of_skipBlanks skipped
    split at read
    · obtain ⟨run, quoted, read⟩ := Option.bind_eq_some_iff.1 read
      obtain ⟨last, ended, rfl⟩ := Option.map_eq_some_iff.1 read
      exact (isSuffix_of_ending? ended).trans ((skipCast_isSuffix run.2).trans
        ((isSuffix_of_quotedRun? quoted).trans first))
    · obtain ⟨⟨bare, last⟩, bareRead, rfl⟩ := Option.map_eq_some_iff.1 read
      exact (isSuffix_of_bare? bareRead).trans first

end SeedCatalog.Sql
