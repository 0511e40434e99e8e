import SeedCatalog.Sql.Keyword
import SeedCatalog.Sql.Quote

/-!
# Tokens of INSERT and COPY statements

Each reader here looks for one token at the beginning of a text, blanks in front of it left aside,
and returns what the token says together with the text behind it.  Readers are greedy; none ever
has to give back a part of its longest reading for the token to end well, save that a quoted run
that never closes ends at its last doubled quote.

A token has at least one character, so that the text behind it is shorter.
-/

namespace SeedCatalog.Sql

/-! ## Marks and words -/

/-- Read one given character. -/
def mark? (c : Char) (text : Text) : Option Text :=
  match text.skipBlanks with
  | [] => none
  | d :: rest => if d = c then some rest else none

/-- Read the marker that opens a block comment. -/
def commentOpening? (text : Text) : Option Text :=
  match text.skipBlanks with
  | '/' :: '*' :: rest => some rest
  | _ => none

/-- The text behind the first marker that closes a block comment. -/
def afterComment? : Text → Option Text
  | [] => none
  | [_] => none
  | c :: d :: rest => if c = '*' ∧ d = '/' then some rest else afterComment? (d :: rest)

/-- Read INSERT. -/
def insert? (text : Text) : Option Text :=
  keyword? ['I', 'N', 'S', 'E', 'R', 'T'] text.skipBlanks

/-- Read INTO. -/
def into? (text : Text) : Option Text :=
  keyword? ['I', 'N', 'T', 'O'] text.skipBlanks

/-- Read VALUES. -/
def values? (text : Text) : Option Text :=
  keyword? ['V', 'A', 'L', 'U', 'E', 'S'] text.skipBlanks

/-- Read COPY, which a backslash may precede. -/
def copy? (text : Text) : Option Text :=
  match text.skipBlanks with
  | [] => none
  | c :: rest => keyword? ['C', 'O', 'P', 'Y'] (if c = '\\' then rest else c :: rest)

/-- Read FROM STDIN. -/
def fromStdin? (text : Text) : Option Text :=
  match letters? ['F', 'R', 'O', 'M'] text.skipBlanks with
  | some rest =>
      if rest.head?.any isBlank then keyword? ['S', 'T', 'D', 'I', 'N'] rest.skipBlanks else none
  | none => none

/-- Whether a text is the beginning of FROM STDIN and ends behind FROM. -/
def fromStdinMayFollow (text : Text) : Bool :=
  (letters? ['F', 'R', 'O', 'M'] text.skipBlanks).any Text.allBlank

/-! ## Names -/

/-- Whether a character may begin an unquoted identifier. -/
def beginsIdentifier (c : Char) : Bool :=
  c.isAlpha || c == '_'

/-- Whether a character may continue an unquoted identifier. -/
def continuesIdentifier (c : Char) : Bool :=
  isWord c || c == '$'

/-- Read an identifier as it is written, with its quotes. -/
def identifier? : Text → Option (Text × Text)
  | [] => none
  | c :: rest =>
      if c = '"' then (filledRun? '"' rest).map fun run => ('"' :: run.1 ++ ['"'], run.2)
      else if beginsIdentifier c then
        some (c :: rest.takeWhile continuesIdentifier, rest.dropWhile continuesIdentifier)
      else none

/-- Read a dot and the identifier behind it, as they are written. -/
def qualification? (text : Text) : Option (Text × Text) :=
  match text.skipBlanks with
  | [] => none
  | c :: rest =>
      if c = '.' then
        (identifier? (Text.skipBlanks rest)).map fun name =>
          (text.takeWhile isBlank ++ '.' :: rest.takeWhile isBlank ++ name.1, name.2)
      else none

/-- Read the name of a table as it is written: one identifier, or two with a dot between them. -/
def tableName? (text : Text) : Option (Text × Text) :=
  (identifier? text.skipBlanks).map fun name =>
    match qualification? name.2 with
    | some second => (name.1 ++ second.1, second.2)
    | none => name

/-- A column of a column list, as it is written. -/
structure ColumnToken where
  name : Text
  /-- Whether the closing parenthesis follows, and not a comma. -/
  isLast : Bool
  rest : Text

/-- Read a column and the comma or the parenthesis behind it. -/
def column? (text : Text) : Option ColumnToken :=
  match identifier? text.skipBlanks with
  | none => none
  | some (name, rest) =>
      match rest.skipBlanks with
      | [] => none
      | c :: rest =>
          if c = ',' then some ⟨name, false, rest⟩
          else if c = ')' then some ⟨name, true, rest⟩
          else none

/-- Whether a text is the beginning of a column that the next line may complete. -/
def columnMayFollow (text : Text) : Bool :=
  (match text.skipBlanks with
    | [] => false
    | c :: rest => c = '"' && runIsOpen '"' rest) ||
  (identifier? text.skipBlanks).any fun name => name.2.allBlank

/-! ## Options of COPY -/

/-- Read a DELIMITER option and return its delimiter, doubled quotes read as one. -/
def delimiterOption? (text : Text) : Option (Text × Text) :=
  let text := skipWord ['W', 'I', 'T', 'H'] text.skipBlanks
  let text := (mark? '(' text).elim text Text.skipBlanks
  match letters? ['D', 'E', 'L', 'I', 'M', 'I', 'T', 'E', 'R'] text with
  | none => none
  | some rest =>
      if rest.head?.any isBlank then
        match skipWord ['A', 'S'] rest.skipBlanks with
        | [] => none
        | c :: rest =>
            if c = '\'' then
              (filledRun? '\'' rest).map fun run =>
                (Text.undouble '\'' run.1, (mark? ')' run.2).getD run.2.skipBlanks)
            else none
      else none

/-- Whether nothing but one semicolon is left. -/
def statementIsOver (text : Text) : Bool :=
  ((mark? ';' text).getD text).allBlank

/-! ## Between the statements -/

/-- Whether a character belongs to what is skipped at once between two statements. -/
def isSkippedAtOnce (c : Char) : Bool :=
  !(isBlank c || c == '\'' || c == '"' || c == ';' || c == '/')

/-- Skip a quoted run, a word or a single character. -/
def skipToken? (text : Text) : Option Text :=
  match text.skipBlanks with
  | [] => none
  | c :: rest =>
      if c = '\'' ∨ c = '"' then some ((quotedRun? c rest).elim rest Prod.snd)
      else some (rest.dropWhile fun d => isSkippedAtOnce c && isSkippedAtOnce d)

/-! ## The text behind a token is shorter -/

theorem length_of_skipBlanks_eq_cons {text rest : Text} {c : Char}
    (h : text.skipBlanks = c :: rest) : rest.length < text.length := by
  have := Text.length_skipBlanks_le text
  rw [h, List.length_cons] at this
  omega

theorem length_of_mark? {c : Char} {text rest : Text} (h : mark? c text = some rest) :
    rest.length < text.length := by
  unfold mark? at h
  split at h
  · simp at h
  · rename_i hs
    split at h
    · simp only [Option.some.injEq] at h
      exact h ▸ length_of_skipBlanks_eq_cons hs
    · simp at h

theorem length_of_commentOpening? {text rest : Text} (h : commentOpening? text = some rest) :
    rest.length < text.length := by
  unfold commentOpening? at h
  split at h
  · rename_i hs
    simp only [Option.some.injEq] at h
    subst h
    have := length_of_skipBlanks_eq_cons hs
    rw [List.length_cons] at this
    omega
  · simp at h

theorem length_of_afterComment? :
    ∀ {text rest : Text}, afterComment? text = some rest → rest.length < text.length
  | [], _, h => by simp [afterComment?] at h
  | [_], _, h => by simp [afterComment?] at h
  | c :: d :: text, rest, h => by
      rw [afterComment?] at h
      split at h
      · simp only [Option.some.injEq] at h
        simp only [← h, List.length_cons]
        omega
      · have := length_of_afterComment? h
        simp only [List.length_cons] at this ⊢
        omega

theorem length_of_skipped_keyword? {word text rest : Text} (hw : word ≠ [])
    (h : keyword? word text.skipBlanks = some rest) : rest.length < text.length := by
  have h₁ := length_of_keyword? h
  have h₂ := Text.length_skipBlanks_le text
  have h₃ : 0 < word.length := List.length_pos_iff.2 hw
  omega

theorem length_of_insert? {text rest : Text} (h : insert? text = some rest) :
    rest.length < text.length :=
  length_of_skipped_keyword? (by simp) h

theorem length_of_into? {text rest : Text} (h : into? text = some rest) :
    rest.length < text.length :=
  length_of_skipped_keyword? (by simp) h

theorem length_of_values? {text rest : Text} (h : values? text = some rest) :
    rest.length < text.length :=
  length_of_skipped_keyword? (by simp) h

theorem length_of_copy? {text rest : Text} (h : copy? text = some rest) :
    rest.length < text.length := by
  unfold copy? at h
  split at h
  · simp at h
  · rename_i c t hs
    have h₁ := length_of_keyword? h
    have h₂ := length_of_skipBlanks_eq_cons hs
    simp only [List.length_cons, List.length_nil] at h₁
    split at h₁
    · omega
    · rw [List.length_cons] at h₁
      omega

theorem length_of_fromStdin? {text rest : Text} (h : fromStdin? text = some rest) :
    rest.length < text.length := by
  unfold fromStdin? at h
  split at h
  · rename_i hl
    split at h
    · have h₁ := length_of_letters? hl
      have h₂ := length_of_skipped_keyword? (by simp) h
      have h₃ := Text.length_skipBlanks_le text
      omega
    · simp at h
  · simp at h

theorem length_of_filledRun? {q : Char} {text : Text} {run : Text × Text}
    (h : filledRun? q text = some run) : run.2.length < text.length := by
  obtain ⟨inside, after⟩ := run
  rw [eq_append_of_filledRun? h]
  simp only [List.length_append, List.length_cons]
  omega

theorem length_of_identifier? {text : Text} {name : Text × Text}
    (h : identifier? text = some name) : name.2.length < text.length := by
  unfold identifier? at h
  split at h
  · simp at h
  · rename_i c rest
    split at h
    · obtain ⟨run, hrun, rfl⟩ := Option.map_eq_some_iff.1 h
      have := length_of_filledRun? hrun
      simp only [List.length_cons]
      omega
    · split at h
      · simp only [Option.some.injEq] at h
        have := Text.length_dropWhile_le continuesIdentifier rest
        simp only [← h, List.length_cons]
        omega
      · simp at h

theorem length_of_qualification? {text : Text} {name : Text × Text}
    (h : qualification? text = some name) : name.2.length < text.length := by
  unfold qualification? at h
  split at h
  · simp at h
  · rename_i c rest hs
    split at h
    · obtain ⟨second, hsecond, rfl⟩ := Option.map_eq_some_iff.1 h
      have h₁ := length_of_identifier? hsecond
      have h₂ := Text.length_skipBlanks_le rest
      have h₃ := length_of_skipBlanks_eq_cons hs
      simp only
      omega
    · simp at h

theorem length_of_tableName? {text : Text} {name : Text × Text}
    (h : tableName? text = some name) : name.2.length < text.length := by
  obtain ⟨first, hfirst, rfl⟩ := Option.map_eq_some_iff.1 h
  have h₁ := length_of_identifier? hfirst
  have h₂ := Text.length_skipBlanks_le text
  split
  · rename_i hsecond
    have h₃ := length_of_qualification? hsecond
    simp only
    omega
  · omega

theorem length_of_column? {text : Text} {column : ColumnToken} (h : column? text = some column) :
    column.rest.length < text.length := by
  unfold column? at h
  split at h
  · simp at h
  · rename_i hname
    have h₁ := length_of_identifier? hname
    have h₂ := Text.length_skipBlanks_le text
    split at h
    · simp at h
    · rename_i hs
      have h₃ := length_of_skipBlanks_eq_cons hs
      simp only at h₁
      split at h
      · simp only [Option.some.injEq] at h
        simp only [← h]
        omega
      · split at h
        · simp only [Option.some.injEq] at h
          simp only [← h]
          omega
        · simp at h

theorem length_skipWord_le (word text : Text) : (skipWord word text).length ≤ text.length := by
  unfold skipWord
  split
  · rename_i rest hl
    split
    · have h₁ := length_of_letters? hl
      have h₂ := Text.length_skipBlanks_le rest
      omega
    · exact Nat.le_refl _
  · exact Nat.le_refl _

theorem length_of_delimiterOption? {text : Text} {option : Text × Text}
    (h : delimiterOption? text = some option) : option.2.length < text.length := by
  unfold delimiterOption? at h
  have h₁ := Text.length_skipBlanks_le text
  have h₂ := length_skipWord_le ['W', 'I', 'T', 'H'] text.skipBlanks
  generalize skipWord ['W', 'I', 'T', 'H'] text.skipBlanks = text₁ at h h₂
  have h₃ : ((mark? '(' text₁).elim text₁ Text.skipBlanks).length ≤ text₁.length := by
    cases hm : mark? '(' text₁ with
    | none => exact Nat.le_refl _
    | some rest =>
      have := length_of_mark? hm
      have := Text.length_skipBlanks_le rest
      simp only [Option.elim_some]
      omega
  simp only at h
  generalize (mark? '(' text₁).elim text₁ Text.skipBlanks = text₂ at h h₃
  split at h
  · simp at h
  · rename_i rest hl
    have h₄ := length_of_letters? hl
    split at h
    · have h₅ := length_skipWord_le ['A', 'S'] rest.skipBlanks
      have h₆ := Text.length_skipBlanks_le rest
      split at h
      · simp at h
      · rename_i c rest' hs
        rw [hs, List.length_cons] at h₅
        split at h
        · obtain ⟨run, hrun, rfl⟩ := Option.map_eq_some_iff.1 h
          have h₇ := length_of_filledRun? hrun
          cases hm : mark? ')' run.2 with
          | none =>
            have := Text.length_skipBlanks_le run.2
            simp only [Option.getD_none]
            omega
          | some after =>
            have := length_of_mark? hm
            simp only [Option.getD_some]
            omega
        · simp at h
    · simp at h

theorem length_of_skipToken? {text rest : Text} (h : skipToken? text = some rest) :
    rest.length < text.length := by
  unfold skipToken? at h
  split at h
  · simp at h
  · rename_i c t hs
    have h₁ := length_of_skipBlanks_eq_cons hs
    split at h
    · simp only [Option.some.injEq] at h
      subst h
      cases hrun : quotedRun? c t with
      | none => simpa using h₁
      | some run =>
        obtain ⟨inside, after⟩ := run
        have := congrArg List.length (eq_append_of_quotedRun? hrun)
        simp only [List.length_append, List.length_cons] at this
        simp only [Option.elim_some]
        omega
    · simp only [Option.some.injEq] at h
      subst h
      have := Text.length_dropWhile_le (fun d => isSkippedAtOnce c && isSkippedAtOnce d) t
      omega

end SeedCatalog.Sql
