import SeedCatalog.Proofs.Sql.ValuePrefix

/-!
# One more line feed at the end of a text

A line feed that is put behind a text is read by no column, no FROM STDIN and no
value of the text: each is read as before, with the line feed at the end of what
is left.  So a text that waits for its next line waits again when the next line
is empty.
-/

namespace SeedCatalog.Sql

open Text

/-! ## Blanks and words -/

/-- The first character of the text is another than the line feed that is put behind it. -/
theorem head?_append_feed {c : Char} (noFeed : c ≠ '\n') (text : Text) :
    (text ++ ['\n']).head? = some c ↔ text.head? = some c := by
  cases text <;> simp [noFeed.symm]

theorem allBlank_append_feed (text : Text) : (text ++ ['\n']).allBlank = text.allBlank := by
  simp [allBlank, isBlank]

theorem skipBlanks_append_feed_of_blank {text : Text} (blank : text.allBlank = true) :
    skipBlanks (text ++ ['\n']) = [] := by
  rw [skipBlanks_eq_nil_iff, allBlank_append_feed, blank]

/-- A reader that begins behind blanks reads alike if it does so behind none. -/
theorem skipBlanks_cases (text : Text) :
    text.skipBlanks = [] ∧ skipBlanks (text ++ ['\n']) = [] ∨
      ∃ c rest, text.skipBlanks = c :: rest ∧
        skipBlanks (text ++ ['\n']) = c :: (rest ++ ['\n']) := by
  cases skipped : text.skipBlanks with
  | nil => exact .inl ⟨rfl, skipBlanks_append_feed_of_blank (skipBlanks_eq_nil_iff.1 skipped)⟩
  | cons c rest =>
      have filled : text.allBlank = false := by
        rw [← Bool.not_eq_true, ← skipBlanks_eq_nil_iff, skipped]
        simp
      exact .inr ⟨c, rest, rfl, by rw [skipBlanks_append_of_filled filled, skipped]; rfl⟩

/-- A class without the line feed ends where it ended. -/
theorem dropWhile_append_feed {p : Char → Bool} (noFeed : p '\n' = false) (text : Text) :
    (text ++ ['\n']).dropWhile p = text.dropWhile p ++ ['\n'] := by
  rw [List.dropWhile_append]
  split
  · rename_i all
    rw [List.isEmpty_iff] at all
    rw [all, List.dropWhile_cons_of_neg (by simp [noFeed]), List.nil_append]
  · rfl

theorem takeWhile_append_feed {p : Char → Bool} (noFeed : p '\n' = false) (text : Text) :
    (text ++ ['\n']).takeWhile p = text.takeWhile p := by
  induction text with
  | nil => simp [noFeed]
  | cons c text ih => simp [List.takeWhile_cons, ih]

theorem isFormOf_feed {letter : Char} (capital : letter.isUpper = true) :
    isFormOf letter '\n' = false := by
  by_contra form
  have word := isWord_of_isFormOf capital (eq_true_of_ne_false form)
  rw [not_isWord_of_isBlank (by decide)] at word
  contradiction

theorem letters?_append_feed {word : Text} (capitals : word.all Char.isUpper = true)
    (text : Text) : letters? word (text ++ ['\n']) = (letters? word text).map (· ++ ['\n']) := by
  induction word generalizing text with
  | nil => rfl
  | cons letter word ih =>
      rw [List.all_cons, Bool.and_eq_true] at capitals
      cases text with
      | nil => simp [letters?, isFormOf_feed capitals.1]
      | cons c text =>
          rw [List.cons_append, letters?, letters?, ih capitals.2]
          split <;> rfl

theorem keyword?_append_feed {word : Text} (capitals : word.all Char.isUpper = true)
    (text : Text) :
    keyword? word (text ++ ['\n']) = (keyword? word text).map (· ++ ['\n']) := by
  rw [keyword?, keyword?, letters?_append_feed capitals]
  cases letters? word text with
  | none => rfl
  | some rest =>
      have begins : beginsWithWord (rest ++ ['\n']) = beginsWithWord rest := by
        cases rest with
        | nil => decide +kernel
        | cons c rest => rfl
      simp only [Option.map_some, begins]
      split <;> rfl

theorem commentOpening?_append_feed (text : Text) :
    commentOpening? (text ++ ['\n']) = (commentOpening? text).map (· ++ ['\n']) := by
  rcases skipBlanks_cases text with ⟨skipped, skipped'⟩ | ⟨c, rest, skipped, skipped'⟩
  · rw [commentOpening?, commentOpening?, skipped, skipped']
    rfl
  · rw [commentOpening?, commentOpening?, skipped, skipped']
    cases rest with
    | nil => by_cases slash : c = '/' <;> simp [slash]
    | cons d rest => by_cases marker : c = '/' ∧ d = '*' <;> simp_all

theorem mark?_append_feed {c : Char} (text : Text) :
    mark? c (text ++ ['\n']) = (mark? c text).map (· ++ ['\n']) := by
  rcases skipBlanks_cases text with ⟨skipped, skipped'⟩ | ⟨d, rest, skipped, skipped'⟩
  · rw [mark?, mark?, skipped, skipped']
    rfl
  · simp only [mark?, skipped, skipped']
    split <;> rfl

/-! ## Quoted runs -/

theorem quotedRun?_append_feed {q : Char} (noFeed : q ≠ '\n') :
    ∀ text : Text, quotedRun? q (text ++ ['\n']) =
      (quotedRun? q text).map fun run => (run.1, run.2 ++ ['\n'])
  | [] => by simp [quotedRun?, noFeed.symm]
  | [c] => by
      by_cases quote : c = q
      · simp [quotedRun?, quote, noFeed.symm]
      · simp [quotedRun?, quote, noFeed.symm]
  | c :: d :: rest => by
      have further := quotedRun?_append_feed noFeed rest
      have further' := quotedRun?_append_feed noFeed (d :: rest)
      rw [List.cons_append] at further'
      rw [List.cons_append, List.cons_append, quotedRun?, quotedRun?, further, further']
      by_cases quote : c = q
      · by_cases pair : d = q
        · cases quotedRun? q rest <;> simp [quote, pair]
        · simp [quote, pair]
      · simp [quote, Function.comp_def]

theorem runIsOpen_append_feed {q : Char} (noFeed : q ≠ '\n') :
    ∀ text : Text, runIsOpen q (text ++ ['\n']) = runIsOpen q text
  | [] => by simp [runIsOpen, noFeed.symm]
  | [c] => by
      by_cases quote : c = q
      · simp [runIsOpen, quote, noFeed.symm]
      · simp [runIsOpen, quote, noFeed.symm, bne]
  | c :: d :: rest => by
      have further := runIsOpen_append_feed noFeed rest
      have further' := runIsOpen_append_feed noFeed (d :: rest)
      rw [List.cons_append] at further'
      rw [List.cons_append, List.cons_append, runIsOpen, runIsOpen, further, further']

theorem filledRun?_append_feed {q : Char} (noFeed : q ≠ '\n') (text : Text) :
    filledRun? q (text ++ ['\n']) =
      (filledRun? q text).map fun run => (run.1, run.2 ++ ['\n']) := by
  rw [filledRun?, filledRun?, quotedRun?_append_feed noFeed]
  cases quotedRun? q text with
  | none => rfl
  | some run => obtain ⟨inside, after⟩ := run; cases inside <;> rfl

/-! ## Columns and FROM STDIN -/

theorem identifier?_append_feed (text : Text) :
    identifier? (text ++ ['\n']) =
      (identifier? text).map fun name => (name.1, name.2 ++ ['\n']) := by
  cases text with
  | nil => decide +kernel
  | cons c rest =>
      rw [List.cons_append, identifier?, identifier?, filledRun?_append_feed (by decide),
        takeWhile_append_feed (by decide +kernel), dropWhile_append_feed (by decide +kernel)]
      by_cases quote : c = '"'
      · simp [quote, Function.comp_def]
      · by_cases begins : beginsIdentifier c = true <;> simp [quote, begins]

theorem column?_append_feed (text : Text) :
    column? (text ++ ['\n']) =
      (column? text).map fun column => { column with rest := column.rest ++ ['\n'] } := by
  rcases skipBlanks_cases text with ⟨skipped, skipped'⟩ | ⟨c, rest, skipped, skipped'⟩
  · rw [column?, column?, skipped, skipped']
    rfl
  · rw [column?, column?, skipped, skipped', ← List.cons_append, identifier?_append_feed]
    cases identifier? (c :: rest) with
    | none => rfl
    | some name =>
        rcases skipBlanks_cases name.2 with ⟨behind, behind'⟩ | ⟨d, behind, ends, ends'⟩
        · simp only [Option.map_some, behind, behind']
          rfl
        · simp only [Option.map_some, ends, ends']
          split
          · rfl
          · split <;> rfl

theorem columnMayFollow_append_feed (text : Text) :
    columnMayFollow (text ++ ['\n']) = columnMayFollow text := by
  rcases skipBlanks_cases text with ⟨skipped, skipped'⟩ | ⟨c, rest, skipped, skipped'⟩
  · rw [columnMayFollow, columnMayFollow, skipped, skipped']
  · have name := identifier?_append_feed (c :: rest)
    rw [List.cons_append] at name
    rw [columnMayFollow, columnMayFollow, skipped, skipped', name, Option.any_map]
    simp only [runIsOpen_append_feed (show '"' ≠ '\n' by decide), allBlank_append_feed]

theorem skippedLetters?_append_feed {word : Text} (filled : word ≠ [])
    (capitals : word.all Char.isUpper = true) (text : Text) :
    letters? word (skipBlanks (text ++ ['\n'])) =
      (letters? word text.skipBlanks).map (· ++ ['\n']) := by
  rcases skipBlanks_cases text with ⟨skipped, skipped'⟩ | ⟨c, rest, skipped, skipped'⟩
  · obtain ⟨letter, others, rfl⟩ := List.exists_cons_of_ne_nil filled
    rw [skipped, skipped']
    rfl
  · rw [skipped, skipped', ← List.cons_append, letters?_append_feed capitals]

theorem fromStdin?_append_feed (text : Text) :
    fromStdin? (text ++ ['\n']) = (fromStdin? text).map (· ++ ['\n']) := by
  rw [fromStdin?, fromStdin?, skippedLetters?_append_feed (by simp) rfl]
  cases letters? ['F', 'R', 'O', 'M'] text.skipBlanks with
  | none => rfl
  | some rest =>
      cases rest with
      | nil => decide +kernel
      | cons c rest =>
          have word : keyword? ['S', 'T', 'D', 'I', 'N'] (skipBlanks (c :: rest ++ ['\n'])) =
              (keyword? ['S', 'T', 'D', 'I', 'N'] (skipBlanks (c :: rest))).map
                (· ++ ['\n']) := by
            rcases skipBlanks_cases (c :: rest) with
              ⟨skipped, skipped'⟩ | ⟨d, more, skipped, skipped'⟩
            · rw [skipped, skipped']
              rfl
            · rw [skipped, skipped', ← List.cons_append, keyword?_append_feed rfl]
          simp only [Option.map_some, word]
          by_cases blank : isBlank c = true <;> simp [blank]

theorem fromStdinMayFollow_append_feed (text : Text) :
    fromStdinMayFollow (text ++ ['\n']) = fromStdinMayFollow text := by
  rw [fromStdinMayFollow, fromStdinMayFollow, skippedLetters?_append_feed (by simp) rfl,
    Option.any_map]
  exact congrArg (Option.any · _) (funext allBlank_append_feed)

/-! ## Values -/

theorem opensComment_append_feed (c : Char) (rest : Text) :
    opensComment c (rest ++ ['\n']) = opensComment c rest := by
  simp only [opensComment, head?_append_feed (show '*' ≠ '\n' by decide)]

theorem beginsComment_append_feed (text : Text) :
    beginsComment (text ++ ['\n']) = beginsComment text := by
  cases text with
  | nil => rfl
  | cons c rest => exact opensComment_append_feed c rest

theorem skipBrackets_append_feed (text : Text) :
    skipBrackets (text ++ ['\n']) = skipBrackets text ++ ['\n'] := by
  match text with
  | [] => rfl
  | [c] =>
      rw [skipBrackets_eq (by simp), skipBrackets_eq]
      simp
  | c :: d :: rest =>
      by_cases brackets : c = '[' ∧ d = ']'
      · obtain ⟨rfl, rfl⟩ := brackets
        rfl
      · rw [skipBrackets_eq, skipBrackets_eq] <;> simp_all

theorem skipCast_append_feed (text : Text) :
    skipCast (text ++ ['\n']) = skipCast text ++ ['\n'] := by
  by_cases colons : ∃ rest, skipBlanks text = ':' :: ':' :: rest
  · obtain ⟨rest, colons⟩ := colons
    have colons' : skipBlanks (text ++ ['\n']) = ':' :: ':' :: (rest ++ ['\n']) := by
      rcases skipBlanks_cases text with ⟨skipped, -⟩ | ⟨c, more, skipped, skipped'⟩
      · simp [skipped] at colons
      · rw [skipped, List.cons.injEq] at colons
        rw [skipped', colons.1, colons.2, List.cons_append]
    rcases skipBlanks_cases rest with ⟨skipped, skipped'⟩ | ⟨c, name, skipped, skipped'⟩
    · simp [skipCast, colons, colons', skipped, skipped']
    · cases begins : beginsIdentifier c with
      | false =>
          rw [skipCast_eq_of_noName colons skipped begins,
            skipCast_eq_of_noName colons' skipped' begins]
      | true =>
          rw [skipCast_eq_of_name colons skipped begins,
            skipCast_eq_of_name colons' skipped' begins,
            dropWhile_append_feed (by decide +kernel), skipBrackets_append_feed]
  · rw [skipCast_eq_of_noColons fun rest same => colons ⟨rest, same⟩, skipCast_eq_of_noColons]
    intro rest same
    rcases skipBlanks_cases text with ⟨-, skipped'⟩ | ⟨c, more, skipped, skipped'⟩
    · simp [skipped'] at same
    · rw [skipped', List.cons.injEq] at same
      cases more with
      | nil => simp at same
      | cons d more =>
          rw [List.cons_append, List.cons.injEq] at same
          exact colons ⟨more, by rw [skipped, same.1, same.2.1]⟩

theorem ending?_append_feed (place : CommentPlace) (text : Text) :
    ending? place (text ++ ['\n']) =
      (ending? place text).map fun last => (last.1, last.2 ++ ['\n']) := by
  induction text generalizing place with
  | nil => cases place <;> rfl
  | cons c rest ih =>
      have slash := head?_append_feed (show '/' ≠ '\n' by decide) rest
      rw [List.cons_append]
      cases place with
      | outside =>
          rw [ending?, ending?, opensComment_append_feed, ih, ih]
          split
          · rfl
          · split
            · rfl
            · split
              · rfl
              · split <;> rfl
      | opening | closing => rw [ending?, ending?, ih]
      | unclosed | readOn =>
          rw [ending?, ending?]
          · simp only [slash, ih]
            split
            · cases ending? .closing rest <;> rfl
            · rfl
          all_goals simp

/-- A text does not end between the two characters of an opening marker. -/
theorem endsInComment_append_feed {place : CommentPlace} {text : Text}
    (going : place ≠ .opening ∨ text ≠ []) :
    endsInComment place (text ++ ['\n']) = endsInComment place text := by
  induction text generalizing place with
  | nil =>
      cases place with
      | opening => simp at going
      | outside | unclosed | readOn | closing => decide +kernel
  | cons c rest ih =>
      have slash := head?_append_feed (show '/' ≠ '\n' by decide) rest
      have outside := @ih .outside (.inl (by decide))
      have unclosed := @ih .unclosed (.inl (by decide))
      have readOn := @ih .readOn (.inl (by decide))
      have closing := @ih .closing (.inl (by decide))
      rw [List.cons_append]
      cases place with
      | outside =>
          rw [endsInComment, endsInComment, opensComment_append_feed, outside]
          split
          · rfl
          · cases opens : opensComment c rest with
            | false => rfl
            | true =>
                rw [ih (.inr ?_)]
                rintro rfl
                simp [opensComment] at opens
      | opening => simpa only [endsInComment] using unclosed
      | closing => simpa only [endsInComment] using outside
      | unclosed | readOn =>
          rw [endsInComment, endsInComment]
          · simp only [slash, unclosed, readOn, closing]
          all_goals simp

theorem endsInComment_outside_append_feed (text : Text) :
    endsInComment .outside (text ++ ['\n']) = endsInComment .outside text :=
  endsInComment_append_feed (.inl (by decide))

theorem longestBare?_append_feed (text : Text) :
    longestBare? (text ++ ['\n']) =
      (longestBare? text).map fun run => (run.1, run.2.1, run.2.2 ++ ['\n']) := by
  induction text with
  | nil => decide +kernel
  | cons c rest ih =>
      rw [List.cons_append, longestBare?, longestBare?, ih, opensComment_append_feed,
        ending?_append_feed]
      split
      · rfl
      · cases longestBare? rest with
        | some run => rfl
        | none =>
            simp only [Option.map_none]
            split
            · rfl
            · simp [Function.comp_def]

theorem bare?_append_feed (c : Char) (rest : Text) :
    bare? c (rest ++ ['\n']) =
      (bare? c rest).map fun run => (run.1, run.2.1, run.2.2 ++ ['\n']) := by
  rw [bare?, bare?, opensComment_append_feed, beginsComment_append_feed, longestBare?_append_feed,
    ending?_append_feed]
  split
  · rfl
  · cases beginsComment rest with
    | true => simp [Function.comp_def]
    | false => cases longestBare? rest <;> simp [Function.comp_def]

theorem value?_append_feed (text : Text) :
    value? (text ++ ['\n']) =
      (value? text).map fun token => { token with rest := token.rest ++ ['\n'] } := by
  rcases skipBlanks_cases text with ⟨skipped, skipped'⟩ | ⟨c, rest, skipped, skipped'⟩
  · rw [value?, value?, skipped, skipped']
    rfl
  · rw [value?, value?, skipped, skipped']
    simp only [quotedRun?_append_feed (show '\'' ≠ '\n' by decide), bare?_append_feed]
    split
    · cases quotedRun? '\'' rest with
      | none => rfl
      | some run => simp [skipCast_append_feed, ending?_append_feed, Function.comp_def]
    · simp [Function.comp_def]

theorem longestBareEndsInComment_append_feed (text : Text) :
    longestBareEndsInComment (text ++ ['\n']) = longestBareEndsInComment text := by
  induction text with
  | nil => decide +kernel
  | cons c rest ih =>
      rw [List.cons_append, longestBareEndsInComment, longestBareEndsInComment, ih,
        opensComment_append_feed, endsInComment_outside_append_feed]

theorem valueMayFollow_append_feed (text : Text) :
    valueMayFollow (text ++ ['\n']) = valueMayFollow text := by
  rcases skipBlanks_cases text with ⟨skipped, skipped'⟩ | ⟨c, rest, skipped, skipped'⟩
  · rw [valueMayFollow, valueMayFollow, skipped, skipped']
  · rw [valueMayFollow, valueMayFollow, skipped, skipped']
    simp only [quotedRun?_append_feed (show '\'' ≠ '\n' by decide),
      runIsOpen_append_feed (show '\'' ≠ '\n' by decide), bareEndsInComment,
      opensComment_append_feed, beginsComment_append_feed, longestBareEndsInComment_append_feed,
      endsInComment_outside_append_feed, Option.any_map]
    split
    · simp only [skipCast_append_feed, allBlank_append_feed, endsInComment_outside_append_feed]
    · simp [endsBare]

end SeedCatalog.Sql
