import SeedCatalog.Proofs.Sql.ValuePrefix

/-!
# Columns and FROM STDIN that a line end cuts

A column is an identifier with blanks around it and a comma or a closing
parenthesis behind it, and FROM STDIN is two words with blanks between them.
The readers of both find exactly these forms.  A text that ends with a line feed
and does not hold such a form is recognized as the beginning of one exactly when
some text behind it completes it.
-/

namespace SeedCatalog.Sql

open Text

/-! ## Identifiers -/

/-- An identifier as it is written: a name, or a text in double quotes with its own quotes
doubled. -/
inductive IsIdentifier : Text → Prop
  | name (name : UnquotedName) : IsIdentifier name.text
  | quoted {inside : Text} (filled : inside ≠ []) :
      IsIdentifier ('"' :: double '"' inside ++ ['"'])

/-- A run that is open to the end of the text has its own quotes doubled. -/
theorem exists_double_of_runIsOpen {q : Char} :
    ∀ {text : Text}, runIsOpen q text = true → ∃ plain, text = double q plain
  | [], _ => ⟨[], rfl⟩
  | [c], isOpen => by
      have other : c ≠ q := by simpa [runIsOpen] using isOpen
      exact ⟨[c], by simp [double, other]⟩
  | c :: d :: rest, isOpen => by
      by_cases quote : c = q
      · rw [runIsOpen, if_pos quote, Bool.and_eq_true, decide_eq_true_eq] at isOpen
        rcases isOpen with ⟨rfl, isOpen⟩
        rcases exists_double_of_runIsOpen isOpen with ⟨plain, rfl⟩
        exact ⟨d :: plain, by simp [double, quote]⟩
      · rw [runIsOpen_cons quote] at isOpen
        rcases exists_double_of_runIsOpen isOpen with ⟨plain, same⟩
        exact ⟨c :: plain, by simp [double, quote, same]⟩

/-- What is read as an identifier is one. -/
theorem isIdentifier_of_identifier? {text name rest : Text}
    (read : identifier? text = some (name, rest)) : IsIdentifier name ∧ text = name ++ rest := by
  cases text with
  | nil => contradiction
  | cons c others =>
      rw [identifier?] at read
      split at read
      · rename_i quote
        rcases Option.map_eq_some_iff.1 read with ⟨⟨inside, after⟩, run, same⟩
        cases same
        have filled := eq_append_of_filledRun? run
        unfold filledRun? at run
        split at run
        · rename_i further
          cases run
          rcases exists_double_of_quotedRun? further with ⟨plain, written⟩
          have inside : plain ≠ [] := by
            rintro rfl
            contradiction
          rw [written] at filled ⊢
          constructor
          · exact .quoted inside
          · rw [quote, filled]
            simp
        · contradiction
      · split at read
        · rename_i begins
          cases read
          have continues : (c :: others.takeWhile continuesIdentifier).all continuesIdentifier =
              true := by
            rw [List.all_cons, List.all_takeWhile, Bool.and_true, continuesIdentifier,
              isWord_of_beginsIdentifier begins, Bool.true_or]
          constructor
          · exact .name ⟨c :: others.takeWhile continuesIdentifier, begins, continues⟩
          · rw [List.cons_append, List.takeWhile_append_dropWhile]
        · contradiction

namespace IsIdentifier

variable {name : Text}

theorem exists_cons (identifier : IsIdentifier name) :
    ∃ c others, name = c :: others ∧ isBlank c = false := by
  cases identifier with
  | name name =>
      rcases name.exists_cons with ⟨c, others, written, begins⟩
      exact ⟨c, others, written, not_isBlank_of_isWord (isWord_of_beginsIdentifier begins)⟩
  | quoted filled => exact ⟨_, _, rfl, rfl⟩

/-- An identifier is read whole where nothing follows that would continue it. -/
theorem identifier?_eq (identifier : IsIdentifier name) {rest : Text}
    (stops : rest.stopsAt continuesIdentifier = true) (alone : rest.head? ≠ some '"') :
    identifier? (name ++ rest) = some (name, rest) := by
  cases identifier with
  | name name => exact name.identifier?_eq stops
  | @quoted inside filled =>
      have run := filledRun?_double alone filled
      have written : '"' :: double '"' inside ++ ['"'] ++ rest =
          '"' :: (double '"' inside ++ '"' :: rest) := by simp
      rw [written, identifier?, if_pos rfl, run]
      rfl

theorem skipBlanks_eq (identifier : IsIdentifier name) {lead : Text}
    (blank : lead.allBlank = true) (rest : Text) :
    skipBlanks (lead ++ (name ++ rest)) = name ++ rest := by
  rcases identifier.exists_cons with ⟨c, others, rfl, filled⟩
  rw [List.cons_append, skipBlanks_lead blank filled]

end IsIdentifier

/-- An identifier that a line end does not cut is read alike when the text goes on. -/
theorem identifier?_append {c : Char} {rest : Text} (ended : Ended rest)
    (closed : ¬(c = '"' ∧ runIsOpen '"' rest = true)) :
    (∀ more, identifier? (c :: (rest ++ more)) = none) ∨
      ∃ name after, Ended after ∧
        ∀ more, identifier? (c :: (rest ++ more)) = some (name, after ++ more) := by
  by_cases quote : c = '"'
  · have closes : runIsOpen '"' rest = false := by simpa [quote] using closed
    have last : rest.getLast? ≠ some '"' := by
      rw [ended]
      simp
    rcases quotedRun?_append closes last with ⟨inside, after, read, filled, further⟩
    rw [eq_append_of_quotedRun? read] at ended
    have behind : Ended after := (ended.of_append (by simp)).of_cons rfl
    cases inside with
    | nil =>
        left
        intro more
        rw [identifier?, if_pos quote, filledRun?, further]
        rfl
    | cons d inside =>
        right
        exists '"' :: d :: inside ++ ['"'], after
        constructor
        · exact behind
        · intro more
          rw [identifier?, if_pos quote, filledRun?, further]
          rfl
  · by_cases begins : beginsIdentifier c = true
    · rcases @ended.dropWhile continuesIdentifier (by decide +kernel) with ⟨left, kept⟩
      have taken (more : Text) : (rest ++ more).takeWhile continuesIdentifier =
          rest.takeWhile continuesIdentifier := by
        have same : (rest ++ more).takeWhile continuesIdentifier ++
              (rest ++ more).dropWhile continuesIdentifier =
            rest.takeWhile continuesIdentifier ++
              (rest ++ more).dropWhile continuesIdentifier := by
          rw [List.takeWhile_append_dropWhile, kept, ← List.append_assoc,
            List.takeWhile_append_dropWhile]
        exact List.append_cancel_right same
      right
      exists c :: rest.takeWhile continuesIdentifier, rest.dropWhile continuesIdentifier
      constructor
      · exact left
      · intro more
        rw [identifier?, if_neg quote, if_pos begins, taken, kept]
    · left
      intro more
      rw [identifier?, if_neg quote, if_neg begins]

/-! ## Columns -/

/-- The text begins with a column: an identifier with blanks around it, and what ends it. -/
def ColumnToken.Begins (column : ColumnToken) (text : Text) : Prop :=
  ∃ lead trail : Text, lead.allBlank = true ∧ trail.allBlank = true ∧
    IsIdentifier column.name ∧
      text = lead ++ (column.name ++ (trail ++ endMark column.isLast :: column.rest))

/-- What is read as a column is what the text begins with. -/
theorem column?_eq_some_iff {text : Text} {column : ColumnToken} :
    column? text = some column ↔ column.Begins text := by
  constructor
  · intro read
    rw [column?] at read
    split at read
    · contradiction
    · rename_i name rest name?
      rcases isIdentifier_of_identifier? name? with ⟨identifier, cut⟩
      rcases exists_blank_append text with ⟨lead, blank, cutLead⟩
      rcases exists_blank_append rest with ⟨trail, blank', cutTrail⟩
      rw [cut, cutTrail] at cutLead
      split at read
      · contradiction
      · rename_i skipped
        rw [skipped] at cutLead
        split at read
        · rename_i comma
          rw [comma] at cutLead
          cases read
          exact ⟨lead, trail, blank, blank', identifier, cutLead⟩
        · split at read
          · rename_i parenthesis
            rw [parenthesis] at cutLead
            cases read
            exact ⟨lead, trail, blank, blank', identifier, cutLead⟩
          · contradiction
  · rcases column with ⟨name, isLast, rest⟩
    rintro ⟨lead, trail, blank, blank', identifier, rfl⟩
    have stops : (trail ++ endMark isLast :: rest).stopsAt continuesIdentifier = true := by
      apply stopsAt_lead (fun _ => not_continuesIdentifier_of_isBlank) blank'
      cases isLast <;> rfl
    have alone : (trail ++ endMark isLast :: rest).head? ≠ some '"' := by
      cases trail with
      | nil => cases isLast <;> simp [endMark]
      | cons c trail =>
          rintro same
          cases same
          contradiction
    rw [column?, identifier.skipBlanks_eq blank, identifier.identifier?_eq stops alone]
    simp only [skipBlanks_lead blank' (not_isBlank_endMark isLast)]
    cases isLast <;> rfl

section

variable {text : Text} (ended : Ended text) (filled : text.allBlank = false)
include ended filled

/-- A text that can be completed to a column is recognized as the beginning of one. -/
theorem columnMayFollow_of_append (unread : column? text = none) {more : Text}
    (completes : (column? (text ++ more)).isSome = true) : columnMayFollow text = true := by
  rcases List.exists_cons_of_ne_nil (ended.skipBlanks filled).ne_nil with ⟨c, rest, skipped⟩
  have behind : Ended rest :=
    (skipped ▸ ended.skipBlanks filled).of_cons (not_isBlank_of_skipBlanks skipped)
  have further : skipBlanks (text ++ more) = c :: (rest ++ more) := by
    rw [skipBlanks_append_of_filled filled, skipped, List.cons_append]
  by_cases isOpen : c = '"' ∧ runIsOpen '"' rest = true
  · simp [columnMayFollow, skipped, isOpen.1, isOpen.2]
  rcases identifier?_append behind isOpen with noName | ⟨name, after, behindName, read⟩
  · simp [column?, further, noName] at completes
  have readHere : identifier? (c :: rest) = some (name, after) := by
    have read := read []
    rwa [List.append_nil, List.append_nil] at read
  cases blank : after.allBlank with
  | true => simp [columnMayFollow, skipped, readHere, blank]
  | false =>
      -- The character behind the name is the same with and without the further text.
      rcases List.exists_cons_of_ne_nil (behindName.skipBlanks blank).ne_nil with
        ⟨d, others, skipped'⟩
      have further' : skipBlanks (after ++ more) = d :: (others ++ more) := by
        rw [skipBlanks_append_of_filled blank, skipped', List.cons_append]
      simp only [column?, skipped, readHere, skipped'] at unread
      simp only [column?, further, read, further'] at completes
      by_cases comma : d = ','
      · simp [comma] at unread
      · by_cases parenthesis : d = ')'
        · simp [parenthesis] at unread
        · simp [comma, parenthesis] at completes

/-- What is recognized as the beginning of a column can be completed to one. -/
theorem exists_column?_append (waits : columnMayFollow text = true) :
    ∃ more, (column? (text ++ more)).isSome = true := by
  rcases exists_blank_append text with ⟨lead, blank, cut⟩
  rcases List.exists_cons_of_ne_nil (ended.skipBlanks filled).ne_nil with ⟨c, rest, skipped⟩
  have behind : Ended rest :=
    (skipped ▸ ended.skipBlanks filled).of_cons (not_isBlank_of_skipBlanks skipped)
  rw [columnMayFollow, skipped, Bool.or_eq_true] at waits
  rcases waits with isOpen | name
  · simp only [Bool.and_eq_true, decide_eq_true_eq] at isOpen
    rcases isOpen with ⟨rfl, isOpen⟩
    rcases exists_double_of_runIsOpen isOpen with ⟨inside, rfl⟩
    have inside_ne_nil : inside ≠ [] := by
      rintro rfl
      exact behind.ne_nil rfl
    have read := (@column?_eq_some_iff _ ⟨_, true, []⟩).2
      ⟨lead, [], blank, rfl, .quoted inside_ne_nil, rfl⟩
    exists ['"', ')']
    rw [cut, skipped]
    simpa [endMark] using congrArg Option.isSome read
  · rcases (Option.any_eq_true _ _).1 name with ⟨⟨name, after⟩, read, blank'⟩
    rcases isIdentifier_of_identifier? read with ⟨identifier, written⟩
    have read := (@column?_eq_some_iff _ ⟨name, true, []⟩).2
      ⟨lead, after, blank, blank', identifier, rfl⟩
    exists [')']
    rw [cut, skipped, written]
    simpa [endMark] using congrArg Option.isSome read

theorem columnMayFollow_iff (unread : column? text = none) :
    columnMayFollow text = true ↔ ∃ more, (column? (text ++ more)).isSome = true := by
  constructor
  · exact exists_column?_append ended filled
  · rintro ⟨more, completes⟩
    exact columnMayFollow_of_append ended filled unread completes

end

/-! ## FROM STDIN -/

/-- The text is FROM STDIN and a rest that does not go on with the second word. -/
def BeginsFromStdin (rest text : Text) : Prop :=
  ∃ lead first gap second : Text, lead.allBlank = true ∧ Spells "FROM".toList first ∧
    gap.allBlank = true ∧ gap ≠ [] ∧ Spells "STDIN".toList second ∧
      rest.stopsAt isWord = true ∧ text = lead ++ (first ++ (gap ++ (second ++ rest)))

/-- Letters that are read spell their word. -/
theorem exists_spells_of_letters? {word text rest : Text}
    (read : letters? word text = some rest) :
    ∃ written, Spells word written ∧ text = written ++ rest := by
  induction word generalizing text with
  | nil =>
      cases read
      exact ⟨[], rfl, rfl⟩
  | cons letter word ih =>
      cases text with
      | nil => contradiction
      | cons c text =>
          rw [letters?] at read
          split at read
          · rename_i form
            rcases ih read with ⟨written, spells, rfl⟩
            exact ⟨c :: written, by rw [Spells, letters?, if_pos form, spells], rfl⟩
          · contradiction

theorem exists_spells_of_keyword? {word text rest : Text}
    (read : keyword? word text = some rest) :
    ∃ written, Spells word written ∧ rest.stopsAt isWord = true ∧ text = written ++ rest := by
  unfold keyword? at read
  split at read
  · rename_i letters
    split at read
    · contradiction
    · rename_i stops
      cases read
      rcases exists_spells_of_letters? letters with ⟨written, spells, cut⟩
      exact ⟨written, spells, by simpa [beginsWithWord, stopsAt] using stops, cut⟩
  · contradiction

/-- What is read behind FROM STDIN is what follows these words. -/
theorem fromStdin?_eq_some_iff {text rest : Text} :
    fromStdin? text = some rest ↔ BeginsFromStdin rest text := by
  constructor
  · intro read
    rw [fromStdin?] at read
    split at read
    · rename_i after letters
      split at read
      · rename_i blankBehind
        rcases exists_spells_of_letters? letters with ⟨first, spells, cut⟩
        rcases exists_spells_of_keyword? read with ⟨second, spells', stops, cut'⟩
        rcases exists_blank_append text with ⟨lead, blank, cutLead⟩
        rcases exists_blank_append after with ⟨gap, blank', cutGap⟩
        have gap_ne_nil : gap ≠ [] := by
          rintro rfl
          rcases List.exists_cons_of_ne_nil (show after ≠ [] by
            rintro rfl
            contradiction) with ⟨c, others, rfl⟩
          have filled := not_isBlank_of_skipBlanks (show skipBlanks (c :: others) = c :: others
            from cutGap.symm)
          simp [filled] at blankBehind
        rw [cut, cutGap, cut'] at cutLead
        exact ⟨lead, first, gap, second, blank, spells, blank', gap_ne_nil, spells', stops,
          cutLead⟩
      · contradiction
    · contradiction
  · rintro ⟨lead, first, gap, second, blank, spells, blank', gap_ne_nil, spells', stops, rfl⟩
    rcases List.exists_cons_of_ne_nil gap_ne_nil with ⟨c, others, rfl⟩
    have blankBehind : isBlank c = true := by
      rw [allBlank, List.all_cons, Bool.and_eq_true] at blank'
      exact blank'.1
    have letters : letters? ['F', 'R', 'O', 'M'] (first ++ (c :: others ++ (second ++ rest))) =
        some (c :: others ++ (second ++ rest)) := letters?_append spells _
    have word : keyword? ['S', 'T', 'D', 'I', 'N'] (second ++ rest) = some rest :=
      spells'.keyword?_append stops
    have skipped := spells'.skipBlanks_eq blank' rfl (by simp) rest
    rw [fromStdin?, spells.skipBlanks_eq blank rfl (by simp), letters]
    have gapAhead : (c :: others ++ (second ++ rest)).head?.any isBlank = true := blankBehind
    simp only [gapAhead, if_true, skipped, word]

/-- Letters do not reach a line end. -/
theorem letters?_append_ended {word text : Text} (capitals : word.all Char.isUpper = true)
    (ended : Ended text) :
    (∀ more, letters? word (text ++ more) = none) ∨
      ∃ rest, Ended rest ∧ ∀ more, letters? word (text ++ more) = some (rest ++ more) := by
  induction word generalizing text with
  | nil => exact .inr ⟨text, ended, fun more => rfl⟩
  | cons letter word ih =>
      rw [List.all_cons, Bool.and_eq_true] at capitals
      rcases List.exists_cons_of_ne_nil ended.ne_nil with ⟨c, rest, rfl⟩
      by_cases form : isFormOf letter c = true
      · have filled := not_isBlank_of_isWord (isWord_of_isFormOf capitals.1 form)
        simp only [List.cons_append, letters?, form, if_true]
        exact ih capitals.2 (ended.of_cons filled)
      · left
        intro more
        rw [List.cons_append, letters?, if_neg form]

/-- A whole word that a line end follows is read alike when the text goes on. -/
theorem keyword?_append_ended {word text : Text} (capitals : word.all Char.isUpper = true)
    (ended : Ended text) (more : Text) :
    (keyword? word (text ++ more)).isSome = (keyword? word text).isSome := by
  rcases letters?_append_ended capitals ended with noWord | ⟨rest, behind, read⟩
  · have here := noWord []
    rw [List.append_nil] at here
    rw [keyword?, keyword?, noWord, here]
  · have here := read []
    rw [List.append_nil, List.append_nil] at here
    rcases List.exists_cons_of_ne_nil behind.ne_nil with ⟨c, others, rfl⟩
    rw [keyword?, keyword?, read, here]
    have same : beginsWithWord (c :: others ++ more) = beginsWithWord (c :: others) := rfl
    simp only [same]
    cases beginsWithWord (c :: others) <;> rfl

section

variable {text : Text} (ended : Ended text) (filled : text.allBlank = false)
include ended filled

/-- A text that can be completed to FROM STDIN is recognized as its beginning. -/
theorem fromStdinMayFollow_of_append (unread : fromStdin? text = none) {more : Text}
    (completes : (fromStdin? (text ++ more)).isSome = true) : fromStdinMayFollow text = true := by
  have further := skipBlanks_append_of_filled filled more
  rcases @letters?_append_ended ['F', 'R', 'O', 'M'] _ rfl (ended.skipBlanks filled) with
    noWord | ⟨rest, behind, read⟩
  · simp [fromStdin?, further, noWord] at completes
  · have here := read []
    rw [List.append_nil, List.append_nil] at here
    cases blank : rest.allBlank with
    | true => simp [fromStdinMayFollow, here, blank]
    | false =>
        -- The second word is read, or is not, with and without the further text.
        rcases List.exists_cons_of_ne_nil behind.ne_nil with ⟨c, others, rfl⟩
        have word := @keyword?_append_ended ['S', 'T', 'D', 'I', 'N'] _ rfl
          (behind.skipBlanks blank) more
        simp only [fromStdin?, here] at unread
        simp only [fromStdin?, further, read, skipBlanks_append_of_filled blank] at completes
        by_cases gap : isBlank c = true
        · simp only [List.cons_append, List.head?_cons, Option.any_some, gap, if_true] at *
          rw [word, unread] at completes
          contradiction
        · simp [gap] at completes

/-- What is recognized as the beginning of FROM STDIN can be completed to it. -/
theorem exists_fromStdin?_append (waits : fromStdinMayFollow text = true) :
    ∃ more, (fromStdin? (text ++ more)).isSome = true := by
  rcases exists_blank_append text with ⟨lead, blank, cut⟩
  rcases (Option.any_eq_true _ _).1 waits with ⟨gap, letters, blank'⟩
  rcases exists_spells_of_letters? letters with ⟨first, spells, written⟩
  have gap_ne_nil : gap ≠ [] := by
    rcases @letters?_append_ended ['F', 'R', 'O', 'M'] _ rfl (ended.skipBlanks filled) with
      noWord | ⟨rest, behind, read⟩
    · have here := noWord []
      rw [List.append_nil, letters] at here
      contradiction
    · have here := read []
      rw [List.append_nil, List.append_nil, letters] at here
      cases here
      exact behind.ne_nil
  have begins : BeginsFromStdin [] (lead ++ (first ++ (gap ++ ("STDIN".toList ++ [])))) :=
    ⟨lead, first, gap, "STDIN".toList, blank, spells, blank', gap_ne_nil, by decide, rfl, rfl⟩
  have read := fromStdin?_eq_some_iff.2 begins
  exists "STDIN".toList
  rw [cut, written]
  simpa using congrArg Option.isSome read

theorem fromStdinMayFollow_iff (unread : fromStdin? text = none) :
    fromStdinMayFollow text = true ↔ ∃ more, (fromStdin? (text ++ more)).isSome = true := by
  constructor
  · exact exists_fromStdin?_append ended filled
  · rintro ⟨more, completes⟩
    exact fromStdinMayFollow_of_append ended filled unread completes

end

end SeedCatalog.Sql
