import SeedCatalog.Proofs.Sql.Comment
import SeedCatalog.Proofs.Sql.Remainder
import SeedCatalog.Proofs.Sql.Token
import SeedCatalog.Proofs.Text.Line

/-!
# What is skipped between two statements

Between two statements the words INSERT and COPY and the marker of a block
comment count, and everything else is skipped token by token.  A class of texts
is skipped to its end if neither begins its texts and a token that is skipped
leaves a text of the class.
-/

namespace SeedCatalog.Sql

open Text

/-! ## The first word of a text -/

theorem stopsAt_dropWhile (p : Char → Bool) (text : Text) :
    Text.stopsAt p (text.dropWhile p) = true := by
  induction text with
  | nil => rfl
  | cons c text ih =>
      by_cases member : p c = true
      · rw [List.dropWhile_cons_of_pos member]
        exact ih
      · rw [List.dropWhile_cons_of_neg member]
        simpa [stopsAt] using member

theorem takeWhile_append {p : Char → Bool} {rest : Text} (stops : rest.stopsAt p = true)
    (text : Text) : (text ++ rest).takeWhile p = text.takeWhile p := by
  have nothing : rest.takeWhile p = [] := by
    cases rest with
    | nil => rfl
    | cons c rest => simp_all [stopsAt]
  rw [List.takeWhile_append]
  split
  · rename_i all
    rw [nothing, List.append_nil]
    exact (List.takeWhile_prefix p).eq_of_length all |>.symm
  · rfl

theorem spells_of_letters? {word written rest after : Text}
    (capitals : word.all Char.isUpper = true) (letters : written.all isWord = true)
    (stops : rest.stopsAt isWord = true) (read : letters? word (written ++ rest) = some after)
    (ended : beginsWithWord after = false) : Spells word written := by
  induction word generalizing written with
  | nil =>
      cases written with
      | nil => rfl
      | cons c written =>
          cases read
          simp_all [beginsWithWord]
  | cons letter word ih =>
      rw [List.all_cons, Bool.and_eq_true] at capitals
      cases written with
      | nil =>
          cases rest with
          | nil => contradiction
          | cons c rest =>
              rw [List.nil_append, letters?] at read
              split at read
              · rename_i form
                simp [stopsAt, isWord_of_isFormOf capitals.1 form] at stops
              · contradiction
      | cons c written =>
          rw [List.all_cons, Bool.and_eq_true] at letters
          rw [List.cons_append, letters?] at read
          split at read
          · rename_i form
            rw [Spells, letters?, if_pos form]
            exact ih capitals.2 letters.2 read
          · contradiction

/-- A keyword is read exactly where the first word of the text spells it. -/
theorem keyword?_isSome_iff {word : Text} (capitals : word.all Char.isUpper = true) (text : Text) :
    (keyword? word text).isSome = true ↔ Spells word (text.takeWhile isWord) := by
  have cut := List.takeWhile_append_dropWhile (p := isWord) (l := text)
  have stops := stopsAt_dropWhile isWord text
  constructor
  · intro read
    rw [← cut, keyword?] at read
    split at read
    · rename_i letters
      split at read
      · contradiction
      · rename_i ended
        exact spells_of_letters? capitals List.all_takeWhile stops letters (by simpa using ended)
    · contradiction
  · intro spells
    rw [← cut, spells.keyword?_append stops, Option.isSome_some]

/-- Whether a text begins with the first word of a statement. -/
def beginsStatement (text : Text) : Bool :=
  (keyword? "INSERT".toList text).isSome || (keyword? "COPY".toList text).isSome

theorem beginsStatement_iff (text : Text) :
    beginsStatement text = true ↔
      Spells "INSERT".toList (text.takeWhile isWord) ∨
        Spells "COPY".toList (text.takeWhile isWord) := by
  rw [beginsStatement, Bool.or_eq_true, keyword?_isSome_iff rfl, keyword?_isSome_iff rfl]

/-- What stands behind the first word of a text does not matter. -/
theorem beginsStatement_append {first second : Text} (stops : first.stopsAt isWord = true)
    (stops' : second.stopsAt isWord = true) (text : Text) :
    beginsStatement (text ++ first) = beginsStatement (text ++ second) := by
  rw [Bool.eq_iff_iff, beginsStatement_iff, beginsStatement_iff, takeWhile_append stops,
    takeWhile_append stops']

/-- No statement begins where no word does. -/
theorem beginsStatement_of_stopsAt {text : Text} (stops : text.stopsAt isWord = true) :
    beginsStatement text = false := by
  have same := beginsStatement_append stops (rfl : Text.stopsAt isWord [] = true) []
  exact same

/-! ## Skipping token by token -/

/-- What is left when a token that begins with a character is skipped. -/
def behindToken (c : Char) (rest : Text) : Text :=
  if c = '\'' ∨ c = '"' then (quotedRun? c rest).elim rest Prod.snd
  else rest.dropWhile fun d => isSkippedAtOnce c && isSkippedAtOnce d

/-- Where no quote opens, either a run of characters is skipped or the first of them alone. -/
theorem behindToken_of_inert {c : Char} (inert : isInert c = true) (rest : Text) :
    behindToken c rest =
      if isSkippedAtOnce c = true then rest.dropWhile isSkippedAtOnce else rest := by
  simp only [isInert, Bool.and_eq_true, bne_iff_ne] at inert
  rw [behindToken, if_neg (by simp [inert.1.1.1, inert.1.1.2])]
  cases isSkippedAtOnce c with
  | true => rfl
  | false => cases rest <;> rfl

/-- A class of texts at whose first characters neither a statement nor a comment begins, and which
is not left when a blank or a token is skipped. -/
structure Skippable (P : Text → Prop) : Prop where
  blank : ∀ {c rest}, isBlank c = true → P (c :: rest) → P rest
  noMarker : ∀ {c rest}, isBlank c = false → P (c :: rest) → ¬(c = '/' ∧ rest.head? = some '*')
  noStatement : ∀ {c rest}, isBlank c = false → P (c :: rest) → beginsStatement (c :: rest) = false
  backslash : ∀ {rest}, P ('\\' :: rest) → beginsStatement rest = false
  token : ∀ {c rest}, isBlank c = false → P (c :: rest) → P (behindToken c rest)

namespace Skippable

variable {P : Text → Prop} (skippable : Skippable P) {text : Text} (holds : P text)
include skippable holds

theorem skipBlanks : P text.skipBlanks := by
  induction text with
  | nil => exact holds
  | cons c text ih =>
      by_cases blank : isBlank c = true
      · rw [Text.skipBlanks, List.dropWhile_cons_of_pos blank]
        exact ih (skippable.blank blank holds)
      · rwa [Text.skipBlanks, List.dropWhile_cons_of_neg blank]

/-- Behind its blanks the text ends, or goes on with a character that is none. -/
theorem skipBlanks_eq : text.skipBlanks = [] ∨
    ∃ c rest, text.skipBlanks = c :: rest ∧ isBlank c = false ∧ P (c :: rest) := by
  have holds := skippable.skipBlanks holds
  cases skipped : text.skipBlanks with
  | nil => exact .inl rfl
  | cons c rest =>
      rw [skipped] at holds
      exact .inr ⟨c, rest, rfl, not_isBlank_of_skipBlanks skipped, holds⟩

theorem commentOpening?_eq_none : commentOpening? text = none := by
  rcases skippable.skipBlanks_eq holds with skipped | ⟨c, rest, skipped, filled, holds⟩
  · rw [commentOpening?, skipped]
  · rw [commentOpening?, skipped]
    split
    · rename_i opening
      rw [List.cons.injEq] at opening
      have marker : c = '/' ∧ rest.head? = some '*' := ⟨opening.1, by rw [opening.2]; rfl⟩
      exact absurd marker (skippable.noMarker filled holds)
    · rfl

theorem insert?_eq_none : insert? text = none := by
  rcases skippable.skipBlanks_eq holds with skipped | ⟨c, rest, skipped, filled, holds⟩
  · rw [insert?, skipped]
    rfl
  · have nothing := skippable.noStatement filled holds
    rw [beginsStatement, Bool.or_eq_false_iff, Option.isSome_eq_false_iff,
      Option.isNone_iff_eq_none] at nothing
    rw [insert?, skipped]
    exact nothing.1

theorem copy?_eq_none : copy? text = none := by
  rcases skippable.skipBlanks_eq holds with skipped | ⟨c, rest, skipped, filled, holds⟩
  · rw [copy?, skipped]
  · have nothing : beginsStatement (if c = '\\' then rest else c :: rest) = false := by
      split
      · rename_i backslash
        subst backslash
        exact skippable.backslash holds
      · exact skippable.noStatement filled holds
    rw [beginsStatement, Bool.or_eq_false_iff, Option.isSome_eq_false_iff,
      Option.isSome_eq_false_iff, Option.isNone_iff_eq_none, Option.isNone_iff_eq_none] at nothing
    rw [copy?, skipped]
    exact nothing.2

/-- A token is skipped and leaves a text of the class, unless nothing but blanks is left. -/
theorem skipToken?_eq : text.allBlank = true ∨
    ∃ rest, skipToken? text = some rest ∧ P rest := by
  rcases skippable.skipBlanks_eq holds with skipped | ⟨c, rest, skipped, filled, holds⟩
  · exact .inl (skipBlanks_eq_nil_iff.1 skipped)
  · refine .inr ⟨behindToken c rest, ?_, skippable.token filled holds⟩
    rw [skipToken?, skipped]
    simp only [behindToken]
    split <;> rfl

end Skippable

theorem isSkippedAtOnce_of_isWord {c : Char} (word : isWord c = true) :
    isSkippedAtOnce c = true := by
  have filled := not_isBlank_of_isWord word
  have other : c ≠ '\'' ∧ c ≠ '"' ∧ c ≠ ';' ∧ c ≠ '/' := by
    refine ⟨?_, ?_, ?_, ?_⟩
    all_goals
      rintro rfl
      contradiction
  simp [isSkippedAtOnce, filled, other]

theorem stopsAt_isWord {text : Text} (stops : text.stopsAt isSkippedAtOnce = true) :
    text.stopsAt isWord = true := by
  cases text with
  | nil => rfl
  | cons c text =>
      have stops : isSkippedAtOnce c = false := by simpa [stopsAt] using stops
      cases word : isWord c with
      | true => simp [isSkippedAtOnce_of_isWord word] at stops
      | false => simp [stopsAt, word]

/-! ## Quiet texts -/

/-- Whether no word of a text is INSERT or COPY, and no block comment opens, given whether a word
runs into the text. -/
def isQuiet : (inWord : Bool) → Text → Bool
  | _, [] => true
  | inWord, c :: rest =>
      !(c = '/' && rest.head? = some '*') && (inWord || !beginsStatement (c :: rest)) &&
        isQuiet (isWord c) rest

theorem isQuiet_cons {inWord : Bool} {c : Char} {rest : Text} :
    isQuiet inWord (c :: rest) = true ↔
      ¬(c = '/' ∧ rest.head? = some '*') ∧
        (inWord = false → beginsStatement (c :: rest) = false) ∧
          isQuiet (isWord c) rest = true := by
  cases inWord <;> simp [isQuiet, and_assoc, imp_iff_not_or]

/-- Where no word goes on, it does not matter that one has ended. -/
theorem isQuiet_of_stopsAt {inWord : Bool} {text : Text} (quiet : isQuiet inWord text = true)
    (stops : text.stopsAt isWord = true) : isQuiet false text = true := by
  cases text with
  | nil => rfl
  | cons c rest =>
      obtain ⟨noMarker, _, further⟩ := isQuiet_cons.1 quiet
      exact isQuiet_cons.2 ⟨noMarker, fun _ => beginsStatement_of_stopsAt stops, further⟩

theorem isQuiet_of_append {inWord : Bool} {first second : Text}
    (quiet : isQuiet inWord (first ++ second) = true) (stops : second.stopsAt isWord = true) :
    isQuiet false second = true := by
  induction first generalizing inWord with
  | nil => exact isQuiet_of_stopsAt quiet stops
  | cons c first ih => exact ih (isQuiet_cons.1 quiet).2.2

theorem isQuiet_of_append_cons {inWord : Bool} {first second : Text} {c : Char}
    (quiet : isQuiet inWord (first ++ c :: second) = true) :
    isQuiet (isWord c) second = true := by
  induction first generalizing inWord with
  | nil => exact (isQuiet_cons.1 quiet).2.2
  | cons d first ih => exact ih (isQuiet_cons.1 quiet).2.2

/-- What is cut off a quiet text may be replaced by a line feed. -/
theorem isQuiet_append_newline {inWord : Bool} {first second : Text}
    (quiet : isQuiet inWord (first ++ second) = true) (stops : second.stopsAt isWord = true) :
    isQuiet inWord (first ++ ['\n']) = true := by
  induction first generalizing inWord with
  | nil => cases inWord <;> decide +kernel
  | cons c first ih =>
      obtain ⟨noMarker, noStatement, further⟩ := isQuiet_cons.1 quiet
      refine isQuiet_cons.2 ⟨?_, ?_, ih further⟩
      · rintro ⟨slash, asterisk⟩
        cases first with
        | nil => contradiction
        | cons d first => exact noMarker ⟨slash, asterisk⟩
      · intro outside
        have same := beginsStatement_append stops
          (rfl : Text.stopsAt isWord ['\n'] = true) (c :: first)
        exact same.symm.trans (noStatement outside)

/-- What is scanned of a quiet line is quiet. -/
theorem isQuiet_dropLineComment {line : Text} (quiet : isQuiet false line = true) :
    isQuiet false (dropLineComment (dropLineEnd line) ++ ['\n']) = true := by
  obtain ⟨lineEnd, cut, ends⟩ := exists_dropLineEnd_append line
  obtain ⟨comment, cut', hyphen⟩ := exists_dropLineCommentFrom_append .plain (dropLineEnd line)
  have stops' : (comment ++ lineEnd).stopsAt isWord = true := by
    cases comment with
    | nil =>
        cases lineEnd with
        | nil => rfl
        | cons c lineEnd =>
            rcases ends c List.mem_cons_self with rfl | rfl <;> rfl
    | cons c comment =>
        have same : c = '-' := by simpa using hyphen
        rw [same]
        rfl
  rw [cut, cut', List.append_assoc] at quiet
  exact isQuiet_append_newline quiet stops'

theorem beginsStatement_of_isQuiet {text : Text} (quiet : isQuiet false text = true) :
    beginsStatement text = false := by
  cases text with
  | nil => exact beginsStatement_of_stopsAt rfl
  | cons c rest => exact (isQuiet_cons.1 quiet).2.1 rfl

/-- Quiet texts are skipped to their ends. -/
theorem skippable_isQuiet : Skippable fun text => isQuiet false text = true where
  blank := by
    intro c rest blank quiet
    have further := (isQuiet_cons.1 quiet).2.2
    rwa [not_isWord_of_isBlank blank] at further
  noMarker := fun _ quiet => (isQuiet_cons.1 quiet).1
  noStatement := fun _ quiet => beginsStatement_of_isQuiet quiet
  backslash := fun quiet => beginsStatement_of_isQuiet (isQuiet_cons.1 quiet).2.2
  token := by
    intro c rest filled quiet
    have further := (isQuiet_cons.1 quiet).2.2
    unfold behindToken
    split
    · rename_i quote
      have noWord : isWord c = false := by rcases quote with rfl | rfl <;> rfl
      cases run : quotedRun? c rest with
      | none => rwa [noWord] at further
      | some found =>
          obtain ⟨inside, after⟩ := found
          rw [eq_append_of_quotedRun? run] at further
          have behind := isQuiet_of_append_cons further
          rwa [noWord] at behind
    · cases atOnce : isSkippedAtOnce c with
      | true =>
          simp only [Bool.true_and]
          rw [← List.takeWhile_append_dropWhile (p := isSkippedAtOnce) (l := rest)] at further
          exact isQuiet_of_append further (stopsAt_isWord (stopsAt_dropWhile _ rest))
      | false =>
          have noWord : isWord c = false := by
            cases word : isWord c with
            | true => simp [isSkippedAtOnce_of_isWord word] at atOnce
            | false => rfl
          have kept : rest.dropWhile (fun _ => false) = rest := by cases rest <;> rfl
          simp only [Bool.false_and, kept]
          rwa [noWord] at further

end SeedCatalog.Sql
