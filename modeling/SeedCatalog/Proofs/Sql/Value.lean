import SeedCatalog.Proofs.Sql.Token
import SeedCatalog.Sql.Value

/-!
# Reading values that were written

A written value is a literal, which may hold any text, or a bare word.  With its
comma or parenthesis behind it, a value is read back.  As long as these have not
come, and as long as a literal is open, there is no value yet, but the next line
may complete it.
-/

namespace SeedCatalog.Sql

open Text

/-- A value as a script writes it. -/
inductive WrittenValue where
  /-- A literal.  No carriage return stands right before a line feed, since both would be taken for
  the end of a line. -/
  | literal (text : Text) (noReturn : ¬['\r', '\n'] <:+: text)
  /-- A word without quotes. -/
  | bare (text : Text) (filled : text ≠ []) (parts : text.all isBarePart = true)

namespace WrittenValue

/-- The text that the value stands for. -/
def text : WrittenValue → Text
  | literal text _ => text
  | bare text _ _ => text

/-- The value as it stands in the script. -/
def written : WrittenValue → Text
  | literal text _ => Sql.literal text
  | bare text _ _ => text

/-- The value as it is read. -/
def value : WrittenValue → Value
  | literal text _ => .quoted (double '\'' text)
  | bare text _ _ => .bare text

theorem text_value (value : WrittenValue) : value.value.text = value.text := by
  cases value with
  | literal text noReturn => exact undouble_double '\'' text
  | bare text filled parts => rfl

theorem closed (value : WrittenValue) : Closed value.written := by
  cases value with
  | literal text noReturn => exact closed_literal text
  | bare text filled parts =>
      apply closed_of_all
      rw [List.all_eq_true]
      intro c mem
      exact isInert_of_isBarePart (List.all_eq_true.1 parts c mem)

end WrittenValue

/-! ## What ends a value -/

/-- Blanks in front of what ends a value are passed over. -/
theorem ending?_blank {lead : Text} (blank : lead.allBlank = true) (rest : Text) :
    ending? .outside (lead ++ rest) = ending? .outside rest := by
  induction lead with
  | nil => rfl
  | cons c lead ih =>
      rw [allBlank, List.all_cons, Bool.and_eq_true] at blank
      rw [List.cons_append, ending?, if_pos blank.1, ih blank.2]

theorem ending?_endMark {trail : Text} (blank : trail.allBlank = true) (isLast : Bool)
    (rest : Text) : ending? .outside (trail ++ endMark isLast :: rest) = some (isLast, rest) := by
  rw [ending?_blank blank]
  cases isLast <;> rfl

theorem ending?_of_allBlank {trail : Text} (blank : trail.allBlank = true) :
    ending? .outside trail = none := by
  rw [← List.append_nil trail, ending?_blank blank]
  rfl

/-- There is no cast where no colon stands. -/
theorem skipCast_eq {text : Text} (noColon : text.skipBlanks.head? ≠ some ':') :
    skipCast text = text := by
  unfold skipCast
  split
  · rename_i skipped
    exact absurd (by rw [skipped]; rfl) noColon
  · rfl

theorem skipCast_endMark {trail : Text} (blank : trail.allBlank = true) (isLast : Bool)
    (rest : Text) :
    skipCast (trail ++ endMark isLast :: rest) = trail ++ endMark isLast :: rest := by
  apply skipCast_eq
  rw [skipBlanks_lead blank (not_isBlank_endMark isLast)]
  cases isLast <;> simp [endMark]

theorem skipCast_of_allBlank {trail : Text} (blank : trail.allBlank = true) :
    skipCast trail = trail := by
  apply skipCast_eq
  rw [skipBlanks_eq_nil_iff.2 blank]
  simp

/-! ## Literals -/

theorem head?_ne_quote_of_allBlank {trail rest : Text} (blank : trail.allBlank = true)
    (alone : rest.head? ≠ some '\'') : (trail ++ rest).head? ≠ some '\'' := by
  cases trail with
  | nil => exact alone
  | cons c trail =>
      rintro quote
      cases quote
      contradiction

theorem value?_of_quote {text rest : Text} (begins : skipBlanks text = '\'' :: rest) :
    value? text = (quotedRun? '\'' rest).bind fun run =>
      (ending? .outside (skipCast run.2)).map fun last => ⟨.quoted run.1, last.1, last.2⟩ := by
  rw [value?, begins]
  rfl

theorem valueMayFollow_of_quote {text rest : Text} (begins : skipBlanks text = '\'' :: rest) :
    valueMayFollow text = (runIsOpen '\'' rest ||
      (quotedRun? '\'' rest).any fun run =>
        (skipCast run.2).allBlank || endsInComment .outside (skipCast run.2)) := by
  rw [valueMayFollow, begins]
  rfl

theorem value?_quote {lead : Text} (blank : lead.allBlank = true) (rest : Text) :
    value? (lead ++ '\'' :: rest) = (quotedRun? '\'' rest).bind fun run =>
      (ending? .outside (skipCast run.2)).map fun last => ⟨.quoted run.1, last.1, last.2⟩ :=
  value?_of_quote (skipBlanks_lead blank rfl rest)

theorem valueMayFollow_quote {lead : Text} (blank : lead.allBlank = true) (rest : Text) :
    valueMayFollow (lead ++ '\'' :: rest) = (runIsOpen '\'' rest ||
      (quotedRun? '\'' rest).any fun run =>
        (skipCast run.2).allBlank || endsInComment .outside (skipCast run.2)) :=
  valueMayFollow_of_quote (skipBlanks_lead blank rfl rest)

/-- A literal that is still open is no value. -/
theorem value?_open {lead : Text} (blank : lead.allBlank = true) (text : Text) :
    value? (lead ++ '\'' :: double '\'' text) = none := by
  rw [value?_quote blank]
  cases read : quotedRun? '\'' (double '\'' text) with
  | none => rfl
  | some run =>
      obtain ⟨inside, after⟩ := run
      have quote := head?_of_quotedRun?_double read
      cases after with
      | nil => contradiction
      | cons c after =>
          rw [List.head?_cons, Option.some.injEq] at quote
          subst quote
          rfl

theorem valueMayFollow_open {lead : Text} (blank : lead.allBlank = true) (text : Text) :
    valueMayFollow (lead ++ '\'' :: double '\'' text) = true := by
  rw [valueMayFollow_quote blank, runIsOpen_double, Bool.true_or]

/-! ## Bare words -/

theorem not_endsBare_of_isBarePart {c : Char} (part : isBarePart c = true) : endsBare c = false :=
  forall_ascii (p := fun c => isBarePart c = true → endsBare c = false) (by decide)
    (toNat_of_isBarePart part) part

theorem not_isBlank_of_endsBare {c : Char} (ends : endsBare c = true) : isBlank c = false := by
  simp only [endsBare, Bool.or_eq_true, beq_iff_eq] at ends
  rcases ends with ((rfl | rfl) | rfl) | rfl <;> rfl

theorem not_endsBare_of_isBlank {c : Char} (blank : isBlank c = true) : endsBare c = false := by
  cases ends : endsBare c with
  | false => rfl
  | true => simp [not_isBlank_of_endsBare ends] at blank

theorem not_opensComment_of_isBarePart {c : Char} (part : isBarePart c = true) (rest : Text) :
    opensComment c rest = false := by
  have noSlash : c ≠ '/' := by
    rintro rfl
    contradiction
  simp [opensComment, noSlash]

theorem ending?_of_isBarePart {c : Char} (part : isBarePart c = true) (rest : Text) :
    ending? .outside (c :: rest) = none := by
  have noEnd := not_endsBare_of_isBarePart part
  simp only [endsBare, Bool.or_eq_false_iff, beq_eq_false_iff_ne] at noEnd
  obtain ⟨⟨⟨noComma, _⟩, noParenthesis⟩, _⟩ := noEnd
  simp [ending?, not_isBlank_of_isBarePart part, noComma, noParenthesis,
    not_opensComment_of_isBarePart part]

/-- What is read on behind a word is joined to it, and where nothing is, the word ends there. -/
theorem longestBare?_word {word rest : Text} (filled : word ≠ [])
    (parts : word.all isBarePart = true) :
    longestBare? (word ++ rest) =
      match longestBare? rest with
      | some (bare, last) => some (word ++ bare, last)
      | none => (ending? .outside rest).map fun last => (word, last) := by
  induction word with
  | nil => contradiction
  | cons c word ih =>
      rw [List.all_cons, Bool.and_eq_true] at parts
      rw [List.cons_append, longestBare?]
      simp only [not_endsBare_of_isBarePart parts.1, not_isBlank_of_isBarePart parts.1,
        not_opensComment_of_isBarePart parts.1]
      cases word with
      | nil => cases read : longestBare? rest <;> simp [read]
      | cons d word =>
          rw [ih (by simp) parts.2]
          rw [List.all_cons, Bool.and_eq_true] at parts
          cases longestBare? rest with
          | some read => simp
          | none => cases ending? .outside rest <;> simp [ending?_of_isBarePart parts.2.1]

/-- A bare value does not begin with a blank. -/
theorem longestBare?_blank {trail rest : Text} (blank : trail.allBlank = true)
    (unread : longestBare? rest = none) : longestBare? (trail ++ rest) = none := by
  induction trail with
  | nil => exact unread
  | cons c trail ih =>
      rw [allBlank, List.all_cons, Bool.and_eq_true] at blank
      rw [List.cons_append, longestBare?, ih blank.2, not_endsBare_of_isBlank blank.1]
      simp [blank.1]

theorem longestBare?_endMark {trail : Text} (blank : trail.allBlank = true) (isLast : Bool)
    (rest : Text) : longestBare? (trail ++ endMark isLast :: rest) = none := by
  apply longestBare?_blank blank
  cases isLast <;> rfl

theorem longestBare?_of_allBlank {trail : Text} (blank : trail.allBlank = true) :
    longestBare? trail = none := by
  rw [← List.append_nil trail]
  exact longestBare?_blank blank rfl

theorem not_beginsComment_blank {trail rest : Text} (blank : trail.allBlank = true)
    (none : beginsComment rest = false) : beginsComment (trail ++ rest) = false := by
  cases trail with
  | nil => exact none
  | cons c trail =>
      have noSlash : c ≠ '/' := by
        rintro rfl
        contradiction
      simp [beginsComment, opensComment, noSlash]

section

variable {lead : Text} (blank : lead.allBlank = true)
include blank

/-- A bare word is read together with all that can be read on behind it. -/
theorem value?_word {word rest : Text} (filled : word ≠ []) (parts : word.all isBarePart = true)
    (apart : word.length = 1 → beginsComment rest = false) :
    value? (lead ++ (word ++ rest)) =
      match longestBare? rest with
      | some (bare, last) => some ⟨.bare (word ++ bare), last.1, last.2⟩
      | none => (ending? .outside rest).map fun last => ⟨.bare word, last.1, last.2⟩ := by
  cases word with
  | nil => contradiction
  | cons c word =>
      rw [List.all_cons, Bool.and_eq_true] at parts
      have noQuote : c ≠ '\'' := by
        rintro rfl
        simp [isBarePart] at parts
      have noComment : beginsComment (word ++ rest) = false := by
        cases word with
        | nil => exact apart rfl
        | cons d word =>
            rw [List.all_cons, Bool.and_eq_true] at parts
            exact not_opensComment_of_isBarePart parts.2.1 _
      rw [value?, List.cons_append, skipBlanks_lead blank (not_isBlank_of_isBarePart parts.1)]
      simp only [noQuote, if_false, bare?, not_isBlank_of_isBarePart parts.1,
        not_endsBare_of_isBarePart parts.1, not_opensComment_of_isBarePart parts.1, noComment]
      cases word with
      | nil =>
          cases read : longestBare? rest with
          | some bare => simp [read]
          | none => cases ends : ending? .outside rest <;> simp [read, ends]
      | cons d word =>
          rw [longestBare?_word (by simp) parts.2]
          rw [List.all_cons, Bool.and_eq_true] at parts
          cases longestBare? rest with
          | some read => simp
          | none => cases ending? .outside rest <;> simp [ending?_of_isBarePart parts.2.1]

/-- A comment right behind a word of one letter ends the word. -/
theorem value?_letter {c : Char} (part : isBarePart c = true) {rest : Text}
    (comment : beginsComment rest = true) :
    value? (lead ++ c :: rest) =
      (ending? .outside rest).map fun last => ⟨.bare [c], last.1, last.2⟩ := by
  have noQuote : c ≠ '\'' := by
    rintro rfl
    contradiction
  rw [value?, skipBlanks_lead blank (not_isBlank_of_isBarePart part)]
  simp only [noQuote, if_false, bare?, not_isBlank_of_isBarePart part,
    not_endsBare_of_isBarePart part, not_opensComment_of_isBarePart part, comment]
  cases ending? .outside rest <;> simp

end

/-! ## Values -/

section

variable {lead : Text} (blank : lead.allBlank = true) (value : WrittenValue)
include blank

/-- Behind blanks stands a value, which no slash begins. -/
theorem skipBlanks_value_cons (rest : Text) :
    ∃ c others, (lead ++ (value.written ++ rest)).skipBlanks = c :: others ∧ c ≠ '/' := by
  cases value with
  | literal text noReturn =>
      refine ⟨'\'', double '\'' text ++ '\'' :: rest, ?_, by decide⟩
      rw [WrittenValue.written, literal_append, skipBlanks_lead blank rfl]
  | bare text filled parts =>
      obtain ⟨c, word, written⟩ := List.exists_cons_of_ne_nil filled
      have part : isBarePart c = true := List.all_eq_true.1 parts c (written ▸ List.mem_cons_self)
      refine ⟨c, word ++ rest, ?_, ?_⟩
      · rw [WrittenValue.written, written, List.cons_append,
          skipBlanks_lead blank (not_isBlank_of_isBarePart part)]
      · rintro rfl
        contradiction

variable {trail : Text} (blank' : trail.allBlank = true)
include blank'

/-- A value is read together with what ends it. -/
theorem value?_eq (isLast : Bool) (rest : Text) :
    value? (lead ++ (value.written ++ (trail ++ endMark isLast :: rest))) =
      some ⟨value.value, isLast, rest⟩ := by
  cases value with
  | literal text noReturn =>
      have alone : (trail ++ endMark isLast :: rest).head? ≠ some '\'' := by
        apply head?_ne_quote_of_allBlank blank'
        cases isLast <;> simp [endMark]
      rw [WrittenValue.written, literal_append, value?_quote blank, quotedRun?_double alone,
        Option.bind_some, skipCast_endMark blank', ending?_endMark blank']
      rfl
  | bare text filled parts =>
      have noComment : beginsComment (trail ++ endMark isLast :: rest) = false := by
        apply not_beginsComment_blank blank'
        cases isLast <;> rfl
      rw [WrittenValue.written, value?_word blank filled parts fun _ => noComment,
        longestBare?_endMark blank', ending?_endMark blank']
      rfl

/-- A value that nothing ends is no value. -/
theorem value?_unended : value? (lead ++ (value.written ++ trail)) = none := by
  cases value with
  | literal text noReturn =>
      have alone : trail.head? ≠ some '\'' := by
        rw [← List.append_nil trail]
        exact head?_ne_quote_of_allBlank blank' (by simp)
      rw [WrittenValue.written, literal_append, value?_quote blank, quotedRun?_double alone,
        Option.bind_some, skipCast_of_allBlank blank', ending?_of_allBlank blank']
      rfl
  | bare text filled parts =>
      have noComment : beginsComment trail = false := by
        rw [← List.append_nil trail]
        exact not_beginsComment_blank blank' rfl
      rw [WrittenValue.written, value?_word blank filled parts fun _ => noComment,
        longestBare?_of_allBlank blank', ending?_of_allBlank blank']
      rfl

/-- A value that nothing ends may be completed by the next line. -/
theorem valueMayFollow_unended : valueMayFollow (lead ++ (value.written ++ trail)) = true := by
  cases value with
  | literal text noReturn =>
      have alone : trail.head? ≠ some '\'' := by
        rw [← List.append_nil trail]
        exact head?_ne_quote_of_allBlank blank' (by simp)
      rw [WrittenValue.written, literal_append, valueMayFollow_quote blank,
        quotedRun?_double alone, Option.any_some, skipCast_of_allBlank blank', blank',
        Bool.true_or, Bool.or_true]
  | bare text filled parts =>
      obtain ⟨c, word, written⟩ := List.exists_cons_of_ne_nil filled
      have part : isBarePart c = true := List.all_eq_true.1 parts c (written ▸ List.mem_cons_self)
      have noEnd : (text ++ trail).all (fun d => !endsBare d) = true := by
        rw [List.all_append, Bool.and_eq_true, List.all_eq_true, List.all_eq_true]
        constructor
        · intro d mem
          rw [not_endsBare_of_isBarePart (List.all_eq_true.1 parts d mem), Bool.not_false]
        · intro d mem
          rw [not_endsBare_of_isBlank (List.all_eq_true.1 blank' d mem), Bool.not_false]
      have noQuote : c ≠ '\'' := by
        rintro rfl
        contradiction
      rw [written, List.cons_append] at noEnd
      rw [WrittenValue.written, written, List.cons_append, valueMayFollow,
        skipBlanks_lead blank (not_isBlank_of_isBarePart part)]
      simp only [noQuote, if_false, noEnd, Bool.or_true]

end

end SeedCatalog.Sql
