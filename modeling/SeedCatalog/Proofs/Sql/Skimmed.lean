import SeedCatalog.Proofs.Sql.Skip
import SeedCatalog.Proofs.Text.Line

/-!
# Words, marks and literals that are skipped

Behind its table a statement is made of words, marks and literals.  Such a text
is skipped to its end whatever its literals hold, as long as none of them is cut
by a line end.  Its lines are skipped one by one, and a line that begins or ends
inside a literal is no longer read as what it is.
-/

namespace SeedCatalog.Sql

open Text

/-- A word that begins no statement. -/
structure SkippedWord where
  text : Text
  letters : text.all isWord = true
  filled : text ≠ []
  noInsert : ¬Spells "INSERT".toList text
  noCopy : ¬Spells "COPY".toList text

/-- Whether a character is a mark of a list of columns or of rows. -/
def isMark (c : Char) : Bool :=
  c == '(' || c == ')' || c == ',' || c == ';'

/-- The text is made of blanks, marks, words and literals, or is cut out of such a text, between a
place outside or inside of a literal and another.  Literals hold characters of a class. -/
inductive Skimmed (inLiteral : Char → Prop) : (inside : Bool) → Text → (ends : Bool) → Prop
  | nil {inside : Bool} : Skimmed inLiteral inside [] inside
  | blank {c : Char} {rest : Text} {ends : Bool} (blank : isBlank c = true)
      (further : Skimmed inLiteral false rest ends) : Skimmed inLiteral false (c :: rest) ends
  | mark {c : Char} {rest : Text} {ends : Bool} (mark : isMark c = true)
      (further : Skimmed inLiteral false rest ends) : Skimmed inLiteral false (c :: rest) ends
  | word {rest : Text} {ends : Bool} (word : SkippedWord) (stops : rest.stopsAt isWord = true)
      (further : Skimmed inLiteral false rest ends) :
      Skimmed inLiteral false (word.text ++ rest) ends
  | opening {rest : Text} {ends : Bool} (further : Skimmed inLiteral true rest ends) :
      Skimmed inLiteral false ('\'' :: rest) ends
  | inside {c : Char} {rest : Text} {ends : Bool} (other : c ≠ '\'') (among : inLiteral c)
      (further : Skimmed inLiteral true rest ends) : Skimmed inLiteral true (c :: rest) ends
  | doubled {rest : Text} {ends : Bool} (among : inLiteral '\'')
      (further : Skimmed inLiteral true rest ends) :
      Skimmed inLiteral true ('\'' :: '\'' :: rest) ends
  | closing {rest : Text} {ends : Bool} (alone : rest.head? ≠ some '\'')
      (further : Skimmed inLiteral false rest ends) : Skimmed inLiteral true ('\'' :: rest) ends

theorem not_isBlank_of_isMark {c : Char} (mark : isMark c = true) : isBlank c = false := by
  simp only [isMark, Bool.or_eq_true, beq_iff_eq] at mark
  rcases mark with ((rfl | rfl) | rfl) | rfl <;> rfl

theorem not_isWord_of_isMark {c : Char} (mark : isMark c = true) : isWord c = false := by
  simp only [isMark, Bool.or_eq_true, beq_iff_eq] at mark
  rcases mark with ((rfl | rfl) | rfl) | rfl <;> rfl

theorem isInert_of_isMark {c : Char} (mark : isMark c = true) : isInert c = true := by
  simp only [isMark, Bool.or_eq_true, beq_iff_eq] at mark
  rcases mark with ((rfl | rfl) | rfl) | rfl <;> rfl

theorem isInert_of_isBlank {c : Char} (blank : isBlank c = true) : isInert c = true := by
  simp only [isInert, Bool.and_eq_true, bne_iff_ne]
  refine ⟨⟨⟨?_, ?_⟩, ?_⟩, ?_⟩
  all_goals
    rintro rfl
    contradiction

namespace SkippedWord

variable (word : SkippedWord)

theorem isWord_of_mem {c : Char} (mem : c ∈ word.text) : isWord c = true :=
  List.all_eq_true.1 word.letters c mem

theorem exists_cons : ∃ c others, word.text = c :: others ∧ isWord c = true := by
  obtain ⟨c, others, written⟩ := List.exists_cons_of_ne_nil word.filled
  exact ⟨c, others, written, word.isWord_of_mem (by rw [written]; exact List.mem_cons_self)⟩

theorem closed : Closed word.text :=
  closed_of_all (List.all_eq_true.2 fun _ mem => isInert_of_isWord (word.isWord_of_mem mem))

theorem not_mem_of_isBlank {c : Char} (blank : isBlank c = true) : c ∉ word.text := by
  intro mem
  have word := word.isWord_of_mem mem
  rw [not_isWord_of_isBlank blank] at word
  contradiction

/-- A text with a blank in it is cut there behind its first word. -/
theorem exists_append {first rest behind : Text} {c : Char} (blank : isBlank c = true)
    (written : first ++ c :: rest = word.text ++ behind) :
    ∃ first', first = word.text ++ first' ∧ behind = first' ++ c :: rest := by
  rcases List.append_eq_append_iff.1 written with ⟨others, inWord, cut⟩ | ⟨first', same, behind⟩
  · cases others with
    | nil => exact ⟨[], by rw [inWord, List.append_nil, List.append_nil], cut.symm⟩
    | cons d others =>
        cases cut
        refine absurd ?_ (word.not_mem_of_isBlank blank)
        rw [inWord]
        exact List.mem_append_right first List.mem_cons_self
  · exact ⟨first', same, behind⟩

theorem beginsStatement_append {rest : Text} (stops : rest.stopsAt isWord = true) :
    beginsStatement (word.text ++ rest) = false := by
  have first : (word.text ++ rest).takeWhile isWord = word.text := by
    rw [takeWhile_append stops, List.takeWhile_eq_self_iff]
    exact fun c mem => word.isWord_of_mem mem
  rw [Bool.eq_false_iff, ne_eq, beginsStatement_iff, first, not_or]
  exact ⟨word.noInsert, word.noCopy⟩

end SkippedWord

namespace Skimmed

variable {inLiteral : Char → Prop} {inside ends : Bool} {text : Text}

/-- Outside of literals a text begins with a blank, a mark, a word or a literal. -/
theorem cases_cons {c : Char} {rest : Text} (skimmed : Skimmed inLiteral false (c :: rest) ends) :
    ((isBlank c = true ∨ isMark c = true) ∧ Skimmed inLiteral false rest ends) ∨
      (∃ (word : SkippedWord) (others behind : Text), word.text = c :: others ∧
        isWord c = true ∧ rest = others ++ behind ∧ behind.stopsAt isWord = true ∧
          Skimmed inLiteral false behind ends) ∨
      c = '\'' ∧ Skimmed inLiteral true rest ends := by
  generalize begins : c :: rest = text at skimmed
  cases skimmed with
  | nil => contradiction
  | blank blank further =>
      cases begins
      exact .inl ⟨.inl blank, further⟩
  | mark mark further =>
      cases begins
      exact .inl ⟨.inr mark, further⟩
  | word word stops further =>
      obtain ⟨d, others, written, letter⟩ := word.exists_cons
      rw [written] at begins
      cases begins
      exact .inr (.inl ⟨word, others, _, written, letter, rfl, stops, further⟩)
  | opening further =>
      cases begins
      exact .inr (.inr ⟨rfl, further⟩)

/-- Outside of literals stand blanks, marks, letters, and the quotes that open literals. -/
theorem first {c : Char} {rest : Text} (skimmed : Skimmed inLiteral false (c :: rest) ends) :
    isBlank c = true ∨ isMark c = true ∨ isWord c = true ∨ c = '\'' := by
  rcases skimmed.cases_cons with ⟨blank | mark, _⟩ | ⟨_, _, _, _, letter, _⟩ | ⟨quote, _⟩
  · exact .inl blank
  · exact .inr (.inl mark)
  · exact .inr (.inr (.inl letter))
  · exact .inr (.inr (.inr quote))

/-- What is skipped at once ends outside of literals. -/
theorem dropWhile (skimmed : Skimmed inLiteral false text ends) :
    Skimmed inLiteral false (text.dropWhile isSkippedAtOnce) ends := by
  generalize outside : false = inside at skimmed
  induction skimmed with
  | nil => exact .nil
  | @blank c rest ends blank further _ =>
      have stops : ¬isSkippedAtOnce c = true := by simp [isSkippedAtOnce, blank]
      rw [List.dropWhile_cons_of_neg stops]
      exact .blank blank further
  | @mark c rest ends mark further ih =>
      by_cases atOnce : isSkippedAtOnce c = true
      · rw [List.dropWhile_cons_of_pos atOnce]
        exact ih rfl
      · rw [List.dropWhile_cons_of_neg atOnce]
        exact .mark mark further
  | word word stops further ih =>
      rw [List.dropWhile_append_of_pos fun c mem =>
        isSkippedAtOnce_of_isWord (word.isWord_of_mem mem)]
      exact ih rfl
  | opening further _ => exact .opening further
  | inside | doubled | closing => contradiction

/-- A literal that ends is read as a whole. -/
theorem exists_quotedRun? (skimmed : Skimmed inLiteral true text ends) (closed : ends = false) :
    ∃ run, quotedRun? '\'' text = some run ∧ Skimmed inLiteral false run.2 ends := by
  generalize within : true = inside at skimmed
  induction skimmed with
  | nil =>
      rw [closed] at within
      contradiction
  | blank | mark | word | opening => contradiction
  | @inside c rest ends other _ _ ih =>
      obtain ⟨run, read, further⟩ := ih closed rfl
      refine ⟨(c :: run.1, run.2), ?_, further⟩
      rw [quotedRun?_cons other, read, Option.map_some]
  | doubled _ _ ih =>
      obtain ⟨⟨inside, after⟩, read, further⟩ := ih closed rfl
      exact ⟨('\'' :: '\'' :: inside, after), by simp [quotedRun?, read], further⟩
  | @closing rest ends alone further _ =>
      refine ⟨([], rest), ?_, further⟩
      cases rest with
      | nil => rfl
      | cons c rest =>
          have other : c ≠ '\'' := by simpa using alone
          simp [quotedRun?, other]

/-- The text is cut at a character into two pieces of this kind.  Literals may hold the character if
it stands in one. -/
def IsCut (inLiteral : Char → Prop) (c : Char) (inside : Bool) (first rest : Text) (ends : Bool) :
    Prop :=
  ∃ between, Skimmed inLiteral inside first between ∧ Skimmed inLiteral between rest ends ∧
    (between = true → inLiteral c)

/-- What stands in front of the first piece stays in front of it. -/
theorem IsCut.behind {c : Char} {inside' : Bool} {first first' rest : Text}
    (step : ∀ {between}, Skimmed inLiteral inside first between →
      Skimmed inLiteral inside' first' between)
    (isCut : IsCut inLiteral c inside first rest ends) :
    IsCut inLiteral c inside' first' rest ends :=
  have ⟨between, before, behind, among⟩ := isCut
  ⟨between, step before, behind, among⟩

theorem exists_cons_of_append_eq {c d : Char} (other : c ≠ d) {first rest : Text}
    (written : first ++ c :: rest = d :: text) :
    ∃ first', first = d :: first' ∧ first' ++ c :: rest = text := by
  cases first with
  | nil =>
      cases written
      contradiction
  | cons e first =>
      cases written
      exact ⟨first, rfl, rfl⟩

/-- A text of this kind may be cut at a blank; inside a literal the blank is one of the characters
that the literal holds. -/
theorem cut {first rest : Text} {c : Char} (blank : isBlank c = true)
    (skimmed : Skimmed inLiteral inside (first ++ c :: rest) ends) :
    IsCut inLiteral c inside first rest ends := by
  have noQuote : c ≠ '\'' := by
    rintro rfl
    contradiction
  generalize written : first ++ c :: rest = text at skimmed
  -- A blank stands in no word and beside no quote of a pair, so that each piece of the text is left
  -- whole by the cut.
  induction skimmed generalizing first with
  | nil => simp at written
  | blank blank' further ih =>
      cases first with
      | nil =>
          cases written
          exact ⟨false, .nil, further, nofun⟩
      | cons d first =>
          cases written
          exact (ih rfl).behind (.blank blank')
  | @mark d _ _ mark further ih =>
      have noMark : c ≠ d := by
        rintro rfl
        simp [not_isBlank_of_isMark mark] at blank
      obtain ⟨first, rfl, rfl⟩ := exists_cons_of_append_eq noMark written
      exact (ih rfl).behind (.mark mark)
  | word word stops further ih =>
      obtain ⟨first, rfl, rfl⟩ := word.exists_append blank written
      refine (ih rfl).behind (.word word ?_)
      cases first with
      | nil => rfl
      | cons d first => exact stops
  | opening further ih =>
      obtain ⟨first, rfl, rfl⟩ := exists_cons_of_append_eq noQuote written
      exact (ih rfl).behind .opening
  | inside other among further ih =>
      cases first with
      | nil =>
          cases written
          exact ⟨true, .nil, further, fun _ => among⟩
      | cons d first =>
          cases written
          exact (ih rfl).behind (.inside other among)
  | doubled among further ih =>
      obtain ⟨first, rfl, quoted⟩ := exists_cons_of_append_eq noQuote written
      obtain ⟨first, rfl, rfl⟩ := exists_cons_of_append_eq noQuote quoted
      exact (ih rfl).behind (.doubled among)
  | closing alone further ih =>
      obtain ⟨first, rfl, rfl⟩ := exists_cons_of_append_eq noQuote written
      refine (ih rfl).behind (.closing ?_)
      cases first with
      | nil => exact nofun
      | cons e first => exact alone

/-- A blank may follow, as far as literals may hold it. -/
theorem concat {c : Char} (blank : isBlank c = true) (among : ends = true → inLiteral c)
    (skimmed : Skimmed inLiteral inside text ends) :
    Skimmed inLiteral inside (text ++ [c]) ends := by
  have noQuote : c ≠ '\'' := by
    rintro rfl
    contradiction
  induction skimmed with
  | @nil inside =>
      cases inside with
      | false => exact .blank blank .nil
      | true => exact .inside noQuote (among rfl) .nil
  | blank blank' _ ih => exact .blank blank' (ih among)
  | mark mark _ ih => exact .mark mark (ih among)
  | @word rest ends word stops _ ih =>
      rw [List.append_assoc]
      refine .word word ?_ (ih among)
      cases rest with
      | nil => simp [stopsAt, not_isWord_of_isBlank blank]
      | cons d rest => exact stops
  | opening _ ih => exact .opening (ih among)
  | inside other among' _ ih => exact .inside other among' (ih among)
  | doubled among' _ ih => exact .doubled among' (ih among)
  | @closing rest ends alone _ ih =>
      refine .closing ?_ (ih among)
      cases rest with
      | nil => simpa using noQuote
      | cons d rest => exact alone

/-- No line comment begins in a text of this kind. -/
theorem dropLineCommentFrom_eq (skimmed : Skimmed inLiteral inside text ends) :
    dropLineCommentFrom (if inside then .quoted '\'' else .plain) text = text := by
  induction skimmed with
  | nil => rfl
  | blank blank _ ih =>
      have closed := closed_singleton (isInert_of_isBlank blank)
      exact (closed _).trans (congrArg _ ih)
  | mark mark _ ih =>
      have closed := closed_singleton (isInert_of_isMark mark)
      exact (closed _).trans (congrArg _ ih)
  | word word _ _ ih => exact (word.closed _).trans (congrArg _ ih)
  | opening _ ih => exact (dropLineComment_quote _).trans (congrArg _ ih)
  | inside other _ _ ih =>
      simpa [dropLineCommentFrom, Surrounding.beginsLineComment, Surrounding.next, other] using ih
  | doubled _ _ ih =>
      simpa [dropLineCommentFrom, Surrounding.beginsLineComment, Surrounding.next] using ih
  | closing _ _ ih =>
      simpa [dropLineCommentFrom, Surrounding.beginsLineComment, Surrounding.next] using ih

end Skimmed

/-! ## Lines -/

/-- Whether a place is inside a literal, behind a text that begins at another place.  A doubled
quote leaves the literal and enters it again. -/
def endsInside : (inside : Bool) → Text → Bool
  | inside, [] => inside
  | inside, c :: rest => endsInside (if c = '\'' then !inside else inside) rest

/-- The lines that begin or end inside a literal. -/
def brokenLines : (inside : Bool) → List Text → List Text
  | _, [] => []
  | inside, line :: others =>
      let ends := endsInside inside line
      if inside || ends then line :: brokenLines ends others else brokenLines ends others

theorem endsInside_of_notMem {text : Text} (noQuote : '\'' ∉ text) (inside : Bool) :
    endsInside inside text = inside := by
  induction text with
  | nil => rfl
  | cons c text ih =>
      rw [List.mem_cons, not_or] at noQuote
      rw [endsInside, if_neg (Ne.symm noQuote.1), ih noQuote.2]

theorem endsInside_append (inside : Bool) (first second : Text) :
    endsInside inside (first ++ second) = endsInside (endsInside inside first) second := by
  induction first generalizing inside with
  | nil => rfl
  | cons c first ih => exact ih _

namespace Skimmed

variable {inLiteral : Char → Prop} {inside ends : Bool} {text : Text}

theorem endsInside_eq (skimmed : Skimmed inLiteral inside text ends) :
    endsInside inside text = ends := by
  induction skimmed with
  | nil => rfl
  | blank blank _ ih =>
      rw [endsInside, if_neg, ih]
      rintro rfl
      contradiction
  | mark mark _ ih =>
      rw [endsInside, if_neg, ih]
      rintro rfl
      contradiction
  | word word _ _ ih =>
      have noQuote : '\'' ∉ word.text := fun mem => nomatch word.isWord_of_mem mem
      rw [endsInside_append, endsInside_of_notMem noQuote, ih]
  | opening _ ih => exact ih
  | inside other _ _ ih => rw [endsInside, if_neg other, ih]
  | doubled _ _ ih => exact ih
  | closing _ _ ih => exact ih

/-- Where a line end is dropped outside of literals, the rest of the line ends there too. -/
theorem of_append {lineEnd : Text} (lineEnds : ∀ c ∈ lineEnd, c = '\r' ∨ c = '\n')
    (skimmed : Skimmed inLiteral inside (text ++ lineEnd) false) :
    Skimmed inLiteral inside text false := by
  cases lineEnd with
  | nil => rwa [List.append_nil] at skimmed
  | cons c lineEnd =>
      have blank : isBlank c = true := by
        rcases lineEnds c List.mem_cons_self with rfl | rfl <;> rfl
      have noQuote : '\'' ∉ lineEnd := by
        intro mem
        rcases lineEnds _ (List.mem_cons_of_mem c mem) with same | same <;> contradiction
      obtain ⟨between, before, behind, _⟩ := skimmed.cut blank
      have outside : between = false := by
        rw [← endsInside_of_notMem noQuote between, behind.endsInside_eq]
      rwa [outside] at before

/-- What is scanned of a line of whole literals is of its kind. -/
theorem dropLineComment {line : Text} (skimmed : Skimmed inLiteral false line false) :
    Skimmed inLiteral false (dropLineComment (dropLineEnd line) ++ ['\n']) false := by
  obtain ⟨lineEnd, cut, lineEnds⟩ := exists_dropLineEnd_append line
  rw [cut] at skimmed
  have kept := skimmed.of_append lineEnds
  have same : Sql.dropLineComment (dropLineEnd line) = dropLineEnd line :=
    kept.dropLineCommentFrom_eq
  rw [same]
  exact kept.concat rfl nofun

/-- A line of a text of this kind is of this kind as well, unless it begins or ends inside a
literal. -/
theorem of_mem_lines {line : Text} (skimmed : Skimmed inLiteral inside text false)
    (mem : line ∈ text.lines) :
    line ∈ brokenLines inside text.lines ∨ Skimmed inLiteral false line false := by
  induction text using lineInduction generalizing inside with
  | nil => contradiction
  | @last text filled noFeed =>
      rw [lines_of_notMem filled noFeed] at mem ⊢
      cases List.mem_singleton.1 mem
      cases inside with
      | true => exact .inl (by simp [brokenLines])
      | false => exact .inr skimmed
  | @line piece rest noFeed ih =>
      obtain ⟨between, before, behind, among⟩ := skimmed.cut (c := '\n') rfl
      have whole := before.concat rfl among
      rw [lines_append_newline noFeed] at mem ⊢
      rw [brokenLines, whole.endsInside_eq]
      rcases List.mem_cons.1 mem with rfl | mem
      · cases inside with
        | true => exact .inl (by simp)
        | false =>
            cases between with
            | true => exact .inl (by simp)
            | false => exact .inr whole
      · refine (ih behind mem).imp_left fun broken => ?_
        split
        · exact List.mem_cons_of_mem _ broken
        · exact broken

/-- Where literals do not run over line ends, no line begins or ends inside of one. -/
theorem brokenLines_eq_nil (noFeed : ¬inLiteral '\n')
    (skimmed : Skimmed inLiteral false text false) : brokenLines false text.lines = [] := by
  induction text using lineInduction with
  | nil => rfl
  | @last text filled noFeed' =>
      rw [lines_of_notMem filled noFeed', brokenLines, skimmed.endsInside_eq]
      rfl
  | @line piece rest noFeed' ih =>
      obtain ⟨between, before, behind, among⟩ := skimmed.cut (c := '\n') rfl
      have outside : between = false := by
        cases between with
        | true => exact absurd (among rfl) noFeed
        | false => rfl
      subst outside
      rw [lines_append_newline noFeed', brokenLines, (before.concat rfl among).endsInside_eq,
        ih behind]
      rfl

/-! ## How texts of this kind are put together -/

theorem append_blank {lead : Text} (blank : lead.allBlank = true)
    (skimmed : Skimmed inLiteral false text ends) :
    Skimmed inLiteral false (lead ++ text) ends := by
  induction lead with
  | nil => exact skimmed
  | cons c lead ih =>
      rw [Text.allBlank, List.all_cons, Bool.and_eq_true] at blank
      exact .blank blank.1 (ih blank.2)

end Skimmed

/-- Whether a word or a literal in front of the character goes on with it. -/
def continuesValue (c : Char) : Bool :=
  isWord c || c == '\''

theorem stopsAt_isWord_of_continuesValue {text : Text}
    (stops : text.stopsAt continuesValue = true) : text.stopsAt isWord = true := by
  cases text with
  | nil => rfl
  | cons c text => simp_all [stopsAt, continuesValue]

theorem not_continuesValue_of_isBlank (c : Char) (blank : isBlank c = true) :
    continuesValue c = false := by
  rw [continuesValue, not_isWord_of_isBlank blank, Bool.false_or, beq_eq_false_iff_ne]
  rintro rfl
  contradiction

theorem not_continuesValue_of_isMark {c : Char} (mark : isMark c = true) :
    continuesValue c = false := by
  rw [continuesValue, not_isWord_of_isMark mark, Bool.false_or, beq_eq_false_iff_ne]
  rintro rfl
  contradiction

/-- The text is skipped in front of every text that is skipped and does not go on with it. -/
def SkimmedBefore (inLiteral : Char → Prop) (text : Text) : Prop :=
  ∀ rest : Text, rest.stopsAt continuesValue = true → Skimmed inLiteral false rest false →
    Skimmed inLiteral false (text ++ rest) false

theorem SkippedWord.skimmedBefore {inLiteral : Char → Prop} (word : SkippedWord) :
    SkimmedBefore inLiteral word.text :=
  fun _ stops => .word word (stopsAt_isWord_of_continuesValue stops)

theorem skimmedBefore_literal {inLiteral : Char → Prop} {content : Text}
    (among : ∀ c ∈ content, inLiteral c) : SkimmedBefore inLiteral (literal content) := by
  intro rest stops skimmed
  have alone : rest.head? ≠ some '\'' := by
    intro quote
    simp [stopsAt, quote, continuesValue] at stops
  rw [literal_append]
  refine .opening ?_
  induction content with
  | nil => exact .closing alone skimmed
  | cons c content ih =>
      rw [List.forall_mem_cons] at among
      rw [double]
      split
      · rename_i quote
        exact .doubled (quote ▸ among.1) (ih among.2)
      · rename_i other
        exact .inside other among.1 (ih among.2)

/-- Texts of words, marks and whole literals are skipped to their ends. -/
theorem skippable_skimmed (inLiteral : Char → Prop) :
    Skippable fun text => Skimmed inLiteral false text false where
  blank := by
    intro c rest blank skimmed
    rcases skimmed.cases_cons with ⟨_, further⟩ | ⟨_, _, _, _, letter, _⟩ | ⟨rfl, _⟩
    · exact further
    · simp [not_isWord_of_isBlank blank] at letter
    · contradiction
  noMarker := by
    rintro c rest filled skimmed ⟨rfl, _⟩
    rcases skimmed.first with blank | mark | letter | quote <;> contradiction
  noStatement := by
    intro c rest filled skimmed
    rcases skimmed.cases_cons with ⟨blank | mark, _⟩ |
      ⟨word, others, behind, written, _, rfl, stops, _⟩ | ⟨rfl, _⟩
    · simp [blank] at filled
    · exact beginsStatement_of_stopsAt (by simp [stopsAt, not_isWord_of_isMark mark])
    · rw [← List.cons_append, ← written]
      exact word.beginsStatement_append stops
    · exact beginsStatement_of_stopsAt rfl
  backslash := by
    intro rest skimmed
    rcases skimmed.first with blank | mark | letter | quote <;> contradiction
  token := by
    intro c rest filled skimmed
    rcases skimmed.cases_cons with ⟨blank | mark, further⟩ |
      ⟨word, others, behind, written, letter, rfl, stops, further⟩ | ⟨rfl, further⟩
    · simp [blank] at filled
    · rw [behindToken_of_inert (isInert_of_isMark mark)]
      split
      · exact further.dropWhile
      · exact further
    · have atOnce : ∀ d ∈ others, isSkippedAtOnce d = true := fun d mem =>
        isSkippedAtOnce_of_isWord (word.isWord_of_mem (by simp [written, mem]))
      rw [behindToken_of_inert (isInert_of_isWord letter),
        if_pos (isSkippedAtOnce_of_isWord letter), List.dropWhile_append_of_pos atOnce]
      exact further.dropWhile
    · obtain ⟨run, read, further⟩ := further.exists_quotedRun? rfl
      rw [behindToken, if_pos (.inl rfl), read]
      exact further

end SeedCatalog.Sql
