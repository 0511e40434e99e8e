import SeedCatalog.Proofs.Sql.Value

/-!
# What a value takes from the text

A value that is read takes blanks, the value itself, blanks and comments behind
it, and the comma or the parenthesis that ends it.  A comment behind a value is
read to its first closing marker wherever the value can end in this way; only
where it cannot is the comment read on.
-/

namespace SeedCatalog.Sql

open Text

/-- Blanks and block comments; the insides of the comments have a property. -/
inductive Comments (holds : Text → Prop) : Text → Prop
  | nil : Comments holds []
  | blank {c : Char} {rest : Text} (blank : isBlank c = true) (others : Comments holds rest) :
      Comments holds (c :: rest)
  | comment {body rest : Text} (inside : holds body) (others : Comments holds rest) :
      Comments holds ('/' :: '*' :: (body ++ '*' :: '/' :: rest))

/-- The inside of a comment that ends at its first closing marker. -/
def ClosesFirst (body : Text) : Prop :=
  ¬['*', '/'] <:+: body

instance (body : Text) : Decidable (ClosesFirst body) :=
  inferInstanceAs (Decidable (¬['*', '/'] <:+: body))

/-- Two colons and the name of a type, which the brackets of an array may follow. -/
def IsCast (text : Text) : Prop :=
  ∃ (lead gap : Text) (c : Char) (name brackets : Text),
    text = lead ++ ':' :: ':' :: (gap ++ c :: (name ++ brackets)) ∧
      lead.allBlank = true ∧ gap.allBlank = true ∧ beginsIdentifier c = true ∧
      name.all continuesType = true ∧ (brackets = [] ∨ brackets = ['[', ']'])

/-- A run of characters that end no bare value, between two characters that are no blanks.  No
comment opens at its first character or right behind it; comments further on are a part of it. -/
structure IsBare (text : Text) : Prop where
  filled : text ≠ []
  inside : ∀ c ∈ text, endsBare c = false
  begins : ∀ c, text.head? = some c → isBlank c = false
  ends : ∀ c, text.getLast? = some c → isBlank c = false
  noComment : ¬['/', '*'] <+: text
  noCommentBehind : ¬['/', '*'] <+: text.tail

/-- A value as it is written: a literal, perhaps with a cast, or a bare value. -/
inductive IsValue : Text → Prop
  | literal (text : Text) {cast : Text} (casts : cast = [] ∨ IsCast cast) :
      IsValue (literal text ++ cast)
  | bare {text : Text} (isBare : IsBare text) : IsValue text

theorem decodeLiteral_quotes (inside : Text) :
    decodeLiteral ('\'' :: (inside ++ ['\''])) = undouble '\'' inside := by
  obtain ⟨c, rest, written⟩ :=
    List.exists_cons_of_ne_nil (List.append_ne_nil_of_right_ne_nil inside (by simp : ['\''] ≠ []))
  have last : (c :: rest).getLast (by simp) = '\'' := by simp [← written]
  have front : (c :: rest).dropLast = inside := by rw [← written, List.dropLast_concat]
  simp [decodeLiteral, written, last, front]

/-- A literal stands for the text that was written. -/
theorem decodeLiteral_literal (text : Text) : decodeLiteral (literal text) = text := by
  rw [literal, List.cons_append, decodeLiteral_quotes, undouble_double]

/-- The text of a quoted value is that of the literal. -/
theorem Value.text_quoted (inside : Text) :
    (Value.quoted inside).text = decodeLiteral ('\'' :: (inside ++ ['\''])) :=
  (decodeLiteral_quotes inside).symm

/-- A text of which one value is taken: blanks, a value that holds no comment, blanks and comments
closed at their first markers, and the mark that ends the value. -/
def TakesOneValue (text rest : Text) : Prop :=
  ∃ lead value trail isLast, text = lead ++ (value ++ (trail ++ endMark isLast :: rest)) ∧
    lead.allBlank = true ∧ IsValue value ∧ (IsBare value → ¬['/', '*'] <:+: value) ∧
    Comments ClosesFirst trail

/-! ## What ends a value -/

/-- The text up to the closing marker of a comment, and blanks and comments behind it. -/
def ClosesComment (piece : Text) : Prop :=
  ∃ body trail, Comments (fun _ => True) trail ∧ piece = body ++ '*' :: '/' :: trail

/-- What stands between a place behind a value and the end of the value. -/
def CommentPlace.Remains : CommentPlace → Text → Prop
  | .outside, piece => Comments (fun _ => True) piece
  | .opening, piece => ∃ c others, ClosesComment others ∧ piece = c :: others
  | .closing, piece => ∃ c trail, Comments (fun _ => True) trail ∧ piece = c :: trail
  | .unclosed, piece => ClosesComment piece
  | .readOn, piece => ClosesComment piece

/-- In a comment, either its closing marker stands here and the value ends behind it, or the
comment is read on. -/
theorem ending?_inside {place : CommentPlace} {c : Char} {rest : Text} {last : Bool × Text}
    (inside : place = .unclosed ∨ place = .readOn) (read : ending? place (c :: rest) = some last) :
    (c = '*' ∧ rest.head? = some '/' ∧ ending? .closing rest = some last) ∨
      ∃ further, (further = .unclosed ∨ further = .readOn) ∧ ending? further rest = some last := by
  have cases : (c = '*' ∧ rest.head? = some '/' ∧ ending? .closing rest = some last) ∨
      ending? .readOn rest = some last ∨ ending? place rest = some last := by
    rcases inside with rfl | rfl
    all_goals
      simp only [ending?] at read
      split at read
      · rename_i marker
        split at read
        · exact .inl ⟨marker.1, marker.2, by rwa [← read]⟩
        · exact .inr (.inl read)
      · exact .inr (.inr read)
  rcases cases with closed | read | read
  · exact .inl closed
  · exact .inr ⟨.readOn, .inr rfl, read⟩
  · exact .inr ⟨place, inside, read⟩

section

variable {c : Char} {rest : Text} {last : Bool × Text}
  (behind : ∀ {place}, ending? place rest = some last →
    ∃ piece, place.Remains piece ∧ rest = piece ++ endMark last.1 :: last.2)
include behind

/-- One character further on outside all comments. -/
theorem comments_of_ending? (read : ending? .outside (c :: rest) = some last) :
    ∃ piece, Comments (fun _ => True) piece ∧ c :: rest = piece ++ endMark last.1 :: last.2 := by
  rw [ending?] at read
  split at read
  · rename_i blank
    obtain ⟨piece, comments, written⟩ := behind read
    exact ⟨c :: piece, .blank blank comments, by rw [written, List.cons_append]⟩
  · split at read
    · rename_i comma
      cases read
      exact ⟨[], .nil, by rw [comma]; rfl⟩
    · split at read
      · rename_i parenthesis
        cases read
        exact ⟨[], .nil, by rw [parenthesis]; rfl⟩
      · split at read
        · rename_i opens
          obtain ⟨-, ⟨d, -, ⟨body, trail, comments, rfl⟩, rfl⟩, written⟩ := behind read
          simp only [opensComment, written, Bool.and_eq_true, decide_eq_true_eq, List.cons_append,
            List.head?_cons, Option.some.injEq] at opens
          obtain ⟨rfl, rfl⟩ := opens
          have comment : Comments (fun _ => True) ('/' :: '*' :: (body ++ '*' :: '/' :: trail)) :=
            .comment trivial comments
          exact ⟨_, comment, by rw [written]; rfl⟩
        · contradiction

/-- One character further on in a comment. -/
theorem closesComment_of_ending? {place : CommentPlace}
    (inside : place = .unclosed ∨ place = .readOn) (read : ending? place (c :: rest) = some last) :
    ∃ piece, ClosesComment piece ∧ c :: rest = piece ++ endMark last.1 :: last.2 := by
  rcases ending?_inside inside read with ⟨rfl, slash, closed⟩ | ⟨further, inside, read⟩
  · obtain ⟨-, ⟨d, trail, comments, rfl⟩, written⟩ := behind closed
    rw [written, List.cons_append, List.head?_cons, Option.some.injEq] at slash
    subst slash
    exact ⟨_, ⟨[], trail, comments, rfl⟩, by rw [written]; rfl⟩
  · obtain ⟨piece, remains, written⟩ := behind read
    have closes : ClosesComment piece := by rcases inside with rfl | rfl <;> exact remains
    obtain ⟨body, trail, comments, rfl⟩ := closes
    exact ⟨_, ⟨c :: body, trail, comments, rfl⟩, by rw [written]; rfl⟩

end

/-- Blanks and comments stand in front of what ends a value. -/
theorem exists_remains_of_ending? {place : CommentPlace} {text : Text} {last : Bool × Text}
    (read : ending? place text = some last) :
    ∃ piece, place.Remains piece ∧ text = piece ++ endMark last.1 :: last.2 := by
  induction text generalizing place with
  | nil => simp [ending?] at read
  | cons c rest ih =>
      cases place with
      | outside => exact comments_of_ending? ih read
      | opening =>
          rw [ending?] at read
          obtain ⟨piece, closes, written⟩ := ih read
          exact ⟨c :: piece, ⟨c, piece, closes, rfl⟩, by rw [written, List.cons_append]⟩
      | closing =>
          rw [ending?] at read
          obtain ⟨piece, comments, written⟩ := ih read
          exact ⟨c :: piece, ⟨c, piece, comments, rfl⟩, by rw [written, List.cons_append]⟩
      | unclosed => exact closesComment_of_ending? ih (.inl rfl) read
      | readOn => exact closesComment_of_ending? ih (.inr rfl) read

/-! ## Comments closed at their first markers -/

theorem ClosesFirst.of_cons {c : Char} {body : Text} (first : ClosesFirst (c :: body)) :
    ClosesFirst body :=
  fun marker => first (marker.trans (List.infix_cons_iff.2 (.inr (List.infix_refl body))))

/-- No closing marker stands at the beginning of a comment that goes on. -/
theorem ClosesFirst.not_marker {c : Char} {body : Text} (first : ClosesFirst (c :: body))
    (after : Text) : ¬(c = '*' ∧ (body ++ '*' :: after).head? = some '/') := by
  rintro ⟨rfl, slash⟩
  cases body with
  | nil => simp at slash
  | cons d body =>
      rw [List.cons_append, List.head?_cons, Option.some.injEq] at slash
      subst slash
      exact first ⟨[], body, rfl⟩

/-- A comment is read to its first closing marker, if the value can end there. -/
theorem ending?_unclosed {body after : Text} {last : Bool × Text} (first : ClosesFirst body)
    (read : ending? .outside after = some last) :
    ending? .unclosed (body ++ '*' :: '/' :: after) = some last := by
  induction body with
  | nil => simp [ending?, read]
  | cons c body ih =>
      rw [List.cons_append, ending?, if_neg (first.not_marker _)]
      · exact ih first.of_cons
      all_goals simp

theorem ending?_comment {body after : Text} {last : Bool × Text} (first : ClosesFirst body)
    (read : ending? .outside after = some last) :
    ending? .outside ('/' :: '*' :: (body ++ '*' :: '/' :: after)) = some last :=
  ending?_unclosed first read

/-- Behind comments closed at their first markers a value ends. -/
theorem ending?_comments {trail : Text} (comments : Comments ClosesFirst trail) (isLast : Bool)
    (rest : Text) : ending? .outside (trail ++ endMark isLast :: rest) = some (isLast, rest) := by
  induction comments with
  | nil => cases isLast <;> rfl
  | blank blank _ ih => rw [List.cons_append, ending?, if_pos blank, ih]
  | comment first _ ih =>
      have read := ending?_comment first ih
      simpa only [List.cons_append, List.append_assoc] using read

/-! ## The value itself -/

/-- What is read of a run is a text whose quotes are doubled. -/
theorem exists_double_of_quotedRun? {q : Char} :
    ∀ {text inside after : Text}, quotedRun? q text = some (inside, after) →
      ∃ written, inside = double q written
  | [], _, _, read => by simp [quotedRun?] at read
  | [c], inside, after, read => by
      rw [quotedRun?] at read
      split at read
      · cases read
        exact ⟨[], rfl⟩
      · contradiction
  | c :: d :: rest, inside, after, read => by
      rw [quotedRun?] at read
      split at read
      · split at read
        · split at read
          · rename_i run
            cases read
            obtain ⟨written, rfl⟩ := exists_double_of_quotedRun? run
            exact ⟨q :: written, by rw [double, if_pos rfl]⟩
          · cases read
            exact ⟨[], rfl⟩
        · cases read
          exact ⟨[], rfl⟩
      · rename_i other
        obtain ⟨run, further, same⟩ := Option.map_eq_some_iff.1 read
        cases same
        obtain ⟨written, inside⟩ := exists_double_of_quotedRun? further
        exact ⟨c :: written, by rw [double, if_neg other, inside]⟩

/-- What is skipped in front of the end of a value is a cast or nothing. -/
theorem exists_cast (text : Text) :
    ∃ cast, (cast = [] ∨ IsCast cast) ∧ text = cast ++ skipCast text := by
  unfold skipCast
  split
  · rename_i rest colons
    split
    · exact ⟨[], .inl rfl, rfl⟩
    · rename_i c behind begins
      obtain ⟨lead, leadBlank, cut⟩ := exists_blank_append text
      obtain ⟨gap, gapBlank, cut'⟩ := exists_blank_append rest
      have name : (behind.takeWhile continuesType).all continuesType = true :=
        List.all_takeWhile
      have whole : text =
          lead ++ ':' :: ':' :: (gap ++ c :: (behind.takeWhile continuesType ++
            behind.dropWhile continuesType)) := by
        rw [List.takeWhile_append_dropWhile, ← begins, ← cut', ← colons]
        exact cut
      split
      · rename_i identifier
        split
        · rename_i array
          rw [array] at whole
          refine ⟨_, .inr ⟨lead, gap, c, _, ['[', ']'], rfl, leadBlank, gapBlank, identifier, name,
            .inr rfl⟩, ?_⟩
          simpa only [List.append_assoc, List.cons_append, List.nil_append] using whole
        · refine ⟨_, .inr ⟨lead, gap, c, _, [], rfl, leadBlank, gapBlank, identifier, name,
            .inl rfl⟩, ?_⟩
          simpa only [List.append_assoc, List.cons_append, List.append_nil] using whole
      · exact ⟨[], .inl rfl, rfl⟩
  · exact ⟨[], .inl rfl, rfl⟩

/-- A bare value that is read on ends in a character that is no blank, in front of what ends it. -/
theorem longestBare?_eq_some {text bare : Text} {last : Bool × Text}
    (read : longestBare? text = some (bare, last)) :
    ∃ after, text = bare ++ after ∧ ending? .outside after = some last ∧ bare ≠ [] ∧
      (∀ c ∈ bare, endsBare c = false) ∧ ∀ c, bare.getLast? = some c → isBlank c = false := by
  induction text generalizing bare with
  | nil => simp [longestBare?] at read
  | cons c rest ih =>
      rw [longestBare?] at read
      split at read
      · contradiction
      · rename_i noEnd
        have noEnd : endsBare c = false := by simpa using noEnd
        split at read
        · rename_i further
          cases read
          obtain ⟨after, cut, ends, filled, inside, noBlank⟩ := ih further
          refine ⟨after, by rw [cut, List.cons_append], ends, by simp, ?_, ?_⟩
          · simpa [noEnd] using inside
          · rwa [List.getLast?_cons_of_ne_nil filled]
        · split at read
          · contradiction
          · rename_i stops
            simp only [Bool.or_eq_true, not_or, Bool.not_eq_true] at stops
            obtain ⟨last, ends, same⟩ := Option.map_eq_some_iff.1 read
            cases same
            exact ⟨rest, rfl, ends, by simp, by simpa using noEnd, by simpa using stops.1⟩

theorem not_prefix_of_not_opensComment {c : Char} {rest piece after : Text}
    (noComment : opensComment c rest = false) (cut : c :: rest = piece ++ after) :
    ¬['/', '*'] <+: piece := by
  rintro ⟨behind, rfl⟩
  cases cut
  simp [opensComment] at noComment

theorem bare?_eq_some {c : Char} {rest bare : Text} {last : Bool × Text}
    (read : bare? c rest = some (bare, last)) :
    ∃ after, c :: rest = bare ++ after ∧ ending? .outside after = some last ∧ IsBare bare := by
  unfold bare? at read
  split at read
  · contradiction
  · rename_i begins
    simp only [Bool.or_eq_true, not_or, Bool.not_eq_true] at begins
    obtain ⟨⟨noBlank, noEnd⟩, noComment⟩ := begins
    split at read
    · rename_i further
      cases read
      split at further
      · contradiction
      · rename_i noCommentBehind
        obtain ⟨after, cut, ends, filled, inside, noBlankEnd⟩ := longestBare?_eq_some further
        have whole : c :: rest = c :: _ ++ after := congrArg (c :: ·) cut
        refine ⟨after, whole, ends, ?_⟩
        refine
          { filled := by simp
            inside := by simpa [noEnd] using inside
            begins := by simpa using noBlank
            ends := by rwa [List.getLast?_cons_of_ne_nil filled]
            noComment := not_prefix_of_not_opensComment noComment whole
            noCommentBehind := ?_ }
        cases rest with
        | nil => simp [longestBare?] at further
        | cons d rest =>
            exact not_prefix_of_not_opensComment (by simpa [beginsComment] using noCommentBehind)
              cut
    · obtain ⟨last, ends, same⟩ := Option.map_eq_some_iff.1 read
      cases same
      exact ⟨rest, rfl, ends,
        { filled := by simp
          inside := by simpa using noEnd
          begins := by simpa using noBlank
          ends := by simpa using noBlank
          noComment := by simp
          noCommentBehind := by simp }⟩

/-- A value that is read takes blanks and the value itself, and its end is read behind them. -/
theorem value?_eq_some {text : Text} {token : ValueToken} (read : value? text = some token) :
    ∃ lead value behind, text = lead ++ (value ++ behind) ∧ lead.allBlank = true ∧
      IsValue value ∧ ending? .outside behind = some (token.isLast, token.rest) := by
  obtain ⟨lead, leadBlank, cut⟩ := exists_blank_append text
  unfold value? at read
  split at read
  · contradiction
  · rename_i c rest begins
    split at read
    · rename_i quote
      obtain ⟨⟨inside, after⟩, run, read⟩ := Option.bind_eq_some_iff.1 read
      obtain ⟨last, ends, rfl⟩ := Option.map_eq_some_iff.1 read
      obtain ⟨written, rfl⟩ := exists_double_of_quotedRun? run
      obtain ⟨cast, casts, behind⟩ := exists_cast after
      refine ⟨lead, literal written ++ cast, skipCast after, ?_, leadBlank, .literal written casts,
        ends⟩
      rw [List.append_assoc, literal_append, ← behind, ← eq_append_of_quotedRun? run, ← quote,
        ← begins]
      exact cut
    · obtain ⟨⟨bare, last⟩, run, rfl⟩ := Option.map_eq_some_iff.1 read
      obtain ⟨after, written, ends, isBare⟩ := bare?_eq_some run
      refine ⟨lead, bare, after, ?_, leadBlank, .bare isBare, ends⟩
      rw [← written, ← begins]
      exact cut

/-! ## Texts of which one value is taken -/

theorem afterComment?_eq {body : Text} (first : ClosesFirst body) (after : Text) :
    afterComment? (body ++ '*' :: '/' :: after) = some after := by
  induction body with
  | nil => rfl
  | cons c body ih =>
      have goesOn := first.not_marker ('/' :: after)
      cases body with
      | nil => simp [afterComment?]
      | cons d body =>
          rw [List.cons_append, List.head?_cons, Option.some.injEq] at goesOn
          rw [List.cons_append, List.cons_append, afterComment?, if_neg goesOn]
          exact ih first.of_cons

namespace Comments

variable {holds : Text → Prop} {trail : Text}

/-- Behind blanks stands the mark or a comment. -/
theorem skipBlanks_eq (comments : Comments holds trail) (isLast : Bool) (rest : Text) :
    skipBlanks (trail ++ endMark isLast :: rest) = endMark isLast :: rest ∨
      ∃ body others, holds body ∧ Comments holds others ∧
        skipBlanks (trail ++ endMark isLast :: rest) =
          '/' :: '*' :: (body ++ '*' :: '/' :: (others ++ endMark isLast :: rest)) := by
  induction comments with
  | nil => exact .inl (skipBlanks_of_not_isBlank (not_isBlank_endMark isLast) rest)
  | blank blank _ ih => rwa [List.cons_append, skipBlanks, List.dropWhile_cons_of_pos blank]
  | @comment body others inside comments _ =>
      refine .inr ⟨body, others, inside, comments, ?_⟩
      rw [List.cons_append, skipBlanks_of_not_isBlank rfl]
      simp

/-- Behind a comment the comments go on. -/
theorem behind_comment {tail : Text} (comments : Comments ClosesFirst trail) (isLast : Bool)
    (rest : Text) (begins : skipBlanks (trail ++ endMark isLast :: rest) = '/' :: '*' :: tail) :
    ∃ others, Comments ClosesFirst others ∧
      afterComment? tail = some (others ++ endMark isLast :: rest) := by
  rcases comments.skipBlanks_eq isLast rest with mark | ⟨body, others, first, comments, comment⟩
  · rw [mark] at begins
    cases isLast <;> simp [endMark] at begins
  · rw [comment] at begins
    cases begins
    exact ⟨others, comments, afterComment?_eq first _⟩

/-- Comments end in a blank or in a slash. -/
theorem getLast?_eq (comments : Comments holds trail) {c : Char}
    (ends : trail.getLast? = some c) : isBlank c = true ∨ c = '/' := by
  induction comments with
  | nil => contradiction
  | @blank d rest blank _ ih =>
      cases rest with
      | nil => exact .inl (by simpa [← Option.some.inj ends] using blank)
      | cons => exact ih (by rwa [List.getLast?_cons_cons] at ends)
  | @comment body rest inside _ ih =>
      have cut : '/' :: '*' :: (body ++ '*' :: '/' :: rest) =
          '/' :: '*' :: (body ++ ['*']) ++ '/' :: rest := by simp
      rw [cut, List.getLast?_append] at ends
      cases rest with
      | nil => exact .inr (by simpa using ends.symm)
      | cons d rest => exact ih (by simpa using ends)

theorem head?_ne_quote (comments : Comments holds trail) (isLast : Bool) (rest : Text) :
    (trail ++ endMark isLast :: rest).head? ≠ some '\'' := by
  cases comments with
  | nil => cases isLast <;> simp [endMark]
  | blank blank _ =>
      rintro quote
      cases quote
      contradiction
  | comment => simp

end Comments

/-- A cast stands at the colon behind the blanks. -/
theorem IsCast.skipBlanks_eq {cast : Text} (isCast : IsCast cast) (rest : Text) :
    (skipBlanks (cast ++ rest)).head? = some ':' := by
  obtain ⟨lead, gap, c, name, brackets, rfl, blank, -⟩ := isCast
  rw [List.append_assoc, skipBlanks_append blank, List.cons_append,
    skipBlanks_of_not_isBlank rfl, List.head?_cons]

theorem IsCast.head?_ne_quote {cast : Text} (isCast : IsCast cast) (rest : Text) :
    (cast ++ rest).head? ≠ some '\'' := by
  obtain ⟨lead, gap, c, name, brackets, rfl, blank, -⟩ := isCast
  cases lead with
  | nil => simp
  | cons d lead =>
      rintro quote
      cases quote
      simp [allBlank, isBlank] at blank

/-- Where a literal stands, the one value that is taken is this literal. -/
theorem TakesOneValue.of_quote {text rest inside after : Text}
    (takes : TakesOneValue ('\'' :: text) rest)
    (read : quotedRun? '\'' text = some (inside, after))
    (noCast : (skipBlanks after).head? ≠ some ':') :
    ∃ trail isLast, Comments ClosesFirst trail ∧ after = trail ++ endMark isLast :: rest := by
  obtain ⟨lead, value, trail, isLast, cut, blank, isValue, -, comments⟩ := takes
  cases lead with
  | cons c lead =>
      cases cut
      simp [allBlank, isBlank] at blank
  | nil =>
      cases isValue with
      | bare isBare =>
          obtain ⟨c, others, rfl⟩ := List.exists_cons_of_ne_nil isBare.filled
          cases cut
          exact absurd (isBare.inside '\'' List.mem_cons_self) (by decide)
      | @literal written cast casts =>
          rw [List.nil_append, List.append_assoc, literal_append, List.cons.injEq] at cut
          have alone : (cast ++ (trail ++ endMark isLast :: rest)).head? ≠ some '\'' := by
            rcases casts with rfl | isCast
            · exact comments.head?_ne_quote isLast rest
            · exact isCast.head?_ne_quote _
          rw [cut.2, quotedRun?_double alone] at read
          cases read
          rcases casts with rfl | isCast
          · exact ⟨trail, isLast, comments, rfl⟩
          · exact absurd (isCast.skipBlanks_eq _) noCast

/-- Where a bare value stands and no comment ends the text up to the mark, all of that text is the
one value that is taken. -/
theorem TakesOneValue.not_comment {c : Char} {piece rest : Text} {isLast : Bool}
    (takes : TakesOneValue (c :: piece ++ endMark isLast :: rest) rest)
    (begins : isBlank c = false) (noQuote : c ≠ '\'')
    (ends : ∀ d, (c :: piece).getLast? = some d → isBlank d = false ∧ d ≠ '/') :
    ¬['/', '*'] <:+: c :: piece := by
  obtain ⟨lead, value, trail, isLast', cut, blank, isValue, noComment, comments⟩ := takes
  have whole : c :: piece = lead ++ (value ++ trail) := by
    have same : c :: piece ++ [endMark isLast] ++ rest =
        lead ++ (value ++ trail) ++ [endMark isLast'] ++ rest := by simpa using cut
    exact (List.append_inj' (List.append_cancel_right same) rfl).1
  have noTrail : trail = [] := by
    by_contra filled
    have last := List.getLast?_eq_some_getLast filled
    have other := ends (trail.getLast filled) (by rw [whole]; simp [List.getLast?_append, last])
    rcases comments.getLast?_eq last with isBlank | slash
    · simp [isBlank] at other
    · exact other.2 slash
  have noLead : lead = [] := by
    cases lead with
    | nil => rfl
    | cons d lead =>
        cases whole
        simp [allBlank, begins] at blank
  subst noTrail noLead
  rw [List.nil_append, List.append_nil] at whole
  cases isValue with
  | bare isBare => exact whole ▸ noComment isBare
  | literal written casts =>
      rw [literal_append] at whole
      cases whole
      contradiction

end SeedCatalog.Sql
